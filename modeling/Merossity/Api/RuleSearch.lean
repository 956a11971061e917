import Merossity.Api.ScheduleHandlers
import Merossity.Lib.DepthFirst

/-!
The search for a rule in the reply of a device, as `get-device-timerx.ts`,
`patch-device-timerx.ts`, `delete-device-timerx.ts` and `delete-device-triggerx.ts` make it. Each of
them has a copy of its own, under the name `asTimerRuleRecord` or `asTriggerRuleRecord`.

* `entered kind v` are the values that a search goes on with: the items of an array, and what a
  record without an id has under `kind`. With these the search is one in depth
  (`searches_asRuleRecord`), and it ends, since each of them is smaller than `v` (`wf_entered`).
* `rule_search`: the first rule that can be reached is found, in the order of the paths to it, and
  it is found as it stands in the reply.
-/

namespace Merossity

open Js DepthFirst

/-- `asTimerRuleRecord`. -/
def asTimerRuleRecord : Json → Option Fields := asRuleRecord "timerx"

/-- `asTriggerRuleRecord`. -/
def asTriggerRuleRecord : Json → Option Fields := asRuleRecord "triggerx"

/-! ### What the search enters -/

/-- A record with an id that is not blank. -/
def isRule : Json → Bool
  | .obj fs => hasRuleId fs
  | _ => false

/-- The values that the search goes on with. -/
def entered (kind : String) : Json → List Json
  | .arr items => items
  | .obj fs => if hasRuleId fs then [] else (Assoc.get fs kind).toList
  | _ => []

/-- `w` is a part of `v`, or `v` itself. -/
inductive SubValue : Json → Json → Prop where
  | refl (v : Json) : SubValue v v
  | item {items : List Json} {v w : Json} (hv : v ∈ items) (hw : SubValue v w) :
      SubValue (.arr items) w
  | field {fs : Fields} {k : String} {v w : Json} (hv : Assoc.get fs k = some v)
      (hw : SubValue v w) : SubValue (.obj fs) w

/-- A step of the search leads to an item of an array, or to a field. -/
lemma mem_entered {kind : String} {v c : Json} (h : c ∈ entered kind v) :
    (∃ items, v = .arr items ∧ c ∈ items) ∨
      ∃ fs, v = .obj fs ∧ hasRuleId fs = false ∧ Assoc.get fs kind = some c := by
  cases v with
  | arr items => exact .inl ⟨items, rfl, h⟩
  | obj fs =>
      rw [entered] at h
      split_ifs at h with hid
      · cases h
      · exact .inr ⟨fs, rfl, Bool.eq_false_iff.mpr hid, Option.mem_toList.mp h⟩
  | null => cases h
  | bool b => cases h
  | num n => cases h
  | str s => cases h

/-- Nothing is entered without end. -/
lemma wf_entered (kind : String) : WellFounded fun c v => c ∈ entered kind v := by
  refine Subrelation.wf (fun {c v} h => ?_) (measure (sizeOf : Json → ℕ)).wf
  rcases mem_entered h with ⟨items, rfl, hmem⟩ | ⟨fs, rfl, -, hget⟩
  · have hlt := List.sizeOf_lt_of_mem hmem
    have harr : sizeOf (Json.arr items) = 1 + sizeOf items := by simp
    exact show sizeOf c < sizeOf (Json.arr items) by omega
  · have hlt := List.sizeOf_lt_of_mem (Assoc.mem_of_get hget)
    have hpair : sizeOf (kind, c) = 1 + sizeOf kind + sizeOf c := by simp
    have hobj : sizeOf (Json.obj fs) = 1 + sizeOf fs := by simp
    exact show sizeOf c < sizeOf (Json.obj fs) by omega

lemma subValue_of_at {kind : String} {v w : Json} {path : List ℕ}
    (h : At (entered kind) v path w) : SubValue v w := by
  induction h with
  | here v => exact .refl v
  | child hc _ ih =>
      rcases mem_entered (List.mem_of_getElem? hc) with ⟨items, rfl, hmem⟩ | ⟨fs, rfl, -, hget⟩
      · exact .item hmem ih
      · exact .field hget ih

/-! ### The search -/

lemma asRuleRecordIn_eq (kind : String) (items : List Json) :
    asRuleRecordIn kind items = items.findSome? (asRuleRecord kind) := by
  induction items with
  | nil => rfl
  | cons v vs ih =>
      rw [asRuleRecordIn, List.findSome?_cons, ih]
      cases asRuleRecord kind v <;> rfl

lemma asRuleRecordAt_eq (kind : String) (fs : Fields) :
    asRuleRecordAt kind fs = (Assoc.get fs kind).bind (asRuleRecord kind) := by
  induction fs with
  | nil => rfl
  | cons e fs ih =>
      obtain ⟨k, v⟩ := e
      rw [asRuleRecordAt, Assoc.get_cons, ih]
      split_ifs <;> rfl

/-- The rule that is found, as a value. -/
def foundRule (search : Json → Option Fields) (v : Json) : Option Json := (search v).map .obj

/-- The search looks at a value, and then into what it enters, from the left. -/
lemma searches_asRuleRecord (kind : String) :
    Searches (entered kind) (fun v => isRule v = true) (foundRule (asRuleRecord kind)) where
  search_eq v := by
    cases v with
    | arr items =>
        simp only [foundRule, asRuleRecord, asRuleRecordIn_eq, isRule, entered,
          Bool.false_eq_true, if_false, List.map_findSome?]
        rfl
    | obj fs =>
        simp only [foundRule, asRuleRecord, asRuleRecordAt_eq, isRule, entered]
        split_ifs with hid
        · rfl
        · cases hget : Assoc.get fs kind with
          | none => rfl
          | some c => simp [foundRule]
    | null => rfl
    | bool b => rfl
    | num n => rfl
    | str s => rfl

/-- What a search for rules under `kind` has to do: it finds the first rule that can be reached,
which is a part of the value, and nothing only if there is none. -/
structure SearchesRules (kind : String) (search : Json → Option Fields) : Prop where
  leftmost : ∀ v rule, search v = some rule ↔
    ∃ path, Leftmost (entered kind) (fun w => isRule w = true) v path (.obj rule)
  exhaustive : ∀ v, search v = none ↔
    ¬ ∃ path w, At (entered kind) v path w ∧ isRule w = true
  part : ∀ v rule, search v = some rule → SubValue v (.obj rule)

lemma searchesRules_asRuleRecord (kind : String) : SearchesRules kind (asRuleRecord kind) := by
  have hsome : ∀ v rule, asRuleRecord kind v = some rule ↔
      foundRule (asRuleRecord kind) v = some (.obj rule) := by
    intro v rule
    simp [foundRule]
  have hnone : ∀ v, asRuleRecord kind v = none ↔ foundRule (asRuleRecord kind) v = none := by
    intro v
    simp [foundRule]
  have hleftmost : ∀ v rule, asRuleRecord kind v = some rule ↔
      ∃ path, Leftmost (entered kind) (fun w => isRule w = true) v path (.obj rule) := fun v rule =>
    (hsome v rule).trans ((searches_asRuleRecord kind).eq_some_iff (wf_entered kind))
  refine ⟨hleftmost, fun v => ?_, fun v rule h => ?_⟩
  · exact (hnone v).trans ((searches_asRuleRecord kind).eq_none_iff (wf_entered kind))
  · obtain ⟨path, hpath⟩ := (hleftmost v rule).mp h
    exact subValue_of_at hpath.reached

/-- **The search for rules.** The searches under `timerx` and under `triggerx` are the same but for
the name of the field: each finds the leftmost rule that it can reach, as it stands. -/
theorem rule_search : SearchesRules "timerx" asTimerRuleRecord ∧
    SearchesRules "triggerx" asTriggerRuleRecord :=
  ⟨searchesRules_asRuleRecord "timerx", searchesRules_asRuleRecord "triggerx"⟩

end Merossity
