import Merossity.Api.RuleEdits

/-!
What a patch of a TimerX rule sends: `patch-device-timerx.ts`.

* `PatchFrame` compares the rule that is sent with the one that was read, key by key:
  `patchFrame_of_patchedRule`.
* `PatchAtomic` is the contract of the handler: an answer that is no success, unless the SET itself
  failed, has sent nothing, and a success has sent one such rule.
* After the SET the handler reports the rule, with conversions that throw for a value without a
  text. `patchAtomic_iff`: this is the only way in which the contract fails.
-/

namespace Merossity

open Js

/-! ### The rule that is sent -/

/-- The fields of a rule that a patch may write, apart from `extend`. -/
def writableFields : List String :=
  ["enable", "alias", "channel", "type", "week", "time", "sunOffset", "duration"]

/-- The numeric fields of a rule. -/
def numericFields : List String := ["channel", "type", "week", "time", "sunOffset", "duration"]

/-- A patch names a key of the rule. -/
def PatchNames (patch : Json) (k : String) : Prop :=
  (k ∈ writableFields ∧ patch.get? k ≠ none) ∨ (k = "extend" ∧ patch.get? "toggleOnoff" ≠ none)

/-- `1` for a value that is converted to 1, and otherwise `0`. -/
def flagOf (raw : Json) : Json := intNum (if toNumber (some raw) = .ok (.fin 1) then 1 else 0)

/-- The rule that is sent, against the rule that was read. -/
structure PatchFrame (patch : Json) (rule rule' : Fields) : Prop where
  other : ∀ k, ¬ PatchNames patch k → Assoc.get rule' k = Assoc.get rule k
  enable : ∀ raw, patch.get? "enable" = some raw → Assoc.get rule' "enable" = some (flagOf raw)
  text : ∀ raw, patch.get? "alias" = some raw → ∃ text,
    toText (coalesce (some raw) (some (.str ""))) = .ok text
      ∧ Assoc.get rule' "alias" = some (.str text)
  number : ∀ field ∈ numericFields, ∀ raw, patch.get? field = some raw → ∃ n,
    asFiniteInt (some raw) = some n ∧ (field = "channel" → 0 ≤ n)
      ∧ Assoc.get rule' field = some (intNum n)
  toggle : ∀ raw, patch.get? "toggleOnoff" = some raw →
    SwitchesAction (flagOf raw) (Assoc.get rule "extend") (Assoc.get rule' "extend")

/-- A flag of the patch that can be converted. -/
lemma patchFlag_eq_ok {patch : Json} {field : String} {flag : Option ℤ}
    (h : patchFlag patch field = .ok flag) :
    flag.map intNum = (patch.get? field).map flagOf := by
  rw [patchFlag] at h
  split at h
  next hnone =>
    obtain rfl := Except.ok.inj h
    rw [hnone]
    rfl
  next raw hraw =>
    rw [hraw, Option.map_some, flagOf]
    obtain ⟨n, hflag, rfl⟩ := map_eq_ok h
    obtain ⟨number, hnumber, rfl⟩ := map_eq_ok hflag
    rw [hnumber]
    simp only [Option.map_some, Except.ok.injEq]

lemma eq_none_of_flag {patch : Json} {field : String} {flag : Option ℤ}
    (h : flag.map intNum = (patch.get? field).map flagOf) (hflag : flag ≠ none) :
    patch.get? field ≠ none := by
  intro hnone
  rw [hnone, Option.map_none, Option.map_eq_none_iff] at h
  exact hflag h

section Edits

variable {patch : Json} {enable toggleOnoff : Option ℤ} {rule rule' : Fields}
  (henable : enable.map intNum = (patch.get? "enable").map flagOf)
  (htoggle : toggleOnoff.map intNum = (patch.get? "toggleOnoff").map flagOf)

include henable htoggle in
/-- An edit that is due is one of a key that the patch names. -/
lemma names_of_due {e : Assoc.Edit String Json} (he : e ∈ patchEdits patch enable toggleOnoff)
    (hdue : e.due) : PatchNames patch e.key := by
  simp only [patchEdits, List.mem_cons, List.not_mem_nil, or_false] at he
  rcases he with rfl | rfl | rfl | rfl | rfl | rfl | rfl | rfl | rfl
  · exact Or.inl ⟨List.mem_cons_self, eq_none_of_flag henable hdue⟩
  · exact Or.inl ⟨show "alias" ∈ writableFields by decide, hdue⟩
  · exact Or.inl ⟨show "channel" ∈ writableFields by decide, hdue⟩
  · exact Or.inl ⟨show "type" ∈ writableFields by decide, hdue⟩
  · exact Or.inl ⟨show "week" ∈ writableFields by decide, hdue⟩
  · exact Or.inl ⟨show "time" ∈ writableFields by decide, hdue⟩
  · exact Or.inl ⟨show "sunOffset" ∈ writableFields by decide, hdue⟩
  · exact Or.inl ⟨show "duration" ∈ writableFields by decide, hdue⟩
  · exact Or.inr ⟨rfl, eq_none_of_flag htoggle hdue⟩

omit henable htoggle in
lemma numberEdit_mem {field : String} (h : field ∈ numericFields) :
    ∃ nonNegative, (field = "channel" → nonNegative = true)
      ∧ numberEdit patch nonNegative field ∈ patchEdits patch enable toggleOnoff := by
  simp only [numericFields, List.mem_cons, List.not_mem_nil, or_false] at h
  rcases h with rfl | h
  · exact ⟨true, fun _ => rfl, by simp [patchEdits]⟩
  · refine ⟨false, fun hchannel => ?_, ?_⟩
    · subst hchannel
      exact absurd h (by decide)
    · rcases h with rfl | rfl | rfl | rfl | rfl <;> simp [patchEdits]

include henable htoggle in
/-- The edits of a patch leave the rule as it should be. -/
lemma patchFrame_of_edits (h : Assoc.Edits (patchEdits patch enable toggleOnoff) rule rule') :
    PatchFrame patch rule rule' := by
  have hkeys : ((patchEdits patch enable toggleOnoff).map Assoc.Edit.key).Nodup := by
    rw [keys_patchEdits]
    decide
  constructor
  · intro k hk
    refine h.frame fun e he hdue hkey => hk ?_
    exact hkey ▸ names_of_due henable htoggle he hdue
  · intro raw hraw
    rw [hraw, Option.map_some] at henable
    have hdue : enable ≠ none := by
      rintro rfl
      cases henable
    rw [← henable]
    exact h.value hkeys (e := enableEdit enable) (by simp [patchEdits]) hdue
  · intro raw hraw
    have hdue : patch.get? "alias" ≠ none := by
      rw [hraw]
      exact Option.some_ne_none raw
    rw [← hraw]
    exact h.value hkeys (e := aliasEdit patch) (by simp [patchEdits]) hdue
  · intro field hfield raw hraw
    have hdue : patch.get? field ≠ none := by
      rw [hraw]
      exact Option.some_ne_none raw
    obtain ⟨nonNegative, hchannel, hmem⟩ := @numberEdit_mem patch enable toggleOnoff field hfield
    obtain ⟨n, hn, hneg, hvalue⟩ := h.value hkeys hmem hdue
    exact ⟨n, hraw ▸ hn, fun hfield => hneg (hchannel hfield), hvalue⟩
  · intro raw hraw
    rw [hraw, Option.map_some] at htoggle
    have hdue : toggleOnoff ≠ none := by
      rintro rfl
      cases htoggle
    obtain ⟨n, rfl, hswitch⟩ :=
      h.value hkeys (e := toggleEdit toggleOnoff) (by simp [patchEdits]) hdue
    rw [← Option.some.inj htoggle]
    exact hswitch

end Edits

/-- The rule that is sent is the one that was read, but for what the patch names. -/
lemma patchFrame_of_patchedRule {body : Json} {rule rule' : Fields}
    (h : patchedRule body rule = some rule') : PatchFrame (requestPatch body) rule rule' := by
  obtain ⟨enable, toggleOnoff, henable, htoggle, hpatch⟩ := patchedRule_eq_some h
  exact patchFrame_of_edits (patchFlag_eq_ok henable) (patchFlag_eq_ok htoggle)
    (edits_patchTimerXRule hpatch)

/-! ### The report -/

/-- `String(v)`, and so `Number(v)`, does not throw. -/
def HasText (v : Json) : Prop := ∃ text, v.toText = .ok text

lemma toNumber_ok_iff (v : Json) : (∃ n, toNumber (some v) = .ok n) ↔ HasText v := by
  rw [HasText]
  cases v with
  | null => exact iff_of_true ⟨_, rfl⟩ ⟨_, rfl⟩
  | bool b => exact iff_of_true ⟨_, rfl⟩ ⟨_, rfl⟩
  | num n => exact iff_of_true ⟨_, rfl⟩ ⟨_, rfl⟩
  | str s => exact iff_of_true ⟨_, rfl⟩ ⟨_, rfl⟩
  | arr items => exact ok_map_iff
  | obj fs => exact ok_map_iff

/-- A sequence of conversions returns if each of them does. -/
lemma ok_bind_iff {α β : Type} {x : Except String α} {f : α → Except String β} {P : Prop}
    (hf : ∀ a, (∃ b, f a = .ok b) ↔ P) : (∃ b, x >>= f = .ok b) ↔ (∃ a, x = .ok a) ∧ P := by
  cases x with
  | error e => simp [bind, Except.bind]
  | ok a =>
      simp only [Except.ok.injEq, exists_eq', true_and]
      exact hf a

/-- The fields of a rule that are converted for the report. -/
def convertedFields : List String :=
  ["enable", "channel", "alias", "type", "week", "time", "sunOffset", "duration"]

lemma coerce01_ok_iff (v : Json) :
    (∃ w, (coerce01 (some v)).map intNum = .ok w) ↔ HasText v := by
  rw [ok_map_iff, coerce01, ok_map_iff, toNumber_ok_iff]

/-- A rule with an identifier can be reported if the fields that are converted have texts. -/
lemma parseTimerXRule_ok_iff {raw : Fields} (hid : hasRuleId raw = true) :
    (∃ fields, parseTimerXRule raw = .ok fields) ↔
      ∀ k ∈ convertedFields, ∀ v, Assoc.get raw k = some v → HasText v := by
  have hidtext : ∃ text, toText (coalesce (Assoc.get raw "id") (some (.str ""))) = .ok text := by
    obtain ⟨id, hget⟩ := exists_id_of_hasRuleId hid
    rw [hget]
    exact ⟨_, rfl⟩
  have hnumber : ∀ v : Json, (∃ w, (toNumber (some v)).map Json.num = .ok w) ↔ HasText v :=
    fun v => ok_map_iff.trans (toNumber_ok_iff v)
  have htext : ∀ v : Json,
      (∃ w, (toText (coalesce (some v) (some (.str "")))).map Json.str = .ok w) ↔ HasText v :=
    fun v => ok_map_iff.trans (ok_coalesce_iff v)
  rw [parseTimerXRule]
  refine (ok_bind_iff fun id => ok_bind_iff fun enable => ok_bind_iff fun channel =>
    ok_bind_iff fun alias_ => ok_bind_iff fun type => ok_bind_iff fun week =>
    ok_bind_iff fun time => ok_bind_iff fun sunOffset => ok_bind_iff fun duration =>
    ok_bind_iff fun extend => iff_of_true ⟨_, rfl⟩ trivial).trans ?_
  have hextend : ∃ fs, optionalField raw "extend" .ok = .ok fs :=
    ok_optionalField_iff.mpr fun v _ => ⟨v, rfl⟩
  simp only [hidtext, hextend, ok_optionalField_iff, coerce01_ok_iff, hnumber, htext,
    convertedFields, List.forall_mem_cons, List.not_mem_nil, true_and, and_true]
  simp

mutual

/-- The rule that the search picks has an identifier. -/
lemma hasRuleId_of_asRuleRecord (kind : String) :
    ∀ {v : Json} {fs : Fields}, asRuleRecord kind v = some fs → hasRuleId fs = true
  | .arr items, _, h => hasRuleId_of_asRuleRecordIn kind h
  | .obj fs, _, h => by
      rw [asRuleRecord] at h
      split at h
      next hid => exact Option.some.inj h ▸ hid
      next => exact hasRuleId_of_asRuleRecordAt kind h
  | .null, _, h => by cases h
  | .bool _, _, h => by cases h
  | .num _, _, h => by cases h
  | .str _, _, h => by cases h

lemma hasRuleId_of_asRuleRecordIn (kind : String) :
    ∀ {vs : List Json} {fs : Fields}, asRuleRecordIn kind vs = some fs → hasRuleId fs = true
  | [], _, h => by cases h
  | v :: vs, _, h => by
      rw [asRuleRecordIn, Option.or_eq_some_iff] at h
      rcases h with h | ⟨-, h⟩
      · exact hasRuleId_of_asRuleRecord kind h
      · exact hasRuleId_of_asRuleRecordIn kind h

lemma hasRuleId_of_asRuleRecordAt (kind : String) :
    ∀ {es : Fields} {fs : Fields}, asRuleRecordAt kind es = some fs → hasRuleId fs = true
  | [], _, h => by cases h
  | e :: es, _, h => by
      rw [asRuleRecordAt] at h
      split at h
      next => exact hasRuleId_of_asRuleRecordField kind h
      next => exact hasRuleId_of_asRuleRecordAt kind h

lemma hasRuleId_of_asRuleRecordField (kind : String) :
    ∀ {e : String × Json} {fs : Fields},
      asRuleRecordField kind e = some fs → hasRuleId fs = true
  | (_, _), _, h => hasRuleId_of_asRuleRecord kind h

end

/-- The rule that is sent can be reported if the fields that the patch does not name can. -/
lemma reportable_iff {body : Json} {resp : Json} {rule rule' : Fields}
    (hrule : currentRule "timerx" resp = some rule) (h : patchedRule body rule = some rule') :
    (∃ fields, parseTimerXRule rule' = .ok fields) ↔
      ∀ k ∈ convertedFields, (requestPatch body).get? k = none →
        ∀ v, Assoc.get rule k = some v → HasText v := by
  have hframe := patchFrame_of_patchedRule h
  have hid : hasRuleId rule' = true := by
    obtain ⟨v, -, hv⟩ := Option.bind_eq_some_iff.mp hrule
    have hnames : ¬ PatchNames (requestPatch body) "id" := by
      rintro (⟨hmem, -⟩ | ⟨heq, -⟩)
      · exact absurd hmem (by decide)
      · exact absurd heq (by decide)
    have hrule := hasRuleId_of_asRuleRecord "timerx" hv
    rwa [hasRuleId, ← hframe.other "id" hnames] at hrule
  rw [parseTimerXRule_ok_iff hid]
  refine forall_congr' fun k => forall_congr' fun hk => ?_
  cases hnamed : (requestPatch body).get? k with
  | none =>
      have hnames : ¬ PatchNames (requestPatch body) k := by
        rintro (⟨-, hsome⟩ | ⟨rfl, -⟩)
        · exact hsome hnamed
        · exact absurd hk (by decide)
      rw [hframe.other k hnames]
      exact ⟨fun hall _ => hall, fun hall => hall rfl⟩
  | some raw =>
      -- what the patch has written is a number or a text
      refine iff_of_true (fun v hv => ?_) (Option.some_ne_none raw).elim
      by_cases hnumeric : k ∈ numericFields
      · obtain ⟨n, -, -, hn⟩ := hframe.number k hnumeric raw hnamed
        exact Option.some.inj (hn.symm.trans hv) ▸ ⟨_, rfl⟩
      · have hother : k = "enable" ∨ k = "alias" := by
          simp only [convertedFields, numericFields, List.mem_cons, List.not_mem_nil, or_false,
            not_or] at hk hnumeric
          tauto
        rcases hother with rfl | rfl
        · exact Option.some.inj ((hframe.enable raw hnamed).symm.trans hv) ▸ ⟨_, rfl⟩
        · obtain ⟨text, -, htext⟩ := hframe.text raw hnamed
          exact Option.some.inj (htext.symm.trans hv) ▸ ⟨_, rfl⟩

/-! ### The contract of the handler -/

/-- The patch handler is atomic: an answer that is no success, unless it is the SET that failed, has
sent none, and a success has sent one, of the rule that was read with what the patch names. -/
structure PatchAtomic (req : Request) (log : List Exchange) (r : Except JsError Response) :
    Prop where
  failure : ¬ Answered r → (∃ ex ∈ log, ex.1.message.method = "SET" ∧ Failed ex) ∨
    ∀ ex ∈ log, ex.1.message.method ≠ "SET"
  success : Answered r → ∃ g ex resp rule rule', log = [g, ex]
    ∧ g.1.message.method = "GET" ∧ ex.1.message.method = "SET" ∧ receive g.2 = .ok resp
    ∧ currentRule "timerx" resp = some rule
    ∧ ex.1.message.payload = .obj [("timerx", .obj rule')]
    ∧ PatchFrame (requestPatch (parseJsonBody req)) rule rule'

/-- When a SET is received, the fields of the rule that are converted for the report have texts,
apart from those that the patch names. -/
def PatchReportable (req : Request) (log : List Exchange) : Prop :=
  ∀ g ∈ log, g.1.message.method = "GET" → ∀ ex ∈ log, ex.1.message.method = "SET" →
    ¬ Failed ex → ∀ resp, receive g.2 = .ok resp → ∀ rule, currentRule "timerx" resp = some rule →
      ∀ k ∈ convertedFields, (requestPatch (parseJsonBody req)).get? k = none →
        ∀ v, Assoc.get rule k = some v → HasText v

/-- Without a SET there is nothing to report. -/
lemma patchReportable_of_no_set {req : Request} {log : List Exchange}
    (h : ∀ ex ∈ log, ex.1.message.method ≠ "SET") : PatchReportable req log :=
  fun _ _ _ ex hex hset => absurd hset (h ex hex)

/-- With a GET and a SET, it is about the rule in the reply to the GET. -/
lemma patchReportable_pair_iff {req : Request} {g ex : Exchange} {resp : Json}
    {rule rule' : Fields} (hget : g.1.message.method = "GET") (hset : ex.1.message.method = "SET")
    (hresp : receive g.2 = .ok resp) (hrule : currentRule "timerx" resp = some rule)
    (hpatched : patchedRule (parseJsonBody req) rule = some rule') :
    PatchReportable req [g, ex] ↔ (¬ Failed ex → ∃ fields, parseTimerXRule rule' = .ok fields) := by
  rw [reportable_iff hrule hpatched]
  constructor
  · intro h hok
    exact h g List.mem_cons_self hget ex (List.mem_cons_of_mem _ List.mem_cons_self) hset hok resp
      hresp rule hrule
  · intro h g' hg' hget' ex' hex' hset' hok resp' hresp' rule₁ hrule₁
    have hg : g' = g := by
      rcases List.mem_cons.mp hg' with rfl | hmem
      · rfl
      · obtain rfl := List.mem_singleton.mp hmem
        exact absurd (hget'.symm.trans hset) (by decide)
    have hex : ex' = ex := by
      rcases List.mem_cons.mp hex' with rfl | hmem
      · exact absurd (hget.symm.trans hset') (by decide)
      · exact List.mem_singleton.mp hmem
    subst hg hex
    obtain rfl := Except.ok.inj (hresp.symm.trans hresp')
    obtain rfl := Option.some.inj (hrule.symm.trans hrule₁)
    exact h hok

/-- The messages and the answer of the handler are atomic exactly if what it sends can be
reported. -/
lemma PatchLog.atomic_iff {req : Request} {log : List Exchange} {r : Except JsError Response}
    (h : PatchLog req log r) : PatchAtomic req log r ↔ PatchReportable req log := by
  have hfailure : ∀ {log r}, ¬ Answered r → (∀ ex ∈ log, ex.1.message.method ≠ "SET") →
      (PatchAtomic req log r ↔ PatchReportable req log) := fun hr hlog =>
    iff_of_true ⟨fun _ => Or.inr hlog, fun ha => absurd ha hr⟩ (patchReportable_of_no_set hlog)
  cases h with
  | silent r hr => exact hfailure hr fun ex hex => absurd hex List.not_mem_nil
  | asked g r hget hnone hr =>
      refine hfailure hr fun ex hex hset => ?_
      obtain rfl := List.mem_singleton.mp hex
      exact absurd (hget.symm.trans hset) (by decide)
  | lost g ex resp rule rule' r hget hresp hrule hpatched hset hpayload hfail hr =>
      rw [patchReportable_pair_iff hget hset hresp hrule hpatched]
      refine iff_of_true ⟨fun _ => Or.inl ?_, fun ha => absurd ha hr⟩ fun hok => absurd hfail hok
      exact ⟨ex, List.mem_cons_of_mem _ List.mem_cons_self, hset, hfail⟩
  | reported g ex resp rule rule' data hget hresp hrule hpatched hset hpayload hparse =>
      rw [patchReportable_pair_iff hget hset hresp hrule hpatched]
      refine iff_of_true ⟨fun hr => absurd ⟨data, rfl⟩ hr, fun _ => ?_⟩ fun _ => hparse
      exact ⟨g, ex, resp, rule, rule', rfl, hget, hset, hresp, hrule, hpayload,
        patchFrame_of_patchedRule hpatched⟩
  | unreported g ex resp rule rule' r m hget hresp hrule hpatched hset hpayload hparse hr =>
      rw [patchReportable_pair_iff hget hset hresp hrule hpatched]
      constructor
      · intro hatomic hok
        rcases hatomic.failure hr with ⟨ex', hex', hset', hfail⟩ | hnone
        · rcases List.mem_cons.mp hex' with rfl | hmem
          · exact absurd (hget.symm.trans hset') (by decide)
          · obtain rfl := List.mem_singleton.mp hmem
            exact absurd hfail hok
        · exact absurd hset (hnone ex (List.mem_cons_of_mem _ List.mem_cons_self))
      · intro hreports
        refine ⟨fun _ => Or.inl ⟨ex, List.mem_cons_of_mem _ List.mem_cons_self, hset, ?_⟩,
          fun ha => absurd ha hr⟩
        by_contra hok
        obtain ⟨fields, hfields⟩ := hreports hok
        rw [hparse] at hfields
        cases hfields

/-- The messages and the answer of every run of the handler. -/
lemma patchLog_run (poller : Bool) (req : Request) (env : Environment) :
    PatchLog req
      (exchanges (Prog.run env (createPatchDeviceTimerXHandler poller req).run).2)
      (Prog.run env (createPatchDeviceTimerXHandler poller req).run).1 :=
  @lanLog_run _ _ (fun log r => PatchLog req log r) (@patchLog_handler req poller) env

/-- **A patch is atomic and changes only what it names** exactly in the runs in which the fields of
the rule that it does not name can be reported, once a SET is received. -/
theorem patchAtomic_iff (poller : Bool) (req : Request) (env : Environment) :
    PatchAtomic req
        (exchanges (Prog.run env (createPatchDeviceTimerXHandler poller req).run).2)
        (Prog.run env (createPatchDeviceTimerXHandler poller req).run).1 ↔
      PatchReportable req
        (exchanges (Prog.run env (createPatchDeviceTimerXHandler poller req).run).2) :=
  (patchLog_run poller req env).atomic_iff

/-- A device whose rule has a channel without a text: the rule is enabled, and the answer is an
error. -/
theorem patch_reports_failure : ¬ ∀ (poller : Bool) (req : Request) (env : Environment),
    PatchAtomic req
      (exchanges (Prog.run env (createPatchDeviceTimerXHandler poller req).run).2)
      (Prog.run env (createPatchDeviceTimerXHandler poller req).run).1 := by
  intro hall
  have hatomic := hall false
    ⟨"application/json", some (.obj [("uuid", .str "u"), ("id", .str "a"),
      ("patch", .obj [("enable", .num (.fin 1))])])⟩
    fun _ => RuleEdit.answering (.obj [("payload", .obj [("timerx",
      .obj [("id", .str "a"), ("channel", .obj [("toString", .null)])])])])
  rw [(patchLog_run _ _ _).atomic_iff] at hatomic
  have htext := hatomic _ List.mem_cons_self rfl _ (List.mem_cons_of_mem _ List.mem_cons_self) rfl
    (by rintro ⟨m, hm⟩; cases hm) _ rfl _ rfl "channel" (by decide) rfl _ rfl
  obtain ⟨text, htext⟩ := htext
  cases htext

end Merossity
