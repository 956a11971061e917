import Merossity.Js.Number
import Merossity.Lib.OrdMap

/-!
JSON values as a JavaScript program handles them.

* `Json.ownEntries` are the own enumerable properties of a value, what a spread
  `{ ...v }` copies; `Json.get?` reads one of them and `path` is a chain of `?.`.
* `assign` is the assignment `o[k] = v` to an object made in the program, `Json.spread`
  and `merge` are object literals; `get_assign_self`, `get_assign_of_ne` and `get_merge` say what
  they do to every key. An assignment to `__proto__` replaces the prototype instead of making a
  property, so nothing of it reaches a spread or the text of the object.
* `truthy`, `coalesce`, `toText` and `toNumber` are the tests and conversions of the
  language: `Boolean(v)`, `v ?? w`, `String(v)` and `Number(v)`, the last two throwing
  on an object that hides its `toString`.
-/

namespace Js

/-- A JSON value. The fields of an object are in the order in which they were made. -/
inductive Json where
  | null
  | bool (b : Bool)
  | num (n : Number)
  | str (s : String)
  | arr (items : List Json)
  | obj (fields : List (String × Json))

/-- The fields of an object. -/
abbrev Fields : Type := List (String × Json)

namespace Json

/-! ### Properties -/

/-- The own enumerable properties of a value: an array and a string have their indices. -/
def ownEntries : Json → Fields
  | obj fs => fs
  | arr items => items.zipIdx.map fun e => (toString e.2, e.1)
  | str s => s.toList.zipIdx.map fun e => (toString e.2, str (String.ofList [e.1]))
  | _ => []

/-- `v[k]`, an own property; `none` is `undefined`. -/
def get? (v : Json) (k : String) : Option Json := Assoc.get v.ownEntries k

@[simp] lemma get?_obj (fs : Fields) (k : String) : (obj fs).get? k = Assoc.get fs k := rfl

/-- `v?.k`, where `v` may be `undefined`. -/
def opt (v : Option Json) (k : String) : Option Json := v.bind fun v => v.get? k

/-- `v?.k₁?.k₂?. …`. -/
def path (v : Json) (ks : List String) : Option Json := ks.foldl opt (some v)

/-- `v && typeof v === 'object' && !Array.isArray(v)`, together with the fields. -/
def record? : Json → Option Fields
  | obj fs => some fs
  | _ => none

/-- `typeof v === 'object'` of a value that is not null. -/
def isObject : Json → Bool
  | obj _ => true
  | arr _ => true
  | _ => false

/-- `typeof v === 'string'`, together with the string. -/
def str? : Json → Option String
  | str s => some s
  | _ => none

/-- `Array.isArray(v)`, together with the items. -/
def arr? : Json → Option (List Json)
  | arr items => some items
  | _ => none

end Json

/-! ### Object literals and assignments -/

/-- `o[k] = v`. An object without an own property `__proto__` takes such a `v` as its
prototype. -/
def assign (o : Fields) (k : String) (v : Json) : Fields :=
  if k = "__proto__" ∧ Assoc.get o k = none then o else Assoc.set o k v

/-- `{ ...a, ...b }`. -/
def merge (a b : Fields) : Fields := b.foldl (fun o e => Assoc.set o e.1 e.2) a

/-- `{ ...v, k: w }`. -/
def Json.spread (v : Json) (k : String) (w : Json) : Json := .obj (Assoc.set v.ownEntries k w)

lemma Json.get?_spread (v : Json) (k k' : String) (w : Json) :
    (v.spread k w).get? k' = if k = k' then some w else v.get? k' :=
  Assoc.get_set _ _ _ _

lemma get_assign_of_ne (o : Fields) {k k' : String} (h : k ≠ k') (v : Json) :
    Assoc.get (assign o k v) k' = Assoc.get o k' := by
  rw [assign]
  split
  · rfl
  · exact Assoc.get_set_of_ne o h v

lemma assign_of_ne (o : Fields) {k : String} (h : k ≠ "__proto__") (v : Json) :
    assign o k v = Assoc.set o k v :=
  if_neg fun hk => h hk.1

lemma get_assign_self (o : Fields) {k : String} (h : k ≠ "__proto__") (v : Json) :
    Assoc.get (assign o k v) k = some v := by
  rw [assign_of_ne o h, Assoc.get_set_self]

lemma nodup_merge {a : Fields} (ha : (a.map Prod.fst).Nodup) (b : Fields) :
    ((merge a b).map Prod.fst).Nodup := by
  induction b generalizing a with
  | nil => exact ha
  | cons e b ih => exact ih (Assoc.nodup_set ha e.1 e.2)

lemma mem_keys_merge {a b : Fields} {k : String} :
    k ∈ (merge a b).map Prod.fst ↔ k ∈ a.map Prod.fst ∨ k ∈ b.map Prod.fst := by
  induction b generalizing a with
  | nil => simp [merge]
  | cons e b ih =>
      have hstep : merge a (e :: b) = merge (Assoc.set a e.1 e.2) b := rfl
      rw [hstep, ih, Assoc.mem_keys_set, List.map_cons, List.mem_cons]
      tauto

/-- A literal with two spreads reads the second one first. -/
lemma get_merge (a : Fields) {b : Fields} (hb : (b.map Prod.fst).Nodup) (k : String) :
    Assoc.get (merge a b) k = (Assoc.get b k).or (Assoc.get a k) := by
  induction b generalizing a with
  | nil => rfl
  | cons e b ih =>
      obtain ⟨j, w⟩ := e
      simp only [List.map_cons, List.nodup_cons] at hb
      have hstep : merge a ((j, w) :: b) = merge (Assoc.set a j w) b := rfl
      rw [hstep, ih _ hb.2, Assoc.get_cons, Assoc.get_set]
      by_cases hk : j = k
      · subst hk
        rw [Assoc.get_eq_none_iff.mpr hb.1]
        simp
      · simp [hk]

/-! ### Tests and conversions -/

/-- `Boolean(v)`. -/
def truthy : Option Json → Bool
  | none => false
  | some .null => false
  | some (.bool b) => b
  | some (.num n) => match n with
    | .fin q => q ≠ 0
    | .inf _ => true
    | .nan => false
  | some (.str s) => s ≠ ""
  | some (.arr _) => true
  | some (.obj _) => true

/-- `v ?? w`. -/
def coalesce (v w : Option Json) : Option Json :=
  match v with
  | none => w
  | some .null => w
  | some v => some v

mutual

/-- `String(v)` of a JSON value. An object has no JSON function to convert itself with:
a property `toString` of its own makes the conversion throw. -/
def Json.toText : Json → Except String String
  | .null => .ok "null"
  | .bool b => .ok (if b then "true" else "false")
  | .num n => .ok n.toText
  | .str s => .ok s
  | .arr items => (itemTexts items).map (String.intercalate ",")
  | .obj fs =>
      if (Assoc.get fs "toString").isSome then .error "No default value"
      else .ok "[object Object]"

/-- The texts of the items of an array, as `join` makes them. -/
def itemTexts : List Json → Except String (List String)
  | [] => .ok []
  | .null :: vs => (itemTexts vs).map ("" :: ·)
  | v :: vs => v.toText.bind fun t => (itemTexts vs).map (t :: ·)

end

/-- `String(v)`, where `v` may be `undefined`. -/
def toText : Option Json → Except String String
  | none => .ok "undefined"
  | some v => v.toText

/-- `Number(v)`, where `v` may be `undefined`. -/
def toNumber : Option Json → Except String Number
  | none => .ok .nan
  | some .null => .ok (.fin 0)
  | some (.bool b) => .ok (.fin (if b then 1 else 0))
  | some (.num n) => .ok n
  | some (.str s) => .ok (numberOfString s)
  | some v => v.toText.map numberOfString

/-- What a sequence of conversions returns, if none of them throws. -/
lemma bind_eq_ok {ε α β : Type} {x : Except ε α} {f : α → Except ε β} {b : β}
    (h : x >>= f = .ok b) : ∃ a, x = .ok a ∧ f a = .ok b := by
  cases x with
  | error e => cases h
  | ok a => exact ⟨a, rfl, h⟩

section Map

variable {ε α β : Type} {x : Except ε α} {f : α → β}

/-- What is made of a conversion comes from one that does not throw. -/
lemma map_eq_ok {b : β} (h : x.map f = .ok b) : ∃ a, x = .ok a ∧ f a = b := by
  cases x with
  | error e => cases h
  | ok a => exact ⟨a, rfl, Except.ok.inj h⟩

lemma map_eq_error {e : ε} (h : x.map f = .error e) : x = .error e := by
  cases x with
  | error e' => exact congrArg Except.error (Except.error.inj h)
  | ok a => cases h

lemma ok_map_iff : (∃ b, x.map f = .ok b) ↔ ∃ a, x = .ok a := by
  constructor
  · rintro ⟨b, h⟩
    obtain ⟨a, ha, -⟩ := map_eq_ok h
    exact ⟨a, ha⟩
  · rintro ⟨a, rfl⟩
    exact ⟨f a, rfl⟩

end Map

lemma mapError_eq_ok {ε ε' α : Type} {x : Except ε α} {f : ε → ε'} {a : α}
    (h : x.mapError f = .ok a) : x = .ok a := by
  cases x with
  | error e => cases h
  | ok b => exact congrArg Except.ok (Except.ok.inj h)

/-- A value that is there although an error would be none comes from no error. -/
lemma eq_ok_of_toOption {ε α : Type} {x : Except ε α} {a : α} (h : x.toOption = some a) :
    x = .ok a := by
  cases x with
  | error e => cases h
  | ok b => exact congrArg Except.ok (Option.some.inj h)

end Js
