import Mathlib.Tactic

/-!
The first hit in a list.

* `FirstOf R l o`: the first element of the list with something in the relation `R` has `o`, or
  there is none and `o` is `none`.
* `Agree hit R` says of a list that a search with `hit` finds what comes first in `R`, in terms of
  the first element that one of the two is about. **`firstOf_findSome?_iff`**: these are all the
  lists for which it does.
-/

variable {α β : Type*} {hit : α → Option β} {R : α → β → Prop} {l : List α} {o : Option β} {b : β}

/-! ### First elements -/

/-- What the first element of a list with something in the relation has, if there is one. -/
def FirstOf (R : α → β → Prop) : List α → Option β → Prop
  | [], o => o = none
  | a :: l, o => (∃ b, R a b ∧ o = some b) ∨ (∀ b, ¬R a b) ∧ FirstOf R l o

/-- There is none, if no element has something. -/
lemma firstOf_none_iff : FirstOf R l none ↔ ∀ a ∈ l, ∀ b, ¬R a b := by
  induction l with
  | nil => simp [FirstOf]
  | cons a l ih => simp [FirstOf, ih]

/-- A search finds the first element that is hit. -/
lemma firstOf_hit_iff : FirstOf (fun a b => hit a = some b) l o ↔ l.findSome? hit = o := by
  induction l with
  | nil => rw [FirstOf, List.findSome?_nil, eq_comm]
  | cons a l ih =>
      rw [FirstOf, List.findSome?_cons]
      cases hit a with
      | none => simp [ih]
      | some b => simp [eq_comm]

/-! ### Searches -/

/-- The search with `hit` finds what comes first in `R`: the first element that is hit, or has
something in `R`, is hit and has it; or it is only hit, or only has it, and the element that comes
first in the other respect happens to make up for it. -/
inductive Agree (hit : α → Option β) (R : α → β → Prop) : List α → Prop
  | nil : Agree hit R []
  | right {a : α} {b : β} {l : List α} : hit a = some b → R a b → Agree hit R (a :: l)
  | skip {a : α} {l : List α} : hit a = none → (∀ b, ¬R a b) → Agree hit R l → Agree hit R (a :: l)
  | mistaken {a : α} {b : β} {l : List α} : hit a = some b → (∀ c, ¬R a c) →
      FirstOf R l (some b) → Agree hit R (a :: l)
  | overlooked {a : α} {b : β} {l : List α} : hit a = none → R a b →
      FirstOf (fun a b => hit a = some b) l (some b) → Agree hit R (a :: l)

/-- **The search is right** exactly if it agrees with the relation. -/
theorem firstOf_findSome?_iff : FirstOf R l (l.findSome? hit) ↔ Agree hit R l := by
  constructor
  · induction l with
    | nil => exact fun _ => .nil
    | cons a l ih =>
        intro h
        rw [FirstOf, List.findSome?_cons] at h
        cases ha : hit a with
        | none =>
            rw [ha] at h
            rcases h with ⟨b, hb, hfound⟩ | ⟨hnone, h⟩
            · exact .overlooked ha hb (firstOf_hit_iff.mpr hfound)
            · exact .skip ha hnone (ih h)
        | some b =>
            rw [ha] at h
            rcases h with ⟨c, hc, hbc⟩ | ⟨hnone, h⟩
            · obtain rfl := Option.some.inj hbc
              exact .right ha hc
            · exact .mistaken ha hnone h
  · intro h
    induction h with
    | nil => rfl
    | right ha hb => exact .inl ⟨_, hb, by rw [List.findSome?_cons, ha]⟩
    | skip ha hnone _ ih => exact .inr ⟨hnone, by rw [List.findSome?_cons, ha]; exact ih⟩
    | mistaken ha hnone hlater => exact .inr ⟨hnone, by rw [List.findSome?_cons, ha]; exact hlater⟩
    | overlooked ha hb hlater =>
        refine .inl ⟨_, hb, ?_⟩
        rw [List.findSome?_cons, ha]
        exact firstOf_hit_iff.mp hlater
