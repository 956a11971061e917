import Mathlib.Tactic
import Mathlib.Data.List.Lex

/-!
Depth-first search.

A node is looked at first, and then what lies under each of its children, from the left to the
right, until something is found.

* `At children v path w`: `path` leads from `v` down to `w`, by the numbers of the children to take.
* `Leftmost children goal v path w`: of the goals under `v`, the one at `w` has the least path, in
  the lexicographic order. There is at most one of them (`Leftmost.unique`).
* `Searches.eq_some_iff` and `Searches.eq_none_iff`: where every descent ends, a search finds the
  leftmost goal, and nothing exactly if there is no goal.
-/

namespace DepthFirst

variable {ν : Type*} {children : ν → List ν} {goal : ν → Prop} {search : ν → Option ν}
  {v w c : ν} {path : List ℕ}

/-! ### Paths -/

/-- `path` leads from one node down to another. -/
inductive At (children : ν → List ν) : ν → List ℕ → ν → Prop where
  | here (v : ν) : At children v [] v
  | child {v c w : ν} {i : ℕ} {path : List ℕ} (hc : (children v)[i]? = some c)
      (hw : At children c path w) : At children v (i :: path) w

/-- A path leads to one node. -/
lemma At.unique {w' : ν} (h : At children v path w) (h' : At children v path w') : w = w' := by
  induction h with
  | here v =>
      cases h'
      rfl
  | child hc _ ih =>
      cases h' with
      | child hc' hw' =>
          obtain rfl := Option.some.inj (hc.symm.trans hc')
          exact ih hw'

/-- Of the goals under `v`, `w` is the one with the least path. -/
structure Leftmost (children : ν → List ν) (goal : ν → Prop) (v : ν) (path : List ℕ) (w : ν) :
    Prop where
  reached : At children v path w
  isGoal : goal w
  least : ∀ path' w', At children v path' w' → goal w' → path ≤ path'

lemma Leftmost.unique {path' : List ℕ} {w' : ν} (h : Leftmost children goal v path w)
    (h' : Leftmost children goal v path' w') : w = w' := by
  have hpath : path = path' := le_antisymm (h.least _ _ h'.reached h'.isGoal)
    (h'.least _ _ h.reached h.isGoal)
  subst hpath
  exact h.reached.unique h'.reached

/-- A node that is a goal itself is the leftmost one. -/
lemma leftmost_here (hv : goal v) : Leftmost children goal v [] v where
  reached := .here v
  isGoal := hv
  least path' _ _ _ := not_lt.mp (List.not_lt_nil path')

/-- The leftmost goal under the first child with one. -/
lemma Leftmost.child {before after : List ν} (hv : ¬ goal v)
    (hchildren : children v = before ++ c :: after)
    (hbefore : ∀ x ∈ before, ∀ path w, At children x path w → ¬ goal w)
    (h : Leftmost children goal c path w) :
    Leftmost children goal v (before.length :: path) w where
  reached := .child (by simp [hchildren]) h.reached
  isGoal := h.isGoal
  least path' w' hw' hgoal := by
    cases hw' with
    | here => exact absurd hgoal hv
    | @child _ c' _ i path' hc' hw' =>
        rcases lt_trichotomy i before.length with hlt | rfl | hgt
        · -- nothing is to be found under the children in front of `c`
          rw [hchildren, List.getElem?_append_left hlt] at hc'
          exact absurd hgoal (hbefore c' (List.mem_of_getElem? hc') path' w' hw')
        · obtain rfl : c = c' := by simpa [hchildren] using hc'
          exact List.cons_le_cons _ (h.least path' w' hw' hgoal)
        · exact le_of_lt (.rel hgt)

/-! ### Searches -/

variable [DecidablePred goal]

/-- `search` looks at a node, and then under its children. -/
structure Searches (children : ν → List ν) (goal : ν → Prop) [DecidablePred goal]
    (search : ν → Option ν) : Prop where
  search_eq : ∀ v, search v = if goal v then some v else (children v).findSome? search

namespace Searches

variable (h : Searches children goal search) (hwf : WellFounded fun c v => c ∈ children v)
include h hwf

/-- Where nothing is found there is no goal. -/
lemma not_goal (hnone : search v = none) (hw : At children v path w) : ¬ goal w := by
  induction v using hwf.induction generalizing path with
  | _ v ih =>
      intro hgoal
      rw [h.search_eq] at hnone
      split_ifs at hnone with hv
      cases hw with
      | here => exact hv hgoal
      | child hc hw =>
          have hmem := List.mem_of_getElem? hc
          exact ih _ hmem (List.findSome?_eq_none_iff.mp hnone _ hmem) hw hgoal

/-- What is found is the leftmost goal. -/
lemma exists_leftmost (hsome : search v = some w) : ∃ path, Leftmost children goal v path w := by
  induction v using hwf.induction with
  | _ v ih =>
      rw [h.search_eq] at hsome
      split_ifs at hsome with hv
      · obtain rfl := Option.some.inj hsome
        exact ⟨[], leftmost_here hv⟩
      · obtain ⟨before, c, after, hchildren, hc, hbefore⟩ := List.findSome?_eq_some_iff.mp hsome
        obtain ⟨path, hpath⟩ := ih c (by simp [hchildren]) hc
        exact ⟨_, hpath.child hv hchildren fun x hx path w hw => h.not_goal hwf (hbefore x hx) hw⟩

/-- **What a search finds** is the leftmost goal. -/
theorem eq_some_iff : search v = some w ↔ ∃ path, Leftmost children goal v path w := by
  refine ⟨h.exists_leftmost hwf, ?_⟩
  rintro ⟨path, hpath⟩
  cases hfound : search v with
  | none => exact absurd hpath.isGoal (h.not_goal hwf hfound hpath.reached)
  | some w' =>
      obtain ⟨path', hpath'⟩ := h.exists_leftmost hwf hfound
      rw [hpath'.unique hpath]

/-- **A search fails** exactly if there is no goal. -/
theorem eq_none_iff : search v = none ↔ ¬ ∃ path w, At children v path w ∧ goal w := by
  constructor
  · rintro hnone ⟨path, w, hw, hgoal⟩
    exact h.not_goal hwf hnone hw hgoal
  · intro hno
    cases hfound : search v with
    | none => rfl
    | some w =>
        obtain ⟨path, hpath⟩ := h.exists_leftmost hwf hfound
        exact absurd ⟨path, w, hpath.reached, hpath.isGoal⟩ hno

end Searches

end DepthFirst
