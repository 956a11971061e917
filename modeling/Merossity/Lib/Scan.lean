import Mathlib.Data.List.TakeWhile
import Mathlib.Tactic

/-!
Reading a list from the front.

* `StopsAt p l` says that a run of elements with `p` does not go on in `l`. `exists_span` takes a
  list apart into its first run and the rest, and `takeWhile_append_of_stopsAt` and
  `dropWhile_append_of_stopsAt` read such a list again.
* `splitOn_cases` takes a list apart at its first separator; `splitOn_eq_cons_iff` and
  `splitOn_eq_singleton_iff` follow from it without an induction.
* `map_of_mapM` takes a partial function that is applied to all elements apart.
-/

namespace Scan

variable {α β : Type*} {p : α → Bool}

/-! ### Runs -/

/-- No element with `p` stands in front. -/
def StopsAt (p : α → Bool) (l : List α) : Prop := ∀ a ∈ l.head?, p a = false

lemma stopsAt_nil : StopsAt p [] := fun _ h => nomatch h

lemma stopsAt_cons {a : α} {l : List α} : StopsAt p (a :: l) ↔ p a = false :=
  ⟨fun h => h a rfl, fun h b hb => by rwa [← Option.some.inj hb]⟩

lemma takeWhile_append_of_stopsAt {l rest : List α} (hl : ∀ a ∈ l, p a = true)
    (hrest : StopsAt p rest) : (l ++ rest).takeWhile p = l := by
  rw [List.takeWhile_append_of_pos hl]
  cases rest with
  | nil => simp
  | cons a rest => simp [stopsAt_cons.mp hrest]

lemma dropWhile_append_of_stopsAt {l rest : List α} (hl : ∀ a ∈ l, p a = true)
    (hrest : StopsAt p rest) : (l ++ rest).dropWhile p = rest := by
  rw [List.dropWhile_append_of_pos hl]
  cases rest with
  | nil => rfl
  | cons a rest => simp [stopsAt_cons.mp hrest]

lemma stopsAt_dropWhile (p : α → Bool) (l : List α) : StopsAt p (l.dropWhile p) := by
  intro a ha
  induction l with
  | nil => cases ha
  | cons b l ih =>
      by_cases hb : p b = true
      · rw [List.dropWhile_cons_of_pos hb] at ha
        exact ih ha
      · rw [List.dropWhile_cons_of_neg hb] at ha
        rw [← Option.some.inj ha]
        exact Bool.eq_false_iff.mpr hb

/-- A list is its first run and the rest. -/
lemma exists_span (p : α → Bool) (l : List α) : ∃ run rest, l = run ++ rest
    ∧ (∀ a ∈ run, p a = true) ∧ StopsAt p rest ∧ l.takeWhile p = run ∧ l.dropWhile p = rest :=
  ⟨l.takeWhile p, l.dropWhile p, (List.takeWhile_append_dropWhile).symm,
    fun _ ha => List.mem_takeWhile_imp ha, stopsAt_dropWhile p l, rfl, rfl⟩

/-! ### Separators -/

/-- A list without a separator is one part, and every other list is split at the first one. -/
lemma splitOn_cases [DecidableEq α] (x : α) (l : List α) :
    (x ∉ l ∧ l.splitOn x = [l])
      ∨ ∃ part rest, l = part ++ x :: rest ∧ x ∉ part ∧ l.splitOn x = part :: rest.splitOn x := by
  by_cases hx : x ∈ l
  · obtain ⟨part, rest, rfl, hpart⟩ := List.eq_append_cons_of_mem hx
    exact .inr ⟨part, rest, rfl, hpart, List.splitOn_append_cons_self_of_not_mem hpart rest⟩
  · exact .inl ⟨hx, List.splitOn_eq_singleton hx⟩

/-- The first part of a list, and what is left of the list after it. -/
lemma exists_splitOn_cons [DecidableEq α] (x : α) (l : List α) : ∃ part more parts,
    l = part ++ more ∧ x ∉ part ∧ (more = [] ∨ ∃ rest, more = x :: rest)
      ∧ l.splitOn x = part :: parts := by
  rcases splitOn_cases x l with ⟨hx, hsplit⟩ | ⟨part, rest, rfl, hpart, hsplit⟩
  · exact ⟨l, [], [], (List.append_nil l).symm, hx, .inl rfl, hsplit⟩
  · exact ⟨part, x :: rest, rest.splitOn x, rfl, hpart, .inr ⟨rest, rfl⟩, hsplit⟩

/-- The parts of a list are read one after the other. -/
lemma splitOn_eq_cons_iff [DecidableEq α] {x : α} {l part next : List α} {parts : List (List α)} :
    l.splitOn x = part :: next :: parts
      ↔ ∃ rest, l = part ++ x :: rest ∧ x ∉ part ∧ rest.splitOn x = next :: parts := by
  constructor
  · intro h
    rcases splitOn_cases x l with ⟨hx, hsplit⟩ | ⟨part', rest, hl, hpart, hsplit⟩
    · rw [hsplit] at h
      cases h
    · rw [hsplit] at h
      obtain ⟨rfl, hrest⟩ := List.cons.inj h
      exact ⟨rest, hl, hpart, hrest⟩
  · rintro ⟨rest, rfl, hpart, hrest⟩
    rw [List.splitOn_append_cons_self_of_not_mem hpart, hrest]

lemma splitOn_eq_singleton_iff [DecidableEq α] {x : α} {l part : List α} :
    l.splitOn x = [part] ↔ l = part ∧ x ∉ l := by
  constructor
  · intro h
    rcases splitOn_cases x l with ⟨hx, hsplit⟩ | ⟨part', rest, hl, -, hsplit⟩
    · rw [hsplit] at h
      exact ⟨List.head_eq_of_cons_eq h, hx⟩
    · rw [hsplit] at h
      exact absurd (List.tail_eq_of_cons_eq h) (List.splitOn_ne_nil x rest)
  · rintro ⟨rfl, hx⟩
    exact List.splitOn_eq_singleton hx

/-! ### Partial functions -/

/-- A partial function has a value at every element. -/
lemma map_of_mapM {f : α → Option β} {l : List α} {ys : List β} (h : l.mapM f = some ys) :
    l.map f = ys.map some := by
  induction l generalizing ys with
  | nil =>
      obtain rfl : [] = ys := Option.some.inj h
      rfl
  | cons a l ih =>
      rw [List.mapM_cons] at h
      obtain ⟨y, hy, h⟩ := Option.bind_eq_some_iff.mp h
      obtain ⟨ys', hys, h⟩ := Option.bind_eq_some_iff.mp h
      obtain rfl := Option.some.inj h
      rw [List.map_cons, List.map_cons, hy, ih hys]

end Scan
