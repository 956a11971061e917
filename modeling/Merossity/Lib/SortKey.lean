import Mathlib.Tactic
import Mathlib.Data.List.Sort
import Mathlib.Data.List.TakeWhile

/-!
Sort keys that are joined from parts by a separator.

* `joinKey sep xs` is the key of the parts `xs`. Two items are compared by their keys, where they
  should be compared part by part.
* `Clash` says, in terms of the first part in which two items differ, that the key of the greater
  one comes first all the same; **`clash_iff`** says that these are all the cases. It is stated for
  every relation that is `Lexicographic`, which `<` and `≤` are.
* `pairwise_insertionSort_iff`: sorting by one order makes a list sorted by another one exactly if
  no two of its items are put against it.
-/

namespace SortKey

variable {α : Type*} [LinearOrder α] {x y u v : List α} {sep : α}

/-! ### Comparing lists -/

/-- A relation of lists that looks at their first items first. -/
structure Lexicographic (r : List α → List α → Prop) : Prop where
  cons {a : α} {u v : List α} : r (a :: u) (a :: v) ↔ r u v
  of_lt {u v : List α} : u < v → r u v
  not_of_lt {u v : List α} : v < u → ¬r u v

lemma lexicographic_lt : Lexicographic fun u v : List α => u < v where
  cons := by simp
  of_lt := id
  not_of_lt := lt_asymm

lemma lexicographic_le : Lexicographic fun u v : List α => u ≤ v where
  cons := by simp [← not_lt]
  of_lt := le_of_lt
  not_of_lt := not_le_of_gt

section Lexicographic

variable {r : List α → List α → Prop}

/-- What two lists begin with in common makes no difference. -/
lemma Lexicographic.append (hr : Lexicographic r) : r (x ++ u) (x ++ v) ↔ r u v := by
  induction x with
  | nil => rfl
  | cons a x ih => rw [List.cons_append, List.cons_append, hr.cons, ih]

/-- The first items decide, unless they are the same. -/
lemma Lexicographic.cons_iff (hr : Lexicographic r) {a b : α} :
    r (a :: u) (b :: v) ↔ a < b ∨ a = b ∧ r u v := by
  rcases lt_trichotomy a b with hlt | rfl | hgt
  · have h : a :: u < b :: v := List.cons_lt_cons_iff.mpr (.inl hlt)
    simp [hr.of_lt h, hlt]
  · rw [hr.cons]
    simp
  · have h : b :: v < a :: u := List.cons_lt_cons_iff.mpr (.inl hgt)
    simp [hr.not_of_lt h, hgt.not_gt, hgt.ne']

/-- A list comes before another one because that one continues it, or whatever follows them. -/
lemma lt_cases (h : x < y) : (∃ c z, y = x ++ c :: z) ∨ ∀ u v, x ++ u < y ++ v := by
  induction x generalizing y with
  | nil =>
      cases y with
      | nil => exact absurd h (lt_irrefl _)
      | cons c z => exact .inl ⟨c, z, rfl⟩
  | cons a x ih =>
      cases y with
      | nil => exact absurd h (List.not_lt_nil _)
      | cons b y =>
          rcases List.cons_lt_cons_iff.mp h with hab | ⟨rfl, hxy⟩
          · exact .inr fun u v => List.cons_lt_cons_iff.mpr (.inl hab)
          · rcases ih hxy with ⟨c, z, rfl⟩ | hall
            · exact .inl ⟨c, z, rfl⟩
            · exact .inr fun u v => List.cons_lt_cons_iff.mpr (.inr ⟨rfl, hall u v⟩)

end Lexicographic

/-! ### Keys -/

/-- The parts with the separator between them. -/
def joinKey (sep : α) : List (List α) → List α
  | [] => []
  | [x] => x
  | x :: y :: rest => x ++ sep :: joinKey sep (y :: rest)

/-- The key of the second item comes first in the relation `r`, though the item is the greater one:
the first part in which the two differ continues that of the first item, below the separator, or
with the separator and then so that the rest of the key comes first. -/
def Clash (sep : α) (r : List α → List α → Prop) : List (List α) → List (List α) → Prop
  | x :: x' :: xs, y :: y' :: ys =>
      x = y ∧ Clash sep r (x' :: xs) (y' :: ys) ∨ ∃ c z, y = x ++ c :: z
        ∧ (c < sep ∨ c = sep ∧ r (z ++ sep :: joinKey sep (y' :: ys)) (joinKey sep (x' :: xs)))
  | _, _ => False

/-- A list comes before its continuations. -/
lemma lt_append_cons (x : List α) (c : α) (z : List α) : x < x ++ c :: z := by
  have h : x ++ [] < x ++ c :: z := List.append_left_lt (List.nil_lt_cons c z)
  rwa [List.append_nil] at h

section Clash

variable {r : List α → List α → Prop}

/-- The first parts differ: only a continuation can put the second key first. -/
lemma rel_of_lt_iff (hr : Lexicographic r) (hxy : x < y) :
    r (y ++ sep :: v) (x ++ sep :: u) ↔
      ∃ c z, y = x ++ c :: z ∧ (c < sep ∨ c = sep ∧ r (z ++ sep :: v) u) := by
  rcases lt_cases hxy with ⟨c, z, rfl⟩ | hall
  · rw [List.append_assoc, hr.append, List.cons_append, hr.cons_iff]
    constructor
    · exact fun h => ⟨c, z, rfl, h⟩
    · rintro ⟨c', z', heq, h⟩
      obtain ⟨rfl, rfl⟩ := List.cons.inj (List.append_cancel_left heq)
      exact h
  · refine iff_of_false (hr.not_of_lt (hall _ _)) ?_
    rintro ⟨c, z, rfl, -⟩
    exact lt_irrefl (x ++ c :: z) (by simpa using hall (c :: z) [])

/-- **Keys and parts** disagree about two items exactly where they clash. -/
theorem clash_iff (hr : Lexicographic r) : ∀ {xs ys : List (List α)}, xs.length = ys.length →
    (xs < ys ∧ r (joinKey sep ys) (joinKey sep xs) ↔ Clash sep r xs ys) := by
  intro xs
  induction xs with
  | nil =>
      intro ys hlen
      obtain rfl := List.length_eq_zero_iff.mp hlen.symm
      simp [Clash]
  | cons x xs ih =>
      intro ys hlen
      obtain ⟨y, ys, rfl⟩ := List.exists_cons_of_length_eq_add_one hlen.symm
      have hlen' : xs.length = ys.length := Nat.succ.inj hlen
      cases xs with
      | nil =>
          obtain rfl := List.length_eq_zero_iff.mp hlen'.symm
          have hnot : ¬([x] < [y] ∧ r y x) := by
            rintro ⟨hlt, h⟩
            have hxy : x < y := by simpa [List.cons_lt_cons_iff] using hlt
            exact hr.not_of_lt hxy h
          exact iff_of_false hnot id
      | cons x' xs =>
          obtain ⟨y', ys, rfl⟩ := List.exists_cons_of_length_eq_add_one hlen'.symm
          rw [List.cons_lt_cons_iff, Clash, joinKey, joinKey]
          rcases lt_trichotomy x y with hlt | rfl | hgt
          · rw [rel_of_lt_iff hr hlt]
            simp [hlt, hlt.ne]
          · have hself : ¬∃ c z, x = x ++ c :: z
                ∧ (c < sep ∨ c = sep ∧ r (z ++ sep :: joinKey sep (y' :: ys))
                  (joinKey sep (x' :: xs))) := by
              rintro ⟨c, z, heq, -⟩
              exact (lt_append_cons x c z).ne heq
            rw [hr.append, hr.cons, ← ih hlen', or_iff_left hself]
            simp
          · have hself : ¬∃ c z, y = x ++ c :: z
                ∧ (c < sep ∨ c = sep ∧ r (z ++ sep :: joinKey sep (y' :: ys))
                  (joinKey sep (x' :: xs))) := by
              rintro ⟨c, z, rfl, -⟩
              exact hgt.not_gt (lt_append_cons x c z)
            refine iff_of_false ?_ ?_
            · rintro ⟨hlt | ⟨rfl, -⟩, -⟩
              · exact hgt.not_gt hlt
              · exact lt_irrefl _ hgt
            · rintro (⟨rfl, -⟩ | h)
              · exact lt_irrefl _ hgt
              · exact hself h

/-- Nothing clashes with parts that keep above the separator. -/
lemma not_clash_of_above {ys : List (List α)} (h : ∀ y ∈ ys, ∀ c ∈ y, sep < c) :
    ∀ {xs : List (List α)}, ¬Clash sep r xs ys := by
  induction ys with
  | nil => intro xs hclash; rcases xs with _ | ⟨x, _ | ⟨x', xs⟩⟩ <;> exact hclash
  | cons y ys ih =>
      obtain ⟨hy, hys⟩ := List.forall_mem_cons.mp h
      intro xs hclash
      match xs, ys, ih, hclash with
      | x :: x' :: xs, y' :: ys, ih, hclash =>
          rcases hclash with ⟨-, hclash⟩ | ⟨c, z, rfl, hlt | ⟨rfl, -⟩⟩
          · exact ih hys hclash
          · exact (hy c (by simp)).not_gt hlt
          · exact lt_irrefl c (hy c (by simp))

end Clash

/-! ### Sorting by another order -/

section Insertion

variable {β : Type*} {r S : β → β → Prop} [DecidableRel r]

/-- In a sorted list, what is behind the first item that does not come before `a` does not come
before it either. -/
lemma rel_of_mem_dropWhile [IsTrans β r] {l : List β} (hl : l.Pairwise r) {a b : β}
    (hb : b ∈ l.dropWhile fun b => ¬r a b) : r a b := by
  cases hdrop : l.dropWhile fun b => ¬r a b with
  | nil => rw [hdrop] at hb; cases hb
  | cons c rest =>
      have hc : r a c := by
        have hhead := List.head?_dropWhile_not (fun b => decide ¬r a b) l
        rw [hdrop] at hhead
        simpa using hhead
      have hsorted : (c :: rest).Pairwise r := by
        rw [← hdrop]
        exact hl.sublist (List.dropWhile_sublist _)
      rw [hdrop] at hb
      rcases List.mem_cons.mp hb with rfl | hb
      · exact hc
      · exact IsTrans.trans a c b hc ((List.pairwise_cons.mp hsorted).1 b hb)

/-- **Sorting by `r`** makes a list sorted by `S` exactly if no two of its items are put against
`S`: those that `r` leaves in their order, and those that it exchanges. -/
theorem pairwise_insertionSort_iff [Std.Total r] [IsTrans β r] (l : List β) :
    (l.insertionSort r).Pairwise S ↔ l.Pairwise fun a b => (r a b → S a b) ∧ (¬r a b → S b a) := by
  induction l with
  | nil => simp
  | cons a l ih =>
      have hpre : ∀ b ∈ (l.insertionSort r).takeWhile fun b => ¬r a b, ¬r a b := fun b hb =>
        of_decide_eq_true (List.mem_takeWhile_imp (p := fun b => decide ¬r a b) hb)
      have hpost : ∀ b ∈ (l.insertionSort r).dropWhile fun b => ¬r a b, r a b := fun b hb =>
        rel_of_mem_dropWhile (List.pairwise_insertionSort r l) hb
      have happend := List.takeWhile_append_dropWhile (p := fun b => decide ¬r a b)
        (l := l.insertionSort r)
      have hmem : ∀ b, b ∈ l ↔ b ∈ (l.insertionSort r).takeWhile (fun b => ¬r a b)
          ∨ b ∈ (l.insertionSort r).dropWhile fun b => ¬r a b := by
        intro b
        rw [← List.mem_append, happend, List.mem_insertionSort]
      rw [List.insertionSort_cons_eq_take_drop, List.pairwise_cons, ← ih]
      conv_rhs => rw [← happend]
      simp only [List.pairwise_append, List.pairwise_cons, hmem, List.forall_mem_cons]
      constructor
      · rintro ⟨h₁, ⟨ha, h₂⟩, hcross⟩
        refine ⟨fun b hb => ?_, h₁, h₂, fun b hb => (hcross b hb).2⟩
        rcases hb with hb | hb
        · exact ⟨fun hr => absurd hr (hpre b hb), fun _ => (hcross b hb).1⟩
        · exact ⟨fun _ => ha b hb, fun hr => absurd (hpost b hb) hr⟩
      · rintro ⟨ha, h₁, h₂, hcross⟩
        exact ⟨h₁, ⟨fun b hb => (ha b (.inr hb)).1 (hpost b hb), h₂⟩,
          fun b hb => ⟨(ha b (.inl hb)).2 (hpre b hb), hcross b hb⟩⟩

end Insertion

end SortKey
