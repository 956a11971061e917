import Mathlib.Tactic
import Mathlib.Data.List.Sort
import Mathlib.Data.List.Dedup
import Mathlib.Data.Int.Interval

/-!
Rows in groups, as `GROUP BY` and `ORDER BY` with the same key make them.

* `groups key rows` are the groups of the rows with one key each, in the order of the keys.
  `mem_groups_iff` says what they are, and `pairwise_groups` that the keys increase.
* `perm_groups`: every row is in one of the groups, and as often as there is one of it.
* `length_le_of_increasing` and `mean_le` are what is needed to count groups, and to compare the
  mean of a group with a bound.
-/

namespace Grouping

variable {α κ : Type*} [LinearOrder κ] {key : α → κ} {rows : List α} {k : κ}

/-- The keys of the rows, in their order. -/
def keys (key : α → κ) (rows : List α) : List κ := (rows.map key).dedup.insertionSort (· ≤ ·)

/-- The rows with a key. -/
def group (key : α → κ) (rows : List α) (k : κ) : List α := rows.filter fun r => key r = k

/-- The groups of the rows, in the order of their keys. -/
def groups (key : α → κ) (rows : List α) : List (κ × List α) :=
  (keys key rows).map fun k => (k, group key rows k)

lemma mem_keys_iff : k ∈ keys key rows ↔ ∃ r ∈ rows, key r = k := by
  simp [keys, (List.perm_insertionSort (· ≤ ·) _).mem_iff]

lemma mem_group_iff {r : α} : r ∈ group key rows k ↔ r ∈ rows ∧ key r = k := by
  simp [group]

lemma nodup_keys : (keys key rows).Nodup :=
  (List.perm_insertionSort (· ≤ ·) _).nodup_iff.mpr (List.nodup_dedup _)

/-- The keys increase. -/
lemma pairwise_keys : (keys key rows).Pairwise (· < ·) := by
  have hsorted : (keys key rows).Pairwise (· ≤ ·) := List.pairwise_insertionSort (· ≤ ·) _
  exact (hsorted.and nodup_keys).imp fun ⟨hle, hne⟩ => lt_of_le_of_ne hle hne

lemma group_ne_nil (h : k ∈ keys key rows) : group key rows k ≠ [] := by
  obtain ⟨r, hr, hkey⟩ := mem_keys_iff.mp h
  exact List.ne_nil_of_mem (mem_group_iff.mpr ⟨hr, hkey⟩)

lemma mem_groups_iff {g : κ × List α} :
    g ∈ groups key rows ↔ g.1 ∈ keys key rows ∧ g.2 = group key rows g.1 := by
  obtain ⟨k, rs⟩ := g
  simp only [groups, List.mem_map, Prod.mk.injEq]
  constructor
  · rintro ⟨k', hk', rfl, rfl⟩
    exact ⟨hk', rfl⟩
  · rintro ⟨hk, rfl⟩
    exact ⟨k, hk, rfl, rfl⟩

lemma pairwise_groups : (groups key rows).Pairwise fun g g' => g.1 < g'.1 :=
  List.pairwise_map.mpr pairwise_keys

/-- The groups of different keys make up the rows with these keys. -/
lemma perm_flatMap_group {ks : List κ} (hks : ks.Nodup) :
    (ks.flatMap (group key rows)).Perm (rows.filter fun r => key r ∈ ks) := by
  induction ks with
  | nil => simp
  | cons k ks ih =>
      obtain ⟨hk, hks⟩ := List.nodup_cons.mp hks
      have hsplit := List.filter_append_perm (fun r => decide (key r = k))
        (rows.filter fun r => key r ∈ k :: ks)
      have hhead : (rows.filter fun r => key r ∈ k :: ks).filter (fun r => key r = k)
          = group key rows k := by
        rw [List.filter_filter, group]
        refine List.filter_congr fun r _ => ?_
        by_cases hr : key r = k <;> simp [hr]
      have htail : (rows.filter fun r => key r ∈ k :: ks).filter (fun r => !decide (key r = k))
          = rows.filter fun r => key r ∈ ks := by
        rw [List.filter_filter]
        refine List.filter_congr fun r _ => ?_
        by_cases hr : key r = k
        · simp [hr, hk]
        · simp [hr]
      rw [hhead, htail] at hsplit
      exact (List.Perm.append_left _ (ih hks)).trans hsplit

/-- **The groups partition the rows.** -/
theorem perm_groups : ((groups key rows).flatMap Prod.snd).Perm rows := by
  have hall : (rows.filter fun r => key r ∈ keys key rows) = rows :=
    List.filter_eq_self.mpr fun r hr => decide_eq_true (mem_keys_iff.mpr ⟨r, hr, rfl⟩)
  have h : ((keys key rows).flatMap (group key rows)).Perm
      (rows.filter fun r => key r ∈ keys key rows) := perm_flatMap_group nodup_keys
  rw [hall] at h
  rwa [groups, List.flatMap_map]

/-! ### Sizes and means -/

/-- Between two numbers there is room for so many increasing ones. -/
lemma length_le_of_increasing {l : List ℤ} {lo hi : ℤ} (h : l.Pairwise (· < ·))
    (hmem : ∀ k ∈ l, lo ≤ k ∧ k ≤ hi) (hle : lo ≤ hi + 1) : (l.length : ℤ) ≤ hi + 1 - lo := by
  have hnodup : l.Nodup := h.imp ne_of_lt
  have hsub : l.toFinset ⊆ Finset.Icc lo hi := by
    intro k hk
    exact Finset.mem_Icc.mpr (hmem k (List.mem_toFinset.mp hk))
  have hcard := Finset.card_le_card hsub
  rw [List.toFinset_card_of_nodup hnodup, Int.card_Icc] at hcard
  omega

/-- A mean is no greater than a bound of the values. -/
lemma mean_le {K : Type*} [Field K] [LinearOrder K] [IsStrictOrderedRing K] {xs : List K} {m : K}
    (hne : xs ≠ []) (hm : ∀ x ∈ xs, x ≤ m) : xs.sum / xs.length ≤ m := by
  have hpos : (0 : K) < xs.length := by exact_mod_cast List.length_pos_iff.mpr hne
  have hsum : xs.sum ≤ xs.length • m := List.sum_le_card_nsmul xs m hm
  rw [div_le_iff₀ hpos]
  calc xs.sum ≤ xs.length • m := hsum
    _ = m * xs.length := by rw [nsmul_eq_mul, mul_comm]

end Grouping
