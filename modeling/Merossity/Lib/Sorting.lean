import Mathlib.Tactic
import Mathlib.Data.List.Sort

/-!
Stable sorting.

* `StableSort r out l` says that `out` is the list `l` in the order `r`, items that are tied in it
  being left in the order of `l`. `stableSort_insertionSort`: insertion sort makes one. In a sort by
  a key, the items of each key are left in their order (`StableSort.filter_key`).
* `StableSort.mem_prefix_iff` says which items stand in front of a given one: those that come
  before it in the order, and those that are tied with it and come before it in `l`.
-/

variable {α : Type*} {r : α → α → Prop} [DecidableRel r] {out l : List α} {a b : α}

/-! ### Ties -/

/-- Neither of the two items has to come first. -/
def Tied (r : α → α → Prop) (a b : α) : Prop := r a b ∧ r b a

instance : DecidableRel (Tied r) := fun a b => inferInstanceAs (Decidable (r a b ∧ r b a))

/-- `out` is `l` in the order `r`, and what is tied is left in the order of `l`. -/
structure StableSort (r : α → α → Prop) [DecidableRel r] (out l : List α) : Prop where
  perm : out.Perm l
  sorted : out.Pairwise r
  stable : ∀ a, out.filter (Tied r a) = l.filter (Tied r a)

lemma StableSort.mem_iff (h : StableSort r out l) : a ∈ out ↔ a ∈ l := h.perm.mem_iff

/-- What is left of a sorted list comes after what is taken from its front. -/
lemma StableSort.rel_of_taken (h : StableSort r out l) {n : ℕ} (ha : a ∈ out.take n) (hb : b ∈ l)
    (hleft : b ∉ out.take n) : r a b := by
  rw [← h.mem_iff, ← List.take_append_drop n out, List.mem_append] at hb
  have hsorted := h.sorted
  rw [← List.take_append_drop n out] at hsorted
  exact (List.pairwise_append.mp hsorted).2.2 a ha b (hb.resolve_left hleft)

lemma stableSort_nil : StableSort r [] [] := ⟨.nil, .nil, fun _ => rfl⟩

lemma StableSort.eq_nil (h : StableSort r out []) : out = [] := h.perm.eq_nil

/-- A class of tied items is sorted in any order. -/
lemma pairwise_filter_tied [IsTrans α r] (a : α) (l : List α) :
    (l.filter (Tied r a)).Pairwise r := by
  refine List.pairwise_of_forall_mem_list fun b hb c hc => ?_
  have hab : Tied r a b := of_decide_eq_true (List.mem_filter.mp hb).2
  have hac : Tied r a c := of_decide_eq_true (List.mem_filter.mp hc).2
  exact IsTrans.trans b a c hab.2 hac.1

/-- **Insertion sort** is stable. -/
theorem stableSort_insertionSort [Std.Total r] [IsTrans α r] (l : List α) :
    StableSort r (l.insertionSort r) l where
  perm := List.perm_insertionSort r l
  sorted := List.pairwise_insertionSort r l
  stable a := by
    -- a sorted sublist survives the sort, and the class of `a` has no more items after it
    have hclass : (l.filter (Tied r a)).Sublist (l.insertionSort r) :=
      List.sublist_insertionSort (pairwise_filter_tied a l) List.filter_sublist
    have hsub : (l.filter (Tied r a)).Sublist ((l.insertionSort r).filter (Tied r a)) := by
      have h := hclass.filter fun b => decide (Tied r a b)
      simpa only [List.filter_filter, Bool.and_self] using h
    have hlen : (l.filter (Tied r a)).length = ((l.insertionSort r).filter (Tied r a)).length :=
      ((List.perm_insertionSort r l).filter _).length_eq.symm
    exact (hsub.eq_of_length hlen).symm

/-! ### Keys -/

instance keyLe_total {β : Type*} [LinearOrder β] (f : α → β) : Std.Total fun a b => f a ≤ f b :=
  ⟨fun a b => le_total (f a) (f b)⟩

instance keyLe_trans {β : Type*} [LinearOrder β] (f : α → β) : IsTrans α fun a b => f a ≤ f b :=
  ⟨fun _ _ _ => le_trans⟩

/-- In a sort by a key, the items of each key are left in their order. -/
lemma StableSort.filter_key {β : Type*} [LinearOrder β] {f : α → β} {out l : List α}
    (h : StableSort (fun a b => f a ≤ f b) out l) (k : β) :
    out.filter (fun a => f a = k) = l.filter (fun a => f a = k) := by
  by_cases hk : ∃ a ∈ l, f a = k
  · obtain ⟨a, -, rfl⟩ := hk
    have htied : ∀ b, f b = f a ↔ Tied (fun a b => f a ≤ f b) a b := fun b =>
      ⟨fun heq => ⟨heq.ge, heq.le⟩, fun htied => le_antisymm htied.2 htied.1⟩
    simpa only [htied] using h.stable a
  · have hnone : ∀ a ∈ l, ¬ f a = k := fun a ha heq => hk ⟨a, ha, heq⟩
    rw [List.filter_eq_nil_iff.mpr fun a ha => by simpa using hnone a (h.mem_iff.mp ha),
      List.filter_eq_nil_iff.mpr fun a ha => by simpa using hnone a ha]

/-! ### What comes first -/

/-- In a list without repetitions, an item comes before another one if it is in front of it. -/
lemma pair_sublist_iff {pre post : List α} (h : (pre ++ a :: post).Nodup) :
    [b, a].Sublist (pre ++ a :: post) ↔ b ∈ pre := by
  obtain ⟨-, hpost, hdisjoint⟩ := List.nodup_append.mp h
  have hpost : a ∉ post := (List.nodup_cons.mp hpost).1
  have hpre : a ∉ pre := fun ha => hdisjoint a ha a List.mem_cons_self rfl
  constructor
  · intro hsub
    obtain ⟨s, t, hst, hs, ht⟩ := List.sublist_append_iff.mp hsub
    match s, hst with
    | [], hst =>
        -- both items would be at `a` or after it
        obtain rfl : t = [b, a] := by simpa using hst.symm
        rcases List.sublist_cons_iff.mp ht with hsub | ⟨r, hr, hsub⟩
        · exact absurd (hsub.subset (by simp)) hpost
        · obtain rfl : r = [a] := by simpa using (List.cons.inj hr).2.symm
          exact absurd (hsub.subset (by simp)) hpost
    | [c], hst =>
        obtain rfl : b = c := (List.cons.inj hst).1
        exact hs.subset (by simp)
    | c :: d :: s, hst =>
        obtain ⟨-, hd⟩ := List.cons.inj hst
        obtain rfl : a = d := (List.cons.inj hd).1
        exact absurd (hs.subset (by simp)) hpre
  · intro hb
    exact (List.singleton_sublist.mpr hb).append (List.singleton_sublist.mpr List.mem_cons_self)

/-- `b` comes before `a` when `l` is sorted: in the order, or if they are tied, in `l`. -/
def Ahead (r : α → α → Prop) (l : List α) (a b : α) : Prop :=
  ¬ r a b ∨ Tied r a b ∧ [b, a].Sublist l

instance [DecidableEq α] (l : List α) (a : α) : DecidablePred (Ahead r l a) := fun b =>
  inferInstanceAs (Decidable (¬ r a b ∨ Tied r a b ∧ [b, a].Sublist l))

/-- The items in front of a given one. -/
theorem StableSort.mem_prefix_iff [Std.Total r] {pre post : List α}
    (h : StableSort r (pre ++ a :: post) l) (hl : l.Nodup) :
    b ∈ pre ↔ b ∈ l ∧ Ahead r l a b := by
  have hnodup : (pre ++ a :: post).Nodup := h.perm.nodup_iff.mpr hl
  have hrefl : Tied r a a := ⟨(Std.Total.total a a).elim id id, (Std.Total.total a a).elim id id⟩
  obtain ⟨-, hsorted, hfront⟩ := List.pairwise_append.mp h.sorted
  have hbehind : ∀ c ∈ post, r a c := (List.pairwise_cons.mp hsorted).1
  -- two tied items are in the same order in both lists
  have htied : Tied r a b → ([b, a].Sublist l ↔ b ∈ pre) := by
    intro hab
    have hclass : ∀ m : List α, [b, a].Sublist m ↔ [b, a].Sublist (m.filter (Tied r a)) := by
      intro m
      refine ⟨fun hsub => ?_, fun hsub => hsub.trans List.filter_sublist⟩
      have hfilter := hsub.filter fun c => decide (Tied r a c)
      simpa only [List.filter_cons, hab, hrefl, decide_true, if_true, List.filter_nil] using hfilter
    rw [hclass l, ← h.stable a, ← hclass, pair_sublist_iff hnodup]
  constructor
  · intro hb
    refine ⟨h.mem_iff.mp (List.mem_append_left _ hb), ?_⟩
    by_cases hab : r a b
    · have hba : r b a := hfront b hb a List.mem_cons_self
      exact .inr ⟨⟨hab, hba⟩, (htied ⟨hab, hba⟩).mpr hb⟩
    · exact .inl hab
  · rintro ⟨hb, hahead⟩
    rcases hahead with hab | ⟨hab, hsub⟩
    · rcases List.mem_append.mp (h.mem_iff.mpr hb) with hpre | hrest
      · exact hpre
      · rcases List.mem_cons.mp hrest with rfl | hpost
        · exact absurd hrefl.1 hab
        · exact absurd (hbehind b hpost) hab
    · exact (htied hab).mp hsub
