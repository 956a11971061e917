import Mathlib.Data.List.ModifyLast
import Mathlib.Tactic

/-!
Operations that are repeated at a pace.

An operation runs in rounds, one after the other. After a round it rests, and the outcomes so far
say for how long, counted from the start of the round.

* `Paced pause rs`: every round of `rs` was started when the one before it had ended, and had rested.
* `Paced.begin` and `Paced.finish` are the rules for a round that starts and for one that ends.
* `Paced.length_window_le`: in a window of time there are as many starts as fit into it, and
  `length_noted_le` says the same of what is noted when the rounds end.
-/

namespace Pacing

variable {ω : Type*}

/-- A round: when it was started, and its outcome once it has ended. -/
structure Attempt (ω : Type*) where
  startedAt : ℤ
  outcome : Option ω

/-- The outcomes of the rounds that have ended. -/
def outcomes (rs : List (Attempt ω)) : List ω := rs.filterMap Attempt.outcome

/-- A round starts. -/
def begin (now : ℤ) (rs : List (Attempt ω)) : List (Attempt ω) := rs ++ [⟨now, none⟩]

/-- The last round ends. -/
def finish (o : ω) (rs : List (Attempt ω)) : List (Attempt ω) :=
  rs.modifyLast fun r => { r with outcome := some o }

lemma finish_begin (o : ω) (now : ℤ) (rs : List (Attempt ω)) :
    finish o (begin now rs) = rs ++ [⟨now, some o⟩] :=
  List.modifyLast_concat _ _ _

@[simp] lemma length_begin (now : ℤ) (rs : List (Attempt ω)) :
    (begin now rs).length = rs.length + 1 :=
  List.length_append ..

@[simp] lemma outcomes_begin (now : ℤ) (rs : List (Attempt ω)) :
    outcomes (begin now rs) = outcomes rs := by
  simp [outcomes, begin]

lemma outcomes_finish_begin (o : ω) (now : ℤ) (rs : List (Attempt ω)) :
    outcomes (finish o (begin now rs)) = outcomes rs ++ [o] := by
  simp [finish_begin, outcomes]

/-- Every round was started when the one before it had ended, and had rested. -/
def Paced (pause : List ω → ℤ) (rs : List (Attempt ω)) : Prop :=
  ∀ i r r', rs[i]? = some r → rs[i + 1]? = some r' →
    r.outcome.isSome = true ∧ r.startedAt + pause (outcomes (rs.take (i + 1))) ≤ r'.startedAt

/-- The last round has ended and has rested at `now`. -/
def Rested (pause : List ω → ℤ) (rs : List (Attempt ω)) (now : ℤ) : Prop :=
  ∀ r, rs.getLast? = some r → r.outcome.isSome = true ∧ r.startedAt + pause (outcomes rs) ≤ now

lemma Rested.mono {pause : List ω → ℤ} {rs : List (Attempt ω)} {now now' : ℤ}
    (h : Rested pause rs now) (hle : now ≤ now') : Rested pause rs now' := fun r hr =>
  ⟨(h r hr).1, (h r hr).2.trans hle⟩

namespace Paced

variable {pause : List ω → ℤ} {rs : List (Attempt ω)} {now : ℤ}

lemma nil (pause : List ω → ℤ) : Paced pause ([] : List (Attempt ω)) :=
  fun _ _ _ hr _ => by cases hr

/-- The rule for a round that starts. -/
protected lemma begin (h : Paced pause rs) (hrested : Rested pause rs now) :
    Paced pause (begin now rs) := by
  intro i r r' hr hr'
  have hlt := (List.getElem?_eq_some_iff.mp hr').1
  rw [length_begin] at hlt
  have hi : i < rs.length := by omega
  rw [begin, List.getElem?_append_left hi] at hr
  rw [begin, List.take_append_of_le_length (by omega : i + 1 ≤ rs.length)]
  rcases Nat.lt_or_ge (i + 1) rs.length with hlast | hlast
  · rw [begin, List.getElem?_append_left hlast] at hr'
    exact h i r r' hr hr'
  · have hend : i + 1 = rs.length := by omega
    rw [begin, hend, List.getElem?_concat_length] at hr'
    obtain rfl := Option.some.inj hr'
    rw [show i = rs.length - 1 by omega, ← List.getLast?_eq_getElem?] at hr
    rw [hend, List.take_length]
    exact hrested r hr

/-- The rule for a round that ends: the rounds before it are what they were. -/
protected lemma finish (h : Paced pause (begin now rs)) (o : ω) :
    Paced pause (finish o (begin now rs)) := by
  intro i r r' hr hr'
  rw [finish_begin] at hr hr' ⊢
  have hlt := (List.getElem?_eq_some_iff.mp hr').1
  rw [List.length_append, List.length_singleton] at hlt
  have hi : i < rs.length := by omega
  rw [List.getElem?_append_left hi] at hr
  have hstart : ∃ r'', (begin now rs)[i + 1]? = some r'' ∧ r''.startedAt = r'.startedAt := by
    rcases Nat.lt_or_ge (i + 1) rs.length with hlast | hlast
    · rw [List.getElem?_append_left hlast] at hr'
      exact ⟨r', by rw [begin, List.getElem?_append_left hlast, hr'], rfl⟩
    · obtain hend : i + 1 = rs.length := by omega
      rw [hend, List.getElem?_concat_length] at hr'
      obtain rfl := Option.some.inj hr'
      exact ⟨⟨now, none⟩, by rw [begin, hend, List.getElem?_concat_length], rfl⟩
  obtain ⟨r'', hr'', hsame⟩ := hstart
  have hpaced := h i r r'' (by rw [begin, List.getElem?_append_left hi, hr]) hr''
  rw [begin, List.take_append_of_le_length hi] at hpaced
  rw [List.take_append_of_le_length hi, ← hsame]
  exact hpaced

/-! ### Windows of time -/

/-- The starts are apart. -/
lemma pairwise_starts (h : Paced pause rs) {gap : ℤ} (hgap : 0 ≤ gap)
    (hpause : ∀ os, gap ≤ pause os) :
    (rs.map Attempt.startedAt).Pairwise fun a b => a + gap ≤ b := by
  have htrans : IsTrans ℤ fun a b => a + gap ≤ b := ⟨fun a b c hab hbc => by omega⟩
  rw [← List.isChain_iff_pairwise, List.isChain_iff_getElem]
  intro i hi
  rw [List.length_map] at hi
  have hpaced := (h i rs[i] rs[i + 1] (List.getElem?_eq_getElem _)
    (List.getElem?_eq_getElem hi)).2
  rw [List.getElem_map, List.getElem_map]
  have hle := hpause (outcomes (rs.take (i + 1)))
  omega

end Paced

/-- Times in a window that are apart are few. -/
lemma length_mul_le {gap : ℤ} (hgap : 0 ≤ gap) : ∀ {l : List ℤ} {lo hi : ℤ}, lo ≤ hi →
    (l.Pairwise fun a b => a + gap ≤ b) → (∀ a ∈ l, lo ≤ a ∧ a ≤ hi) →
      ((l.length : ℤ) - 1) * gap ≤ hi - lo
  | [], lo, hi, hle, _, _ => by
      have : 0 ≤ hi - lo := by omega
      simpa using by omega
  | [a], lo, hi, hle, _, _ => by
      simpa using hle
  | a :: b :: l, lo, hi, hle, hspaced, hwithin => by
      obtain ⟨hfirst, hrest⟩ := List.pairwise_cons.mp hspaced
      obtain ⟨⟨hlo, hhi⟩, hothers⟩ := List.forall_mem_cons.mp hwithin
      have hle' : a + gap ≤ hi :=
        (hfirst b List.mem_cons_self).trans (hothers b List.mem_cons_self).2
      have ih := length_mul_le hgap hle' hrest fun c hc => ⟨hfirst c hc, (hothers c hc).2⟩
      have hcount : (((a :: b :: l).length : ℤ) - 1) * gap =
          (((b :: l).length : ℤ) - 1) * gap + gap := by
        push_cast [List.length_cons]
        ring
      rw [hcount]
      omega

/-- Of rounds that are paced, a window of time holds the starts of as many as fit into it. -/
theorem Paced.length_window_le {pause : List ω → ℤ} {rs : List (Attempt ω)} (h : Paced pause rs)
    {gap : ℤ} (hgap : 0 < gap) (hpause : ∀ os, gap ≤ pause os) (t : ℤ) {len : ℤ} (hlen : 0 ≤ len) :
    ((rs.filter fun r => t ≤ r.startedAt ∧ r.startedAt ≤ t + len).length : ℤ) ≤ len / gap + 1 := by
  have hspaced := (h.pairwise_starts hgap.le hpause).filter
    fun s => decide (t ≤ s ∧ s ≤ t + len)
  have hcount := length_mul_le hgap.le (by omega : t ≤ t + len) hspaced fun s hs => by
    simpa using (List.mem_filter.mp hs).2
  rw [List.filter_map, List.length_map, add_sub_cancel_left] at hcount
  have hdiv := (Int.le_ediv_iff_mul_le hgap).mpr hcount
  have hsame : (rs.filter ((fun s => decide (t ≤ s ∧ s ≤ t + len)) ∘ Attempt.startedAt)) =
      rs.filter fun r => t ≤ r.startedAt ∧ r.startedAt ≤ t + len := rfl
  rw [hsame] at hdiv
  omega

/-- Of results that are noted when their rounds end, before the next one starts, a window of time
holds at most one more. -/
lemma length_noted_le {α : Type*} (started noted : α → ℤ) {l : List α} {gap : ℤ} (hgap : 0 < gap)
    (hstarts : l.Pairwise fun a b => started a + gap ≤ started b)
    (hbefore : l.Pairwise fun a b => noted a ≤ started b) (hle : ∀ a ∈ l, started a ≤ noted a)
    (t : ℤ) {len : ℤ} (hlen : 0 ≤ len) :
    ((l.filter fun a => t ≤ noted a ∧ noted a ≤ t + len).length : ℤ) ≤ len / gap + 2 := by
  have hstarts' := hstarts.filter fun a => decide (t ≤ noted a ∧ noted a ≤ t + len)
  have hbefore' := hbefore.filter fun a => decide (t ≤ noted a ∧ noted a ≤ t + len)
  have hwithin : ∀ a ∈ l.filter fun a => t ≤ noted a ∧ noted a ≤ t + len,
      t ≤ noted a ∧ started a ≤ t + len := fun a ha => by
    obtain ⟨hmem, hnoted⟩ := List.mem_filter.mp ha
    obtain ⟨hlow, hhigh⟩ := of_decide_eq_true hnoted
    exact ⟨hlow, (hle a hmem).trans hhigh⟩
  have hnonneg : 0 ≤ len / gap := Int.ediv_nonneg hlen hgap.le
  cases hl : l.filter fun a => t ≤ noted a ∧ noted a ≤ t + len with
  | nil =>
      rw [List.length_nil]
      omega
  | cons a rest =>
      -- the later ones were started in the window
      rw [hl] at hstarts' hbefore' hwithin
      have hcount := length_mul_le hgap.le (by omega : t ≤ t + len)
        (List.pairwise_map.mpr (List.pairwise_cons.mp hstarts').2) fun s hs => by
          obtain ⟨b, hb, rfl⟩ := List.mem_map.mp hs
          have hfirst := (List.pairwise_cons.mp hbefore').1 b hb
          exact ⟨(hwithin a List.mem_cons_self).1.trans hfirst,
            (hwithin b (List.mem_cons_of_mem a hb)).2⟩
      rw [List.length_map, add_sub_cancel_left] at hcount
      have hdiv := (Int.le_ediv_iff_mul_le hgap).mpr hcount
      push_cast [List.length_cons]
      omega

end Pacing
