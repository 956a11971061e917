import Merossity.Lib.Machine
import Merossity.Lib.Prog

/-!
Bounds on the work that is left.

* `Prog.Within p n`: the program makes at most `n` more calls, whatever the replies. `Prog.depth` is
  the least such bound, and every reply lowers it (`depth_lt`).
* `Machine.counted` counts the steps of a machine that serve some purpose. `Machine.counted_le` is
  the rule: if they take something off a measure and no step adds to it, there are no more of them
  than it says.
-/

namespace Prog

variable {E : Type} {R : E → Type} {α β ε : Type} {m n : ℕ}

/-- The program makes at most so many more calls, whatever the replies. -/
def Within : Prog E R α → ℕ → Prop
  | ret _, _ => True
  | call _ _, 0 => False
  | call _ k, n + 1 => ∀ r, (k r).Within n

lemma Within.mono {p : Prog E R α} (h : p.Within m) (hmn : m ≤ n) : p.Within n := by
  induction p generalizing m n with
  | ret a => exact trivial
  | call e k ih =>
      cases m with
      | zero => exact h.elim
      | succ m =>
          obtain ⟨n, rfl⟩ := Nat.exists_eq_add_of_le' (Nat.one_le_of_lt hmn)
          exact fun r => ih r (h r) (Nat.le_of_succ_le_succ hmn)

/-- The calls of a sequence are those of its parts. -/
lemma Within.bind {p : Prog E R α} {f : α → Prog E R β} (hp : p.Within m)
    (hf : ∀ a, (f a).Within n) : (p >>= f).Within (m + n) := by
  induction p generalizing m with
  | ret a => exact (hf a).mono (Nat.le_add_left n m)
  | call e k ih =>
      cases m with
      | zero => exact hp.elim
      | succ m =>
          rw [Nat.succ_add]
          exact fun r => ih r (hp r)

lemma within_run_bind {p : ExceptT ε (Prog E R) α} {f : α → ExceptT ε (Prog E R) β}
    (hp : p.run.Within m) (hf : ∀ a, (f a).run.Within n) : (p >>= f).run.Within (m + n) := by
  rw [ExceptT.run_bind]
  refine hp.bind fun r => ?_
  cases r with
  | ok a => exact hf a
  | error e => exact trivial

/-- The least bound on the calls that the program makes. -/
noncomputable def depth (p : Prog E R α) : ℕ := sInf {n | p.Within n}

lemma depth_le {p : Prog E R α} (h : p.Within n) : p.depth ≤ n := Nat.sInf_le h

lemma within_depth {p : Prog E R α} (h : p.Within n) : p.Within p.depth :=
  Nat.sInf_mem ⟨n, h⟩

/-- A call takes one step at least. -/
lemma depth_pos {e : E} {k : R e → Prog E R α} (h : (call e k).Within n) : 0 < (call e k).depth := by
  have hdepth := within_depth h
  cases hd : (call e k).depth with
  | zero =>
      rw [hd] at hdepth
      exact hdepth.elim
  | succ d => exact Nat.succ_pos d

/-- A reply leaves less to do. -/
lemma depth_lt {e : E} {k : R e → Prog E R α} (h : (call e k).Within n) (r : R e) :
    (k r).depth < (call e k).depth := by
  have hdepth := within_depth h
  obtain ⟨d, hd⟩ := Nat.exists_eq_succ_of_ne_zero (depth_pos h).ne'
  rw [hd] at hdepth ⊢
  exact Nat.lt_succ_of_le (depth_le (hdepth r))

end Prog

namespace Machine

variable {σ α : Type*} {step : σ → α → Option σ} {serves : σ → α → Bool} {s : σ} {t : σ × ℕ}

/-- The machine with a count of the steps that serve. -/
def counted (step : σ → α → Option σ) (serves : σ → α → Bool) (s : σ × ℕ) (a : α) :
    Option (σ × ℕ) :=
  (step s.1 a).map fun t => (t, s.2 + if serves s.1 a then 1 else 0)

/-- If a step that serves lowers the measure, and no step raises it, then there are no more of them
than it says. -/
theorem counted_le {I : σ → Prop} {μ : σ → ℕ} (h : Reaches (counted step serves) Always (s, 0) t)
    (hs : I s) (hstep : ∀ s a t, I s → step s a = some t →
      I t ∧ μ t + (if serves s a then 1 else 0) ≤ μ s) : I t.1 ∧ t.2 + μ t.1 ≤ μ s := by
  refine h.invariant (I := fun t => I t.1 ∧ t.2 + μ t.1 ≤ μ s) ⟨hs, (Nat.zero_add _).le⟩ ?_
  rintro ⟨u, k⟩ a t ⟨hu, hle⟩ - hnext
  obtain ⟨v, hv, rfl⟩ := Option.map_eq_some_iff.mp hnext
  obtain ⟨hv, hdrop⟩ := hstep u a v hu hv
  exact ⟨hv, by dsimp only at hle ⊢; omega⟩

/-- A counted run is a run. -/
lemma reaches_of_counted (h : Reaches (counted step serves) Always (s, 0) t) :
    Reaches step Always s t.1 := by
  refine h.invariant (I := fun t => Reaches step Always s t.1) .refl ?_
  rintro ⟨u, k⟩ a t hu - hnext
  obtain ⟨v, hv, rfl⟩ := Option.map_eq_some_iff.mp hnext
  exact hu.tail a trivial hv

end Machine
