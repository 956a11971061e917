import Mathlib.Tactic

/-!
Loops of an imperative program.

A round of a loop is a function `next : σ → Option σ` on the values of its variables, and `none`
says that the condition of the loop fails.

* `run next fuel s` makes the rounds of a loop; it is `none` if the loop has not ended after `fuel`
  of them.
* `exists_run`: a loop with a variant ends, after no more rounds than the variant says.
* `run_spec`: what holds at the start and is kept by a round holds at the end, where the condition
  of the loop fails.
-/

namespace Loop

variable {σ : Type*} {next : σ → Option σ} {s t : σ}

/-- At most `fuel` rounds of a loop. -/
def run (next : σ → Option σ) : ℕ → σ → Option σ
  | 0, s => if (next s).isNone then some s else none
  | fuel + 1, s => match next s with
    | none => some s
    | some t => run next fuel t

lemma run_of_none (h : next s = none) (fuel : ℕ) : run next fuel s = some s := by
  cases fuel <;> simp [run, h]

lemma run_of_some (h : next s = some t) (fuel : ℕ) : run next (fuel + 1) s = run next fuel t := by
  simp [run, h]

/-- **The rule of variants**: a loop ends if a number decreases in every round. -/
theorem exists_run (variant : σ → ℕ) (hvariant : ∀ s t, next s = some t → variant t < variant s)
    {fuel : ℕ} (hfuel : variant s ≤ fuel) : ∃ t, run next fuel s = some t := by
  induction fuel generalizing s with
  | zero =>
      cases hnext : next s with
      | none => exact ⟨s, run_of_none hnext 0⟩
      | some t =>
          have hlt := hvariant s t hnext
          omega
  | succ fuel ih =>
      cases hnext : next s with
      | none => exact ⟨s, run_of_none hnext (fuel + 1)⟩
      | some t =>
          have hlt := hvariant s t hnext
          rw [run_of_some hnext]
          exact ih (by omega)

/-- **The rule of invariants**. -/
theorem run_spec {I : σ → Prop} (hround : ∀ s t, I s → next s = some t → I t) {fuel : ℕ} (hs : I s)
    (hrun : run next fuel s = some t) : I t ∧ next t = none := by
  induction fuel generalizing s with
  | zero =>
      rw [run] at hrun
      split_ifs at hrun with hnext
      obtain rfl := Option.some.inj hrun
      exact ⟨hs, Option.isNone_iff_eq_none.mp hnext⟩
  | succ fuel ih =>
      cases hnext : next s with
      | none =>
          rw [run_of_none hnext] at hrun
          obtain rfl := Option.some.inj hrun
          exact ⟨hs, hnext⟩
      | some u =>
          rw [run_of_some hnext] at hrun
          exact ih (hround s u hs hnext) hrun

end Loop
