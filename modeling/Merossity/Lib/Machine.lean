import Mathlib.Tactic

/-!
State machines that take one action at a time.

A machine is a function `step : σ → α → Option σ`: the action a scheduler chooses either
cannot be taken in a state, or leads to exactly one next state. `ok` restricts the actions
that are considered.

* `Reaches step ok s t`: `t` is reached from `s` by actions that satisfy `ok`.
* `Reaches.invariant`: what one step preserves holds of every state reached.
* `reaches_run`: a list of actions that can be taken is such a run.
-/

namespace Machine

variable {σ α : Type*} {step : σ → α → Option σ} {ok : σ → α → Prop} {s t u : σ}

/-- `t` is reached from `s` by actions that satisfy `ok` in the state they are taken in. -/
inductive Reaches (step : σ → α → Option σ) (ok : σ → α → Prop) (s : σ) : σ → Prop where
  | refl : Reaches step ok s s
  | tail {t u : σ} (a : α) (h : Reaches step ok s t) (hok : ok t a) (hstep : step t a = some u) :
      Reaches step ok s u

/-- Every action may be taken. -/
def Always : σ → α → Prop := fun _ _ => True

namespace Reaches

/-- The rule of induction for machines. -/
theorem invariant {I : σ → Prop} (h : Reaches step ok s t) (hs : I s)
    (hstep : ∀ s a t, I s → ok s a → step s a = some t → I t) : I t := by
  induction h with
  | refl => exact hs
  | tail a _ hok hnext ih => exact hstep _ a _ ih hok hnext

lemma trans (h : Reaches step ok s t) (h' : Reaches step ok t u) : Reaches step ok s u := by
  induction h' with
  | refl => exact h
  | tail a _ hok hnext ih => exact ih.tail a hok hnext

/-- A run that keeps to a condition is a run. -/
lemma always (h : Reaches step ok s t) : Reaches step Always s t :=
  h.invariant (I := Reaches step Always s) .refl fun _ a _ hs _ hnext => hs.tail a trivial hnext

/-- A run that begins with the action `a`. -/
lemma head (a : α) (hok : ok s a) (hstep : step s a = some t) (h : Reaches step ok t u) :
    Reaches step ok s u :=
  (refl.tail a hok hstep).trans h

end Reaches

/-- Takes the actions of a list. -/
def run (step : σ → α → Option σ) : List α → σ → Option σ
  | [], s => some s
  | a :: as, s => (step s a).bind (run step as)

/-- Every action of the list satisfies `ok` in the state in which it is taken. -/
def Along (step : σ → α → Option σ) (ok : σ → α → Prop) : List α → σ → Prop
  | [], _ => True
  | a :: as, s => ok s a ∧ match step s a with
    | some t => Along step ok as t
    | none => True

/-- A list of actions that can be taken is a run. -/
lemma reaches_run (as : List α) (h : Along step ok as s) (hrun : run step as s = some t) :
    Reaches step ok s t := by
  induction as generalizing s with
  | nil =>
      obtain rfl := Option.some.inj hrun
      exact .refl
  | cons a as ih =>
      obtain ⟨s', hs', hrest⟩ := Option.bind_eq_some_iff.mp hrun
      obtain ⟨hok, hrest'⟩ := h
      rw [hs'] at hrest'
      exact .head a hok hs' (ih hrest' hrest)

/-- A condition on the actions alone is tested on each of them. -/
lemma along_of_forall {as : List α} (h : ∀ a ∈ as, ∀ s, ok s a) : ∀ s : σ, Along step ok as s := by
  induction as with
  | nil => exact fun _ => trivial
  | cons a as ih =>
      intro s
      refine ⟨h a List.mem_cons_self s, ?_⟩
      cases step s a with
      | some t => exact ih (fun b hb => h b (List.mem_cons_of_mem a hb)) t
      | none => exact trivial

lemma along_always (as : List α) : ∀ s : σ, Along step Always as s :=
  along_of_forall fun _ _ _ => trivial

/-- Conditions that agree on every step agree along every list of actions. -/
lemma along_congr {ok' : σ → α → Prop} (h : ∀ s a, ok s a ↔ ok' s a) (as : List α) :
    ∀ s : σ, Along step ok as s ↔ Along step ok' as s := by
  induction as with
  | nil => exact fun _ => Iff.rfl
  | cons a as ih =>
      intro s
      refine and_congr (h s a) ?_
      cases step s a with
      | some t => exact ih t
      | none => exact Iff.rfl

/-- Every action of the list passes a test in the state in which it is taken. -/
def passes (step : σ → α → Option σ) (test : σ → α → Bool) : List α → σ → Bool
  | [], _ => true
  | a :: as, s => test s a && match step s a with
    | some t => passes step test as t
    | none => true

lemma along_of_passes {test : σ → α → Bool} (htest : ∀ s a, test s a = true → ok s a)
    (as : List α) : ∀ s : σ, passes step test as s = true → Along step ok as s := by
  induction as with
  | nil => exact fun _ _ => trivial
  | cons a as ih =>
      intro s h
      rw [passes, Bool.and_eq_true] at h
      refine ⟨htest s a h.1, ?_⟩
      have hrest := h.2
      cases hstep : step s a with
      | some t =>
          rw [hstep] at hrest
          exact ih t hrest
      | none => exact trivial

end Machine
