import Mathlib.Tactic

/-!
Programs that call their surroundings, and rules of pre- and postconditions for them.

A program of type `Prog E R α` either has returned a value or is suspended at a call
`e : E` and waits for the reply, of type `R e`. Whoever runs it chooses the replies:
an interpreter (`Prog.exec`), a function from the history of calls to the next reply
(`Prog.run`), or a scheduler that lets other programs run in between.

* `Monitor` watches the calls of a program, keeping a state of its own and
  permitting or forbidding each call; `Prog.wp M p Q s` says that from monitor state
  `s` every call of `p` is permitted, whatever the replies, and that `Q` holds of the
  final monitor state and the result.
* `wp_bind`, `wp_mono` and `wp_of_only` are the rules; `wp_exec` and `wp_run_foldl` read a
  proved `wp` off a run.
* `Prog.Yields` is the result of a program whose calls all get fixed replies.
* Programs that may throw are `ExceptT ε (Prog E R)`; `ewp` has a postcondition for each
  way to end, and `ewp_bind` and `ewp_tryCatch` are its rules for sequencing and for
  `try`/`catch`.
-/

/-- A program that calls its surroundings with `e : E` and is resumed with a reply of
type `R e`. -/
inductive Prog (E : Type) (R : E → Type) (α : Type) where
  | ret (a : α)
  | call (e : E) (k : R e → Prog E R α)

/-- A call together with the reply it got. -/
abbrev Prog.Event (E : Type) (R : E → Type) : Type := Σ e, R e

/-- What watches a program: the calls it permits in each of its states, and the state
after a call and its reply. -/
structure Monitor (E : Type) (R : E → Type) (σ : Type) where
  ok : σ → E → Prop
  next : σ → (e : E) → R e → σ

namespace Prog

variable {E : Type} {R : E → Type} {α β σ τ ε : Type}

protected def bind : Prog E R α → (α → Prog E R β) → Prog E R β
  | ret a, f => f a
  | call e k, f => call e fun r => (k r).bind f

instance : Monad (Prog E R) where
  pure := ret
  bind := Prog.bind

/-- The program that makes one call and returns the reply. -/
def perform (e : E) : Prog E R (R e) := call e ret

@[simp] lemma call_bind (e : E) (k : R e → Prog E R α) (f : α → Prog E R β) :
    (call e k >>= f) = call e fun r => k r >>= f := rfl

lemma bind_ret (p : Prog E R α) : p >>= ret = p := by
  induction p with
  | ret a => rfl
  | call e k ih => rw [call_bind]; exact congrArg (call e) (funext ih)

lemma bind_bind (p : Prog E R α) {γ : Type} (f : α → Prog E R β) (g : β → Prog E R γ) :
    p >>= f >>= g = p >>= fun a => f a >>= g := by
  induction p with
  | ret a => rfl
  | call e k ih => simp only [call_bind]; exact congrArg (call e) (funext ih)

instance : LawfulMonad (Prog E R) :=
  LawfulMonad.mk' _ (fun p => bind_ret p) (fun _ _ => rfl) (fun p f g => bind_bind p f g)

/-! ### Monitored programs -/

/-- From the monitor state `s` every call of the program is permitted, whatever the
replies, and `Q` holds of the monitor state and the result at the end. -/
def wp (M : Monitor E R σ) : Prog E R α → (σ → α → Prop) → σ → Prop
  | ret a, Q, s => Q s a
  | call e k, Q, s => M.ok s e ∧ ∀ r, wp M (k r) Q (M.next s e r)

variable {M : Monitor E R σ}

@[simp] lemma wp_ret {a : α} {Q : σ → α → Prop} {s : σ} : wp M (ret a) Q s ↔ Q s a := Iff.rfl

@[simp] lemma wp_call {e : E} {k : R e → Prog E R α} {Q : σ → α → Prop} {s : σ} :
    wp M (call e k) Q s ↔ M.ok s e ∧ ∀ r, wp M (k r) Q (M.next s e r) := Iff.rfl

/-- The rule of sequencing: the second program starts in the monitor state and with
the value the first one ends in. -/
lemma wp_bind {p : Prog E R α} {f : α → Prog E R β} {Q : σ → β → Prop} {s : σ} :
    wp M (p >>= f) Q s ↔ wp M p (fun s' a => wp M (f a) Q s') s := by
  induction p generalizing s with
  | ret a => rfl
  | call e k ih => simp only [call_bind, wp_call, ih]

/-- The rule of consequence. -/
lemma wp_mono {p : Prog E R α} {Q Q' : σ → α → Prop} {s : σ} (h : wp M p Q s)
    (hQ : ∀ s a, Q s a → Q' s a) : wp M p Q' s := by
  induction p generalizing s with
  | ret a => exact hQ s a h
  | call e k ih => exact ⟨h.1, fun r => ih r (h.2 r)⟩

/-- The program makes only calls that satisfy `P`. -/
def Only (P : E → Prop) : Prog E R α → Prop
  | ret _ => True
  | call e k => P e ∧ ∀ r, Only P (k r)

lemma Only.bind {P : E → Prop} {p : Prog E R α} {f : α → Prog E R β} (hp : Only P p)
    (hf : ∀ a, Only P (f a)) : Only P (p >>= f) := by
  induction p with
  | ret a => exact hf a
  | call e k ih => exact ⟨hp.1, fun r => ih r (hp.2 r)⟩

/-- A program whose calls are all permitted by the monitor and preserve a property of
its state ends in a state with that property. -/
lemma wp_of_only {P : E → Prop} (I : σ → Prop) {p : Prog E R α} {Q : σ → α → Prop} {s : σ}
    (hstep : ∀ s e, P e → I s → M.ok s e ∧ ∀ r, I (M.next s e r))
    (hp : Only P p) (hs : I s) (hQ : ∀ s a, I s → Q s a) : wp M p Q s := by
  induction p generalizing s with
  | ret a => exact hQ s a hs
  | call e k ih =>
      obtain ⟨hok, hnext⟩ := hstep s e hp.1 hs
      exact ⟨hok, fun r => ih r (hp.2 r) (hnext r)⟩

/-! ### Runs -/

/-- Runs a program against an interpreter of its calls. -/
def exec (h : τ → (e : E) → R e × τ) : Prog E R α → τ → α × τ
  | ret a, t => (a, t)
  | call e k, t => exec h (k (h t e).1) (h t e).2

lemma exec_bind (h : τ → (e : E) → R e × τ) (p : Prog E R α) (f : α → Prog E R β) (t : τ) :
    exec h (p >>= f) t = exec h (f (exec h p t).1) (exec h p t).2 := by
  induction p generalizing t with
  | ret a => rfl
  | call e k ih => exact ih _ _

/-- What a monitor establishes holds of every run against an interpreter whose states
the monitor's states describe. -/
theorem wp_exec (h : τ → (e : E) → R e × τ) (I : τ → σ → Prop) {p : Prog E R α}
    {Q : σ → α → Prop} {s : σ} {t : τ} (hp : wp M p Q s) (hI : I t s)
    (hstep : ∀ t s e, I t s → M.ok s e → I (h t e).2 (M.next s e (h t e).1)) :
    ∃ s', I (exec h p t).2 s' ∧ Q s' (exec h p t).1 := by
  induction p generalizing s t with
  | ret a => exact ⟨s, hI, hp⟩
  | call e k ih => exact ih _ (hp.2 _) (hstep t s e hI hp.1)

/-- The interpreter that asks `env` for every reply, given the calls and replies so
far, and records them. -/
def recording (env : List (Event E R) → (e : E) → R e) (tr : List (Event E R)) (e : E) :
    R e × List (Event E R) :=
  (env tr e, tr ++ [⟨e, env tr e⟩])

/-- The result of a program and the calls it made, with their replies, when `env`
chooses each reply from the history. -/
def run (env : List (Event E R) → (e : E) → R e) (p : Prog E R α) : α × List (Event E R) :=
  exec (recording env) p []

/-- The monitor that permits every call and keeps the history. -/
def trace : Monitor E R (List (Event E R)) where
  ok _ _ := True
  next tr e r := tr ++ [⟨e, r⟩]

@[simp] lemma trace_ok (tr : List (Event E R)) (e : E) : (trace (R := R)).ok tr e ↔ True := Iff.rfl

/-- What a monitor establishes holds of every run, of the state that it has after the history. -/
theorem wp_run_foldl {p : Prog E R α} {Q : σ → α → Prop} {s : σ} (hp : wp M p Q s)
    (env : List (Event E R) → (e : E) → R e) :
    Q ((run env p).2.foldl (fun s ev => M.next s ev.1 ev.2) s) (run env p).1 := by
  have hstep : ∀ (tr : List (Event E R)) (s' : σ) (e : E),
      tr.foldl (fun s ev => M.next s ev.1 ev.2) s = s' → M.ok s' e →
      (recording env tr e).2.foldl (fun s ev => M.next s ev.1 ev.2) s
        = M.next s' e (recording env tr e).1 := by
    rintro tr _ e rfl _
    rw [recording, List.foldl_append]
    rfl
  have hstart : ([] : List (Event E R)).foldl (fun s ev => M.next s ev.1 ev.2) s = s := rfl
  obtain ⟨s', hs', hQ⟩ := wp_exec (recording env)
    (fun tr s' => tr.foldl (fun s ev => M.next s ev.1 ev.2) s = s') hp hstart hstep
  rw [run, hs']
  exact hQ

/-! ### Fixed replies -/

/-- If each call `e` is replied to with `r e`, the program makes only calls that satisfy `P`, and
returns `a`. -/
def Yields (r : (e : E) → R e) (P : E → Prop) (a : α) : Prog E R α → Prop
  | ret b => b = a
  | call e k => P e ∧ Yields r P a (k (r e))

section Yields

variable {r : (e : E) → R e} {P : E → Prop}

lemma yields_bind {p : Prog E R α} {f : α → Prog E R β} {a : α} {b : β} (hp : p.Yields r P a)
    (hf : (f a).Yields r P b) : (p >>= f).Yields r P b := by
  induction p with
  | ret a' =>
      obtain rfl : a' = a := hp
      exact hf
  | call e k ih => exact ⟨hp.1, ih (r e) hp.2⟩

/-- What the program returns in surroundings that reply so. -/
lemma run_of_yields {p : Prog E R α} {a : α} (hp : p.Yields r P a)
    {env : List (Event E R) → (e : E) → R e} (henv : ∀ tr e, P e → env tr e = r e) :
    (run env p).1 = a := by
  have hexec : ∀ tr, (exec (recording env) p tr).1 = a := by
    induction p with
    | ret b => exact fun _ => hp
    | call e k ih =>
        intro tr
        have hreply : (recording env tr e).1 = r e := henv tr e hp.1
        rw [exec, hreply]
        exact ih (r e) hp.2 _
  exact hexec []

variable {p : ExceptT ε (Prog E R) α}

lemma yields_bind_ok {f : α → ExceptT ε (Prog E R) β} {a : α} {b : Except ε β}
    (hp : p.run.Yields r P (.ok a)) (hf : (f a).run.Yields r P b) :
    (p >>= f).run.Yields r P b := by
  rw [ExceptT.run_bind]
  exact yields_bind hp hf

lemma yields_bind_error {f : α → ExceptT ε (Prog E R) β} {e : ε}
    (hp : p.run.Yields r P (.error e)) : (p >>= f).run.Yields r P (.error e) := by
  rw [ExceptT.run_bind]
  exact yields_bind hp rfl

lemma yields_tryCatch_ok {a : α} (hp : p.run.Yields r P (.ok a))
    (f : ε → ExceptT ε (Prog E R) α) : (tryCatch p f).run.Yields r P (.ok a) := by
  rw [ExceptT.run_tryCatch]
  exact yields_bind hp rfl

lemma yields_tryCatch_error {f : ε → ExceptT ε (Prog E R) α} {e : ε} {b : Except ε α}
    (hp : p.run.Yields r P (.error e)) (hf : (f e).run.Yields r P b) :
    (tryCatch p f).run.Yields r P b := by
  rw [ExceptT.run_tryCatch]
  exact yields_bind hp hf

end Yields

/-! ### Programs that may throw -/

/-- The weakest precondition of a program that may throw: `Q` holds if it returns, and
`Qe` if it throws. -/
def ewp (M : Monitor E R σ) (p : ExceptT ε (Prog E R) α) (Q : σ → α → Prop) (Qe : σ → ε → Prop)
    (s : σ) : Prop :=
  wp M p.run (fun s' r => match r with
    | .ok a => Q s' a
    | .error e => Qe s' e) s

section Throw

variable {Q : σ → α → Prop} {Qe : σ → ε → Prop} {s : σ}

lemma wp_run_iff {p : ExceptT ε (Prog E R) α} {P : σ → Except ε α → Prop} :
    wp M p.run P s ↔ ewp M p (fun s' a => P s' (.ok a)) (fun s' e => P s' (.error e)) s := by
  constructor <;> intro h <;> refine wp_mono h fun s' r hr => ?_ <;> cases r <;> exact hr

@[simp] lemma ewp_pure {a : α} :
    ewp M (pure a : ExceptT ε (Prog E R) α) Q Qe s ↔ Q s a := Iff.rfl

@[simp] lemma ewp_throw {e : ε} :
    ewp M (throw e : ExceptT ε (Prog E R) α) Q Qe s ↔ Qe s e := Iff.rfl

lemma ewp_mk_ret {r : Except ε α} :
    ewp M (ExceptT.mk (ret r) : ExceptT ε (Prog E R) α) Q Qe s ↔ match r with
      | .ok a => Q s a
      | .error e => Qe s e := Iff.rfl

/-- The rule of a single call. -/
@[simp] lemma ewp_perform {e : E} {Q : σ → R e → Prop} :
    ewp M (ExceptT.lift (perform e) : ExceptT ε (Prog E R) (R e)) Q Qe s ↔
      M.ok s e ∧ ∀ r, Q (M.next s e r) r := Iff.rfl

/-- The rule of sequencing. -/
lemma ewp_bind {f : β → ExceptT ε (Prog E R) α} {p : ExceptT ε (Prog E R) β} :
    ewp M (p >>= f) Q Qe s ↔ ewp M p (fun s' b => ewp M (f b) Q Qe s') Qe s := by
  rw [ewp, ExceptT.run_bind, wp_bind]
  constructor <;> intro h <;> refine wp_mono h fun s' r hr => ?_ <;> cases r <;> exact hr

/-- The rule of the conditional. -/
lemma ewp_ite {c : Prop} [Decidable c] {p q : ExceptT ε (Prog E R) α} (hp : c → ewp M p Q Qe s)
    (hq : ¬ c → ewp M q Q Qe s) : ewp M (if c then p else q) Q Qe s := by
  by_cases h : c
  · rw [if_pos h]
    exact hp h
  · rw [if_neg h]
    exact hq h

lemma ewp_map {f : β → α} {p : ExceptT ε (Prog E R) β} :
    ewp M (f <$> p) Q Qe s ↔ ewp M p (fun s' b => Q s' (f b)) Qe s := by
  rw [← bind_pure_comp, ewp_bind]
  rfl

/-- The rule of `try`/`catch`. -/
lemma ewp_tryCatch {p : ExceptT ε (Prog E R) α} {f : ε → ExceptT ε (Prog E R) α} :
    ewp M (tryCatch p f) Q Qe s ↔ ewp M p Q (fun s' e => ewp M (f e) Q Qe s') s := by
  rw [ewp, ExceptT.run_tryCatch, wp_bind]
  constructor <;> intro h <;> refine wp_mono h fun s' r hr => ?_ <;> cases r <;> exact hr

/-- The rule of consequence. -/
lemma ewp_mono {p : ExceptT ε (Prog E R) α} {Q' : σ → α → Prop} {Qe' : σ → ε → Prop}
    (h : ewp M p Q Qe s) (hQ : ∀ s a, Q s a → Q' s a) (hQe : ∀ s e, Qe s e → Qe' s e) :
    ewp M p Q' Qe' s := by
  refine wp_mono h fun s' r hr => ?_
  cases r with
  | ok a => exact hQ s' a hr
  | error e => exact hQe s' e hr

lemma ewp_of_only {P : E → Prop} (I : σ → Prop) {p : ExceptT ε (Prog E R) α}
    (hstep : ∀ s e, P e → I s → M.ok s e ∧ ∀ r, I (M.next s e r))
    (hp : Only P p.run) (hs : I s) (hQ : ∀ s a, I s → Q s a) (hQe : ∀ s e, I s → Qe s e) :
    ewp M p Q Qe s := by
  refine wp_of_only I hstep hp hs fun s' r hI => ?_
  cases r with
  | ok a => exact hQ s' a hI
  | error e => exact hQe s' e hI

end Throw

-- The rules are all that a proof needs of it; unfolding it runs the program.
attribute [irreducible] ewp

section Exec

variable {h : τ → (e : E) → R e × τ} {t : τ}

/-- A sequence goes on with what its first part returns. -/
lemma exec_bind_of_ok {p : ExceptT ε (Prog E R) β} {f : β → ExceptT ε (Prog E R) α} {b : β}
    {t' : τ} (hp : exec h p.run t = (.ok b, t')) :
    exec h (p >>= f).run t = exec h (f b).run t' := by
  rw [ExceptT.run_bind, exec_bind, hp]

lemma exec_map {p : ExceptT ε (Prog E R) β} {f : β → α} :
    exec h (f <$> p).run t = ((exec h p.run t).1.map f, (exec h p.run t).2) := by
  rw [ExceptT.run_map, ← bind_pure_comp, exec_bind]
  rfl

/-- A sequence that returns has run both its parts to their ends. -/
lemma exec_bind_eq_ok {p : ExceptT ε (Prog E R) β} {f : β → ExceptT ε (Prog E R) α} {a : α}
    (hok : (exec h (p >>= f).run t).1 = .ok a) : ∃ b, (exec h p.run t).1 = .ok b ∧
      (exec h (f b).run (exec h p.run t).2).1 = .ok a := by
  rw [ExceptT.run_bind, exec_bind] at hok
  cases hb : (exec h p.run t).1 with
  | error e =>
      rw [hb] at hok
      cases hok
  | ok b =>
      rw [hb] at hok
      exact ⟨b, rfl, hok⟩

/-- A `try` that returns what its `catch` never does has run without an error. -/
lemma exec_tryCatch_eq_ok {p : ExceptT ε (Prog E R) α} {f : ε → α} {a : α}
    (hf : ∀ e, f e ≠ a) (hok : (exec h (tryCatch p fun e => pure (f e)).run t).1 = .ok a) :
    (exec h p.run t).1 = .ok a := by
  rw [ExceptT.run_tryCatch, exec_bind] at hok
  cases hb : (exec h p.run t).1 with
  | error e =>
      rw [hb] at hok
      exact absurd (Except.ok.inj hok) (hf e)
  | ok b =>
      rw [hb] at hok
      exact hok

end Exec

end Prog
