import Merossity.Lib.Prog

/-!
The histories of programs.

* `Prog.Runs p tr a` says that some replies make the program `p` make the calls of `tr` and return
  `a`; whoever chooses the replies, a run is one of these (`runs_run`).
* `runs_bind_iff` takes the history of a sequence apart, and `runs_bind` that of a sequence of
  programs that may throw; `runs_pure`, `runs_throw` and `runs_result` are the programs without a
  call, and `runs_tryCatch` is the rule of `try`/`catch`.
* `Only.of_runs`: what holds of all calls of a program holds of its histories; and `wp_of_runs` is
  the rule for a program that a monitor takes no notice of.
-/

namespace Prog

variable {E : Type} {R : E → Type} {α β ε : Type}

/-- Some replies to the calls of the program make the history `tr`, and the result `a`. -/
def Runs : Prog E R α → List (Event E R) → α → Prop
  | ret b, tr, a => tr = [] ∧ a = b
  | call e k, tr, a => ∃ r rest, tr = ⟨e, r⟩ :: rest ∧ Runs (k r) rest a

/-- A sequence makes the history of its first part, and then that of its second one. -/
lemma runs_bind_iff {p : Prog E R α} {f : α → Prog E R β} {tr : List (Event E R)} {b : β} :
    Runs (p >>= f) tr b ↔ ∃ a tr₁ tr₂, tr = tr₁ ++ tr₂ ∧ Runs p tr₁ a ∧ Runs (f a) tr₂ b := by
  induction p generalizing tr with
  | ret a =>
      constructor
      · intro h
        exact ⟨a, [], tr, rfl, ⟨rfl, rfl⟩, h⟩
      · rintro ⟨_, _, tr₂, rfl, ⟨rfl, rfl⟩, h⟩
        exact h
  | call e k ih =>
      rw [call_bind]
      constructor
      · rintro ⟨r, rest, rfl, h⟩
        obtain ⟨a, tr₁, tr₂, rfl, h₁, h₂⟩ := (ih r).mp h
        exact ⟨a, ⟨e, r⟩ :: tr₁, tr₂, rfl, ⟨r, tr₁, rfl, h₁⟩, h₂⟩
      · rintro ⟨a, _, tr₂, rfl, ⟨r, tr₁, rfl, h₁⟩, h₂⟩
        exact ⟨r, tr₁ ++ tr₂, rfl, (ih r).mpr ⟨a, tr₁, tr₂, rfl, h₁, h₂⟩⟩

lemma runs_exec (env : List (Event E R) → (e : E) → R e) (p : Prog E R α) (tr : List (Event E R)) :
    ∃ new, (exec (recording env) p tr).2 = tr ++ new
      ∧ Runs p new (exec (recording env) p tr).1 := by
  induction p generalizing tr with
  | ret a => exact ⟨[], (List.append_nil tr).symm, rfl, rfl⟩
  | call e k ih =>
      obtain ⟨new, hnew, hruns⟩ := ih (env tr e) (tr ++ [⟨e, env tr e⟩])
      exact ⟨⟨e, env tr e⟩ :: new, by rw [exec, recording, hnew, List.append_assoc]; rfl,
        env tr e, new, rfl, hruns⟩

/-- Every run has a history of the program. -/
theorem runs_run (env : List (Event E R) → (e : E) → R e) (p : Prog E R α) :
    Runs p (run env p).2 (run env p).1 := by
  obtain ⟨new, hnew, hruns⟩ := runs_exec env p []
  rwa [run, hnew]

/-- A program that makes only calls with a property has histories of such calls. -/
lemma Only.of_runs {P : E → Prop} {p : Prog E R α} {tr : List (Event E R)} {a : α}
    (hp : Only P p) (h : Runs p tr a) : ∀ ev ∈ tr, P ev.1 := by
  induction p generalizing tr with
  | ret b =>
      obtain ⟨rfl, -⟩ := h
      simp
  | call e k ih =>
      obtain ⟨r, rest, rfl, h⟩ := h
      exact List.forall_mem_cons.mpr ⟨hp.1, ih r (hp.2 r) h⟩

/-- A program whose calls are all permitted by the monitor, and preserve a property of its state,
ends in a state with that property, and with a result that some history has. -/
lemma wp_of_runs {σ : Type} {M : Monitor E R σ} {P : E → Prop} (I : σ → Prop) {p : Prog E R α}
    {Q : σ → α → Prop} {s : σ}
    (hstep : ∀ s e, P e → I s → M.ok s e ∧ ∀ r, I (M.next s e r)) (hp : Only P p) (hs : I s)
    (hQ : ∀ s a tr, I s → Runs p tr a → Q s a) : wp M p Q s := by
  induction p generalizing s with
  | ret a => exact hQ s a [] hs ⟨rfl, rfl⟩
  | call e k ih =>
      obtain ⟨hok, hnext⟩ := hstep s e hp.1 hs
      refine ⟨hok, fun r => ih r (hp.2 r) (hnext r) fun s a tr hI h => ?_⟩
      exact hQ s a (⟨e, r⟩ :: tr) hI ⟨r, tr, rfl, h⟩

/-! ### Programs that may throw -/

section Throw

variable {tr : List (Event E R)}

lemma runs_pure {a : α} {r : Except ε α} :
    Runs (pure a : ExceptT ε (Prog E R) α).run tr r ↔ tr = [] ∧ r = .ok a := Iff.rfl

lemma runs_throw {e : ε} {r : Except ε α} :
    Runs (throw e : ExceptT ε (Prog E R) α).run tr r ↔ tr = [] ∧ r = .error e := Iff.rfl

lemma runs_result {r' r : Except ε α} :
    Runs (ExceptT.mk (ret r') : ExceptT ε (Prog E R) α).run tr r ↔ tr = [] ∧ r = r' := Iff.rfl

/-- A sequence throws in its first part, or goes on to its second one. -/
lemma runs_bind {p : ExceptT ε (Prog E R) α} {f : α → ExceptT ε (Prog E R) β} {r : Except ε β} :
    Runs (p >>= f).run tr r ↔ (∃ e, Runs p.run tr (.error e) ∧ r = .error e)
      ∨ ∃ a tr₁ tr₂, tr = tr₁ ++ tr₂ ∧ Runs p.run tr₁ (.ok a) ∧ Runs (f a).run tr₂ r := by
  rw [ExceptT.run_bind, runs_bind_iff]
  constructor
  · rintro ⟨a, tr₁, tr₂, rfl, h₁, h₂⟩
    cases a with
    | error e =>
        obtain ⟨rfl, hr⟩ := h₂
        rw [List.append_nil]
        exact .inl ⟨e, h₁, hr⟩
    | ok a => exact .inr ⟨a, tr₁, tr₂, rfl, h₁, h₂⟩
  · rintro (⟨e, h₁, rfl⟩ | ⟨a, tr₁, tr₂, rfl, h₁, h₂⟩)
    · exact ⟨.error e, tr, [], (List.append_nil tr).symm, h₁, rfl, rfl⟩
    · exact ⟨.ok a, tr₁, tr₂, rfl, h₁, h₂⟩

/-- A `try` returns, or throws and goes on to its `catch`. -/
lemma runs_tryCatch {p : ExceptT ε (Prog E R) α} {f : ε → ExceptT ε (Prog E R) α}
    {r : Except ε α} :
    Runs (tryCatch p f).run tr r ↔ (∃ a, Runs p.run tr (.ok a) ∧ r = .ok a)
      ∨ ∃ e tr₁ tr₂, tr = tr₁ ++ tr₂ ∧ Runs p.run tr₁ (.error e) ∧ Runs (f e).run tr₂ r := by
  rw [ExceptT.run_tryCatch, runs_bind_iff]
  constructor
  · rintro ⟨a, tr₁, tr₂, rfl, h₁, h₂⟩
    cases a with
    | error e => exact .inr ⟨e, tr₁, tr₂, rfl, h₁, h₂⟩
    | ok a =>
        obtain ⟨rfl, hr⟩ := h₂
        rw [List.append_nil]
        exact .inl ⟨a, h₁, hr⟩
  · rintro (⟨a, h₁, rfl⟩ | ⟨e, tr₁, tr₂, rfl, h₁, h₂⟩)
    · exact ⟨.ok a, tr, [], (List.append_nil tr).symm, h₁, rfl, rfl⟩
    · exact ⟨.error e, tr₁, tr₂, rfl, h₁, h₂⟩

end Throw

end Prog
