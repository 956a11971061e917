import Mathlib.Tactic

/-!
Waiting longer after every failure.

A client that tries again waits before each attempt. The times are a fixed list `delays`, of which
the last one is repeated, and a success starts it over.

* `failures log` counts the waits of a log since the last success in it.
* `Escalates delays log`: every wait of the log is the entry of `delays` that is due. It is kept by a
  success (`Escalates.success`), and by a wait that is due (`Escalates.wait`).
* `Escalates.le`: with increasing delays, the waits do not get shorter until there is a success, and
  with that they start over (`Escalates.reset`).
-/

namespace Backoff

variable {τ : Type*} {delays : List τ} {d d' : τ}

/-! ### Entries -/

/-- The delay after `n` failures. -/
def entry (delays : List τ) (n : ℕ) : Option τ := delays[min n (delays.length - 1)]?

lemma entry_eq_getD (h : delays ≠ []) (n : ℕ) (fallback : τ) :
    entry delays n = some (delays.getD (min n (delays.length - 1)) fallback) := by
  have hpos := List.length_pos_iff.mpr h
  have hlt : min n (delays.length - 1) < delays.length := by omega
  simp [entry, List.getD_eq_getElem?_getD, List.getElem?_eq_getElem hlt]

lemma entry_le [Preorder τ] (hdelays : delays.Pairwise (· ≤ ·)) {n n' : ℕ} (hle : n ≤ n')
    (hd : entry delays n = some d) (hd' : entry delays n' = some d') : d ≤ d' := by
  obtain ⟨hlt, rfl⟩ := List.getElem?_eq_some_iff.mp hd
  obtain ⟨hlt', rfl⟩ := List.getElem?_eq_some_iff.mp hd'
  rcases Nat.lt_or_ge (min n (delays.length - 1)) (min n' (delays.length - 1)) with hmin | hmin
  · exact List.pairwise_iff_getElem.mp hdelays _ _ hlt hlt' hmin
  · have heq : min n (delays.length - 1) = min n' (delays.length - 1) := by omega
    simp only [heq]
    exact le_rfl

/-! ### Logs -/

/-- What happens to a client: an attempt succeeds, or it begins to wait for the next one. -/
inductive Mark (τ : Type*) where
  | success
  | wait (d : τ)

variable {log before between after : List (Mark τ)}

/-- The number of waits since the last success. -/
def failures (log : List (Mark τ)) : ℕ :=
  log.foldl (fun n m => match m with
    | .success => 0
    | .wait _ => n + 1) 0

@[simp] lemma failures_nil : failures ([] : List (Mark τ)) = 0 := rfl

@[simp] lemma failures_success : failures (log ++ [.success]) = 0 := by simp [failures]

@[simp] lemma failures_wait : failures (log ++ [.wait d]) = failures log + 1 := by simp [failures]

/-- Without a success there are only more failures. -/
lemma failures_le_append (h : .success ∉ between) : failures log ≤ failures (log ++ between) := by
  induction between using List.reverseRecOn with
  | nil => simp
  | append_singleton between m ih =>
      have hbetween : .success ∉ between := fun hmem => h (List.mem_append_left _ hmem)
      cases m with
      | success => exact absurd (List.mem_append_right _ (List.mem_singleton_self _)) h
      | wait d =>
          calc failures log ≤ failures (log ++ between) := ih hbetween
            _ ≤ failures (log ++ between) + 1 := Nat.le_succ _
            _ = failures (log ++ (between ++ [.wait d])) := by
                rw [← List.append_assoc, failures_wait]

/-- Every wait is the one that is due. -/
def Escalates (delays : List τ) (log : List (Mark τ)) : Prop :=
  ∀ before d after, log = before ++ .wait d :: after → entry delays (failures before) = some d

namespace Escalates

lemma nil : Escalates delays [] := by
  intro before d after h
  simp at h

lemma concat {m : Mark τ} (h : Escalates delays log)
    (hm : ∀ d, m = .wait d → entry delays (failures log) = some d) :
    Escalates delays (log ++ [m]) := by
  intro before d after heq
  rcases List.eq_nil_or_concat' after with rfl | ⟨after, m', rfl⟩
  · obtain ⟨rfl, hd⟩ := List.append_inj' heq rfl
    exact hm d (List.cons.inj hd).1
  · rw [← List.cons_append, ← List.append_assoc] at heq
    exact h before d after (List.append_inj' heq rfl).1

lemma success (h : Escalates delays log) : Escalates delays (log ++ [.success]) :=
  h.concat fun _ hd => nomatch hd

lemma wait (h : Escalates delays log) (hd : entry delays (failures log) = some d) :
    Escalates delays (log ++ [.wait d]) := by
  refine h.concat fun d' heq => ?_
  obtain rfl := Mark.wait.inj heq
  exact hd

/-- **Longer and longer**: a wait is no shorter than one before it, without a success between. -/
theorem le [Preorder τ] (hdelays : delays.Pairwise (· ≤ ·)) (h : Escalates delays log)
    (hlog : log = before ++ .wait d :: between ++ .wait d' :: after)
    (hbetween : .success ∉ between) : d ≤ d' := by
  have hd : entry delays (failures before) = some d :=
    h before d (between ++ .wait d' :: after) (by simp [hlog])
  have hd' : entry delays (failures (before ++ .wait d :: between)) = some d' := h _ d' after hlog
  refine entry_le hdelays (failures_le_append ?_) hd hd'
  simpa using hbetween

/-- **From the start**: the first wait after a success is the first delay. -/
theorem reset (h : Escalates delays log) (hlog : log = before ++ .success :: .wait d :: after) :
    delays.head? = some d := by
  have hd := h (before ++ [.success]) d after (by simp [hlog])
  rw [failures_success, entry, Nat.zero_min] at hd
  rwa [List.head?_eq_getElem?]

end Escalates

end Backoff
