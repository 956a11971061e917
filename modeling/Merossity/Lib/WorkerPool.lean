import Merossity.Lib.Machine

/-!
Workers that share a list of jobs.

Each worker takes the next job of the list, waits for its outcome, handles it, and takes the next
one; it ends when there is none left, or when the shared result says so. Between two waits a worker
is not interrupted. A scheduler decides whose outcome comes next, and what it is.

* `WorkerPool` is the state of the workers, with a log of the jobs begun and of the outcomes
  handled.
* `Inv` is the invariant: the jobs begun are the first ones of the list, each is being waited for or
  has been handled, once, and a worker ends for a reason.
* `Inv.finished`: when all workers have ended, the jobs begun have been handled, and these are all
  of them unless the result says to stop.
* `exists_step` and `exists_finished`: the workers are never stuck, and come to their ends.
-/

/-- What the workers do with an outcome, and when they stop; what says so once says so for good. -/
structure WorkerPool.Rules (ι ρ σ : Type*) where
  handle : σ → ι → ρ → σ
  stop : σ → Bool
  lasting : ∀ s i r, stop s = true → stop (handle s i r) = true

/-- The jobs, how many of them have been taken, the job that each worker is at (`none` if it has
ended), the shared result, and the logs. -/
structure WorkerPool (ι ρ σ : Type*) where
  jobs : List ι
  next : ℕ
  workers : List (Option ι)
  shared : σ
  begun : List ι
  handled : List (ι × ρ)

namespace WorkerPool

open Machine

variable {ι ρ σ : Type*} (rules : Rules ι ρ σ) (jobs : List ι) (n : ℕ) (init : σ)

/-! ### The loop -/

/-- A worker looks for its next job. -/
def draw (p : WorkerPool ι ρ σ) : Option ι × WorkerPool ι ρ σ :=
  if rules.stop p.shared then (none, p)
  else (p.jobs[p.next]?, { p with
    next := p.next + 1
    begun := p.begun ++ (p.jobs[p.next]?).toList })

/-- A worker starts. -/
def hire (p : WorkerPool ι ρ σ) : WorkerPool ι ρ σ :=
  let drawn := p.draw rules
  { drawn.2 with workers := drawn.2.workers ++ [drawn.1] }

/-- `n` workers start one after the other. -/
def start : ℕ → WorkerPool ι ρ σ
  | 0 => ⟨jobs, 0, [], init, [], []⟩
  | n + 1 => (start n).hire rules

/-- The outcome of the job of a worker is handled, and the worker goes on. -/
def step (p : WorkerPool ι ρ σ) (a : ℕ × ρ) : Option (WorkerPool ι ρ σ) :=
  match p.workers[a.1]? with
  | some (some job) =>
      let drawn := draw rules { p with
        shared := rules.handle p.shared job a.2
        handled := p.handled ++ [(job, a.2)] }
      some { drawn.2 with workers := drawn.2.workers.set a.1 drawn.1 }
  | _ => none

/-- The jobs that are being waited for. -/
def busy (p : WorkerPool ι ρ σ) : List ι := p.workers.filterMap id

/-- Every worker has ended. -/
def Finished (p : WorkerPool ι ρ σ) : Prop := ∀ w ∈ p.workers, w = none

/-! ### The invariant -/

variable {rules jobs n init}

/-- The jobs begun are the first ones, each is waited for or has been handled, once, and a worker
has ended because the result says so or there was no job left. -/
structure Inv (rules : Rules ι ρ σ) (jobs : List ι) (n : ℕ) (init : σ) (p : WorkerPool ι ρ σ) :
    Prop where
  jobs_eq : p.jobs = jobs
  workers_eq : p.workers.length = n
  begun_eq : p.begun = jobs.take p.next
  parted : (p.handled.map Prod.fst ++ p.busy).Perm p.begun
  shared_eq : p.shared = p.handled.foldl (fun s e => rules.handle s e.1 e.2) init
  ended : none ∈ p.workers → rules.stop p.shared = true ∨ jobs.length ≤ p.next

variable (rules) in
/-- A job that is drawn is begun, and a worker that draws none has a reason to end. -/
lemma draw_cases (p : WorkerPool ι ρ σ) :
    ∃ k, (p.draw rules).2 = { p with
        next := k, begun := p.begun ++ ((p.draw rules).1).toList }
      ∧ p.next ≤ k ∧ (p.begun = p.jobs.take p.next →
        p.begun ++ ((p.draw rules).1).toList = p.jobs.take k)
      ∧ ((p.draw rules).1 = none → rules.stop p.shared = true ∨ p.jobs.length ≤ k) := by
  rw [draw]
  split
  next hstop =>
    refine ⟨p.next, ?_, le_rfl, fun h => ?_, fun _ => .inl hstop⟩
    · simp
    · simpa using h
  next =>
    refine ⟨p.next + 1, rfl, Nat.le_succ _, fun h => ?_, fun hnone => .inr ?_⟩
    · rw [List.take_add_one, ← h]
    · have hlen := List.getElem?_eq_none_iff.mp hnone
      omega

lemma busy_concat (workers : List (Option ι)) (w : Option ι) :
    (workers ++ [w]).filterMap id = workers.filterMap id ++ w.toList := by
  cases w <;> simp

/-- Another worker starts. -/
lemma Inv.hire {p : WorkerPool ι ρ σ} (h : p.Inv rules jobs n init) :
    (p.hire rules).Inv rules jobs (n + 1) init := by
  obtain ⟨k, hdraw, hle, hbegun, hnone⟩ := draw_cases rules p
  rw [WorkerPool.hire, hdraw]
  generalize (p.draw rules).1 = drawn at *
  refine ⟨h.jobs_eq, ?_, ?_, ?_, h.shared_eq, fun hended => ?_⟩
  · simp [h.workers_eq]
  · rw [← h.jobs_eq]
    exact hbegun (h.jobs_eq ▸ h.begun_eq)
  · have hparted := h.parted.append_right drawn.toList
    rwa [List.append_assoc, busy, ← busy_concat] at hparted
  · rcases List.mem_append.mp hended with hold | hnew
    · exact (h.ended hold).imp_right fun hlen => hlen.trans hle
    · exact (hnone (List.mem_singleton.mp hnew).symm).imp_right fun hlen => h.jobs_eq ▸ hlen

lemma inv_start (n : ℕ) : (start rules jobs init n).Inv rules jobs n init := by
  induction n with
  | zero => exact ⟨rfl, rfl, by simp [start], .nil, rfl, fun h => by cases h⟩
  | succ n ih => exact ih.hire

/-- The jobs that are waited for, when a worker goes from one to the next. -/
lemma busy_set {workers : List (Option ι)} {w : ℕ} {job : ι} (h : workers[w]? = some (some job))
    (drawn : Option ι) :
    (job :: (workers.set w drawn).filterMap id).Perm
      (workers.filterMap id ++ drawn.toList) := by
  have hbusy : ∀ (job : ι) rest, (some job :: rest).filterMap id = job :: rest.filterMap id :=
    fun _ _ => rfl
  induction workers generalizing w with
  | nil => cases h
  | cons v rest ih =>
      cases w with
      | zero =>
          obtain rfl : v = some job := by simpa using h
          rw [List.set_cons_zero, hbusy, List.cons_append]
          refine List.Perm.cons job ?_
          cases drawn with
          | none => simp
          | some next => simpa using (List.perm_append_singleton next _).symm
      | succ w =>
          rw [List.getElem?_cons_succ] at h
          rw [List.set_cons_succ]
          cases v with
          | none => simpa using ih h
          | some other =>
              rw [hbusy, hbusy]
              exact (List.Perm.swap other job _).trans ((ih h).cons other)

/-- An outcome is handled. -/
lemma Inv.step {p p' : WorkerPool ι ρ σ} {a : ℕ × ρ} (h : p.Inv rules jobs n init)
    (hstep : p.step rules a = some p') : p'.Inv rules jobs n init := by
  obtain ⟨w, r⟩ := a
  rw [WorkerPool.step] at hstep
  split at hstep
  next job hw =>
    obtain ⟨k, hdraw, hle, hbegun, hnone⟩ := draw_cases rules { p with
      shared := rules.handle p.shared job r
      handled := p.handled ++ [(job, r)] }
    obtain rfl := Option.some.inj hstep
    rw [hdraw]
    generalize (draw rules { p with
      shared := rules.handle p.shared job r
      handled := p.handled ++ [(job, r)] }).1 = drawn at *
    refine ⟨h.jobs_eq, ?_, ?_, ?_, ?_, fun hended => ?_⟩
    · rw [List.length_set, h.workers_eq]
    · rw [← h.jobs_eq]
      exact hbegun (h.jobs_eq ▸ h.begun_eq)
    · -- the job moves from those waited for to those handled
      have hmoved : (p.handled.map Prod.fst ++ [job] ++ (p.workers.set w drawn).filterMap id).Perm
          (p.handled.map Prod.fst ++ (p.workers.filterMap id ++ drawn.toList)) := by
        rw [List.append_assoc]
        exact (busy_set hw drawn).append_left _
      have hparted := h.parted.append_right drawn.toList
      rw [List.append_assoc, busy] at hparted
      rw [List.map_append]
      exact hmoved.trans hparted
    · rw [List.foldl_append, ← h.shared_eq]
      rfl
    · rcases List.mem_or_eq_of_mem_set hended with hold | hnew
      · exact (h.ended hold).imp (rules.lasting _ _ _) fun hlen => hlen.trans hle
      · exact (hnone hnew.symm).imp_right fun hlen => h.jobs_eq ▸ hlen
  next => cases hstep

/-- **The invariant** holds in every run. -/
theorem inv_of_reaches {p : WorkerPool ι ρ σ}
    (h : Reaches (step rules) Always (start rules jobs init n) p) : p.Inv rules jobs n init :=
  h.invariant (inv_start n) fun _ _ _ hp _ hstep => hp.step hstep

/-! ### The end -/

section

variable {p : WorkerPool ι ρ σ}

/-- No job is handled that is not on the list, and none twice. -/
lemma Inv.handled_subperm (h : p.Inv rules jobs n init) :
    (p.handled.map Prod.fst).Subperm jobs := by
  have hbegun : p.begun.Subperm jobs := by
    rw [h.begun_eq]
    exact (List.take_sublist _ _).subperm
  exact ((List.sublist_append_left _ _).subperm.trans h.parted.subperm).trans hbegun

/-- When all workers have ended, the jobs begun have been handled, and these are all jobs unless the
result says to stop. -/
lemma Inv.finished (h : p.Inv rules jobs n init) (hfinished : p.Finished) (hn : n ≠ 0) :
    (p.handled.map Prod.fst).Perm p.begun
      ∧ (rules.stop p.shared = true ∨ p.begun = jobs) := by
  have hbusy : p.busy = [] := by
    refine List.filterMap_eq_nil_iff.mpr fun w hw => ?_
    rw [hfinished w hw]
    rfl
  have hparted := h.parted
  rw [hbusy, List.append_nil] at hparted
  refine ⟨hparted, ?_⟩
  obtain ⟨w, hw⟩ : ∃ w, w ∈ p.workers :=
    List.exists_mem_of_length_pos (by rw [h.workers_eq]; omega)
  refine (h.ended (hfinished w hw ▸ hw)).imp_right fun hlen => ?_
  rw [h.begun_eq, List.take_of_length_le hlen]

/-- As long as a worker waits, its outcome can be handled. -/
lemma exists_step (hfinished : ¬ p.Finished) : ∃ w, ∀ r, ∃ p', p.step rules (w, r) = some p' := by
  obtain ⟨job, hbusy⟩ : ∃ job, some job ∈ p.workers := by
    by_contra hnone
    refine hfinished fun w hw => ?_
    cases w with
    | none => rfl
    | some job => exact absurd ⟨job, hw⟩ hnone
  obtain ⟨w, hw⟩ := List.mem_iff_getElem?.mp hbusy
  refine ⟨w, fun r => ?_⟩
  simp only [step, hw]
  exact ⟨_, rfl⟩

/-- Each step handles one more job. -/
lemma length_handled_step {p' : WorkerPool ι ρ σ} {a : ℕ × ρ} (h : p.step rules a = some p') :
    p'.handled.length = p.handled.length + 1 := by
  rw [step] at h
  split at h
  next job hw =>
    obtain ⟨k, hdraw, -⟩ := draw_cases rules { p with
      shared := rules.handle p.shared job a.2
      handled := p.handled ++ [(job, a.2)] }
    obtain rfl := Option.some.inj h
    rw [hdraw]
    simp
  next => cases h

/-- **The workers come to their ends**: a run in which they have not can go on to one in which they
have. -/
theorem exists_finished (r : ρ) (h : p.Inv rules jobs n init) :
    ∃ p', Reaches (step rules) Always p p' ∧ p'.Finished := by
  obtain ⟨m, hm⟩ : ∃ m, jobs.length ≤ p.handled.length + m := ⟨jobs.length, by omega⟩
  induction m generalizing p with
  | zero =>
      refine ⟨p, .refl, ?_⟩
      by_contra hfinished
      -- one more step would handle more jobs than there are
      obtain ⟨w, hw⟩ := exists_step hfinished
      obtain ⟨p', hp'⟩ := hw r
      have hle := (h.step hp').handled_subperm.length_le
      rw [List.length_map, length_handled_step hp'] at hle
      omega
  | succ m ih =>
      by_cases hfinished : p.Finished
      · exact ⟨p, .refl, hfinished⟩
      · obtain ⟨w, hw⟩ := exists_step hfinished
        obtain ⟨p', hp'⟩ := hw r
        have hlen := length_handled_step hp'
        obtain ⟨p'', hreach, hend⟩ := ih (h.step hp') (by omega)
        exact ⟨p'', .head (w, r) trivial hp' hreach, hend⟩

end

end WorkerPool
