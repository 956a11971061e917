import Merossity.Lib.Effort
import Merossity.Poller.Accounts
import Merossity.Poller.Flights

/-!
That calls of `pollNow` end.

* `readDevice_within`: a state poll calls out four times at most.
* `PollNow.work` is what is left to do for a call whose workers are at work, and `Poller.serves`
  tells which steps do some of it. `work_step`: these lower it, and no step raises it.
* `refresh_ends`: in every run from the start of its workers, a call takes at most six steps for
  each device, and one, and as long as it has not returned one of them can be taken.
-/

namespace Merossity

open Js Machine

variable [Runtime]

/-! ### The calls of a poll -/

omit [Runtime] in
lemma eval_within {α : Type} (e : Except String α) : (eval e).run.Within 0 := trivial

omit [Runtime] in
lemma throwNew_within {α : Type} (message : String) : (throwNew message : Async α).run.Within 0 :=
  trivial

omit [Runtime] in
lemma pure_within {α : Type} (a : α) : (pure a : Async α).run.Within 0 := trivial

omit [Runtime] in
lemma call_within (c : Call) : (call c).run.Within 1 := fun _ => trivial

omit [Runtime] in
lemma readConfig_within : readConfig.run.Within 1 :=
  Prog.within_run_bind (call_within _) fun _ => pure_within _

omit [Runtime] in
lemma requireHost_within (cfg : Json) (uuid : String) : (requireHost cfg uuid).run.Within 0 := by
  rw [requireHost]
  split
  · exact pure_within _
  · exact throwNew_within _

omit [Runtime] in
lemma requireLanKey_within : requireLanKey.run.Within 2 := by
  rw [requireLanKey]
  change Prog.Within _ (1 + (1 + 0))
  refine Prog.within_run_bind readConfig_within fun cfg => ?_
  dsimp only
  split_ifs
  · exact (pure_within _).mono (Nat.zero_le _)
  · refine Prog.within_run_bind (call_within _) fun fromEnv => ?_
    split
    · split_ifs
      · exact pure_within _
      · exact throwNew_within _
    · exact throwNew_within _

omit [Runtime] in
lemma postLan_within (ns method : String) (payload host key : Json) (timeoutMs : Option Number) :
    (postLan ns method payload host key timeoutMs).run.Within 1 := by
  rw [postLan]
  change Prog.Within _ (0 + (0 + (1 + 0)))
  refine Prog.within_run_bind (eval_within _) fun message => ?_
  rw [postConfig]
  refine Prog.within_run_bind (eval_within _) fun host => ?_
  exact Prog.within_run_bind (call_within _) fun reply => eval_within _

/-- A state poll calls out four times at most. -/
lemma readDevice_within (uuid : String) (timeoutMs : Option Number) :
    (readDevice uuid timeoutMs).run.Within 4 := by
  rw [readDevice]
  change Prog.Within _ (1 + (0 + (2 + (1 + 0))))
  refine Prog.within_run_bind readConfig_within fun cfg => ?_
  refine Prog.within_run_bind (requireHost_within cfg uuid) fun host => ?_
  refine Prog.within_run_bind requireLanKey_within fun key => ?_
  exact Prog.within_run_bind (postLan_within ..) fun resp => eval_within _

namespace Poller

/-- The polls under way await a reply, and have four calls left at most. -/
def Bounded (f : Flight String PollTask PollResult) : Prop :=
  ∀ t uuid task, f.running t = some (uuid, task) →
    task.prog.Within 4 ∧ ∀ r, task.prog ≠ .ret r

lemma Bounded.enters {f g : Flight String PollTask PollResult} (hf : Bounded f)
    (h : f.Enters StateTask g) : Bounded g := by
  intro t uuid task ht
  rcases h.running ht with ht | ⟨timeoutMs, hprog⟩
  · exact hf t uuid task ht
  · rw [hprog]
    exact ⟨readDevice_within uuid timeoutMs, nofun⟩

lemma Bounded.step {p p' : Poller} {a : Act} (hp : Bounded p.inFlight) (h : p.step a = some p') :
    Bounded p'.inFlight := by
  refine running_step (P := fun _ prog => prog.Within 4 ∧ ∀ r, prog ≠ .ret r)
    (fun uuid timeoutMs => ⟨readDevice_within uuid timeoutMs, nofun⟩) ?_ hp h
  rintro t reply now random uuid task prog - ht ⟨hwithin, -⟩ hresume hret
  obtain ⟨c, k, hprog, rfl⟩ := resume_eq_some hresume
  rw [hprog] at hwithin
  have hnext : (k (p.answer reply c)).Within 3 := hwithin (p.answer reply c)
  exact ⟨hnext.mono (Nat.le_succ 3), hret⟩

/-! ### What is left to do -/

/-- What is left of a call of `pollDevice`: the calls of its poll, and its return. -/
noncomputable def callWork (f : Flight String PollTask PollResult) (c : ℕ) : ℕ :=
  match f.calls[c]? with
  | some ⟨_, t, _, none⟩ => 1 + match f.running t with
    | some (_, task) => task.prog.depth
    | none => 0
  | _ => 0

noncomputable def workerWork (f : Flight String PollTask PollResult) : Worker → ℕ
  | .awaiting c => 1 + callWork f c
  | .finished => 0

/-- What is left of a call of `pollNow`: what its workers await, the devices in the queue, and its
return. -/
noncomputable def work (f : Flight String PollTask PollResult) (q : PollNow) : ℕ :=
  match q.phase with
  | .polling queue workers => 1 + 6 * queue.length + (workers.map (workerWork f)).sum
  | _ => 0

/-- The step does some of what is left of a call of `pollDevice`: its poll goes on, or it
returns. -/
def attends (p : Poller) (a : Act) (c : ℕ) : Bool :=
  match a with
  | .pollReturns c' => c' = c
  | .pollGoesOn t _ _ _ => (p.inFlight.calls[c]?).map Flight.Call.task = some t
  | _ => false

def attended (p : Poller) (a : Act) : Worker → Bool
  | .awaiting c => p.attends a c
  | .finished => false

/-- The step does some of what is left of a call of `pollNow` whose workers are at work. -/
def serves (p : Poller) (i : ℕ) (a : Act) : Bool :=
  match (p.pollNows[i]?).map PollNow.phase with
  | some (.polling _ workers) => match a with
    | .workerGoesOn j _ _ => j = i
    | .pollNowReturns j _ => j = i
    | a => workers.any (p.attended a)
  | _ => false

section

variable {f g : Flight String PollTask PollResult} {c : ℕ}

omit [Runtime] in
lemma callWork_of_returned {call : Flight.Call String PollResult} (hc : f.calls[c]? = some call)
    {r : PollResult} (hr : call.result = some r) : callWork f c = 0 := by
  obtain ⟨k, t, creator, result⟩ := call
  obtain rfl : result = some r := hr
  rw [callWork, hc]

omit [Runtime] in
lemma callWork_of_pending {call : Flight.Call String PollResult} (hc : f.calls[c]? = some call)
    (hr : call.result = none) : callWork f c = 1 + match f.running call.task with
      | some (_, task) => task.prog.depth
      | none => 0 := by
  obtain ⟨k, t, creator, result⟩ := call
  obtain rfl : result = none := hr
  rw [callWork, hc]

omit [Runtime] in
/-- A call has five steps left at most. -/
lemma callWork_le (hf : Bounded f) (c : ℕ) : callWork f c ≤ 5 := by
  rw [callWork]
  split
  next k t creator hc =>
    split
    next uuid task ht =>
      have hdepth := Prog.depth_le (hf t uuid task ht).1
      omega
    next => omega
  next => omega

omit [Runtime] in
lemma attends_of_quiet {p : Poller} {a : Act} (ha : movesPoll a = false) (c : ℕ) :
    p.attends a c = false := by
  cases a <;> first | rfl | cases ha

omit [Runtime] in
/-- What is left of a call does not change with other polls. -/
lemma callWork_congr (hcalls : g.calls[c]? = f.calls[c]?)
    (hrunning : ∀ call, f.calls[c]? = some call → g.running call.task = f.running call.task) :
    callWork g c = callWork f c := by
  rw [callWork, callWork, hcalls]
  cases hc : f.calls[c]? with
  | none => rfl
  | some call =>
      have htask := hrunning call hc
      obtain ⟨k, t, creator, result⟩ := call
      cases result with
      | some r => rfl
      | none =>
          dsimp only at htask ⊢
          rw [htask]

omit [Runtime] in
/-- A poll that goes on or ends leaves less of the calls that await it, and nothing else. -/
lemma callWork_advance (hf : f.WellFormed) (hbounded : Bounded f) {t : ℕ} {uuid : String}
    {task : PollTask} (ht : f.running t = some (uuid, task)) {s : Flight.Status PollTask PollResult}
    (hless : ∀ task', s = .running task' → task'.prog.depth < task.prog.depth) (c : ℕ) :
    callWork (f.advance t s) c + (if (f.calls[c]?).map Flight.Call.task = some t then 1 else 0) ≤
      callWork f c := by
  cases hc : f.calls[c]? with
  | none =>
      have hsame : callWork (f.advance t s) c = callWork f c :=
        callWork_congr rfl fun call hcall => by rw [hc] at hcall; cases hcall
      simp [hsame]
  | some call =>
      rw [Option.map_some]
      by_cases htask : call.task = t
      · subst htask
        -- the call has not returned, as its poll is under way
        have hres : call.result = none := by
          cases hres : call.result with
          | none => rfl
          | some r =>
              have hsettled := hf.result call (List.mem_of_getElem? hc) r hres
              rw [Flight.running_eq_some, hsettled] at ht
              cases ht
        have hadvanced : (f.advance call.task s).calls[c]? = some call := hc
        rw [callWork_of_pending hadvanced hres, callWork_of_pending hc hres, ht, if_pos rfl]
        have hpos : 0 < task.prog.depth := by
          obtain ⟨hwithin, hret⟩ := hbounded _ uuid task ht
          cases hprog : task.prog with
          | ret r => exact absurd hprog (hret r)
          | call e k => exact Prog.depth_pos (hprog ▸ hwithin)
        have hnext : (f.advance call.task s).running call.task = match s with
            | .running task' => some (uuid, task')
            | .settled _ => none := by
          rw [Flight.running, Flight.WellFormed.tasks_advance _ ht, if_pos rfl]
          cases s <;> rfl
        rw [hnext]
        cases s with
        | running task' =>
            have hlt := hless task' rfl
            dsimp only
            omega
        | settled r =>
            dsimp only
            omega
      · have hother : (f.advance t s).running call.task = f.running call.task := by
          rw [Flight.running, Flight.running, Flight.WellFormed.tasks_advance _ ht,
            if_neg (Ne.symm htask)]
        have hsame : callWork (f.advance t s) c = callWork f c := by
          refine callWork_congr rfl fun call' hcall' => ?_
          rw [hc] at hcall'
          obtain rfl := Option.some.inj hcall'
          exact hother
        rw [hsame, if_neg fun h => htask (Option.some.inj h)]
        exact le_rfl

omit [Runtime] in
/-- Other calls that come in leave it as it is. -/
lemma callWork_enters {P : String → PollTask → Prop} (hf : f.WellFormed) (h : f.Enters P g)
    (hc : c < f.calls.length) : callWork g c = callWork f c := by
  have hcall := List.getElem?_eq_getElem hc
  refine callWork_congr ((h.calls hcall).trans hcall.symm) fun call hcall => ?_
  obtain ⟨s, hs⟩ := hf.task call (List.mem_of_getElem? hcall)
  rw [Flight.running, Flight.running, hs, h.tasks hs]

/-- A step leaves no more of a call of `pollDevice`, and less if it attends to it. -/
lemma callWork_step {p p' : Poller} {a : Act} (hp : p.FlightsInv) (hbounded : Bounded p.inFlight)
    (h : p.step a = some p') (hc : c < p.inFlight.calls.length) :
    callWork p'.inFlight c + (if p.attends a c then 1 else 0) ≤ callWork p.inFlight c := by
  cases flightStep_of_step h with
  | enters now ha hnow henters =>
      rw [attends_of_quiet ha, callWork_enters hp.1 henters hc]
      exact le_rfl
  | same ha hsame =>
      rw [attends_of_quiet ha, hsame]
      exact le_rfl
  | leaves c' ha hleave =>
      subst ha
      obtain ⟨k, k', t, creator, r, hc', ht, hflight⟩ := Flight.leave_eq_some hleave
      by_cases hcc : c' = c
      · subst hcc
        have hreturned : callWork p'.inFlight c' = 0 := by
          have hget : p'.inFlight.calls[c']? = some ⟨k, t, creator, some r⟩ := by
            rw [hflight]
            exact List.getElem?_set_self hc
          exact callWork_of_returned hget rfl
        rw [hreturned, callWork_of_pending hc' rfl, attends, if_pos (decide_eq_true rfl)]
        exact Nat.add_le_add_left (Nat.zero_le _) 1
      · have hget : p'.inFlight.calls[c]? = p.inFlight.calls[c]? := by
          rw [hflight]
          exact List.getElem?_set_ne hcc
        rw [attends, if_neg (by simpa using hcc)]
        exact (callWork_congr hget fun call' _ => running_leave hleave call'.task).le
  | awaits t reply now random uuid task prog ha ht hprog hflight =>
      subst ha
      obtain ⟨e, k, htask, rfl⟩ := resume_eq_some hprog
      have hless := callWork_advance hp.1 hbounded ht
        (s := .running { task with prog := k (p.answer reply e) }) (fun task' htask' => by
          obtain rfl := Flight.Status.running.inj htask'
          rw [htask]
          exact Prog.depth_lt (htask ▸ (hbounded t uuid task ht).1) _) c
      rw [hflight]
      simpa only [attends, decide_eq_true_eq] using hless
  | ends done task r hdone ht hstart hflight =>
      obtain ⟨reply, random, task', rfl, -⟩ := completion_eq_some hdone
      have hless := callWork_advance hp.1 hbounded ht (s := .settled r) nofun c
      rw [hflight]
      simpa only [attends, decide_eq_true_eq] using hless

/-! ### Workers -/

lemma workers_step {p p' : Poller} {a : Act} (hp : p.FlightsInv) (hbounded : Bounded p.inFlight)
    (h : p.step a = some p') (workers : List Worker)
    (hvalid : ∀ c, .awaiting c ∈ workers → c < p.inFlight.calls.length) :
    (workers.map (workerWork p'.inFlight)).sum + (if workers.any (p.attended a) then 1 else 0) ≤
      (workers.map (workerWork p.inFlight)).sum := by
  induction workers with
  | nil => exact le_rfl
  | cons worker workers ih =>
      have hrest := ih fun c hc => hvalid c (List.mem_cons_of_mem _ hc)
      have hfirst : workerWork p'.inFlight worker + (if p.attended a worker then 1 else 0) ≤
          workerWork p.inFlight worker := by
        cases worker with
        | finished => exact le_rfl
        | awaiting c =>
            have hstep := callWork_step hp hbounded h (hvalid c List.mem_cons_self)
            rw [workerWork, workerWork, attended]
            omega
      have hany : (if (worker :: workers).any (p.attended a) then 1 else 0) ≤
          (if p.attended a worker then 1 else 0) + if workers.any (p.attended a) then 1 else 0 := by
        rw [List.any_cons]
        cases p.attended a worker with
        | true => exact Nat.le_add_right 1 _
        | false => exact Nat.le_add_left _ 0
      rw [List.map_cons, List.map_cons, List.sum_cons, List.sum_cons]
      omega

omit [Runtime] in
lemma sum_map_set {α : Type} (w : α → ℕ) {l : List α} {n : ℕ} {a : α} (h : l[n]? = some a) (b : α) :
    ((l.set n b).map w).sum + w a = (l.map w).sum + w b := by
  induction l generalizing n with
  | nil => cases h
  | cons x l ih =>
      cases n with
      | zero =>
          obtain rfl := Option.some.inj h
          rw [List.set_cons_zero, List.map_cons, List.map_cons, List.sum_cons, List.sum_cons]
          omega
      | succ n =>
          have hrest := ih (List.getElem?_cons_succ.symm.trans h)
          rw [List.set_cons_succ, List.map_cons, List.map_cons, List.sum_cons, List.sum_cons]
          omega

lemma Bounded.starts {p p' : Poller} (hp : Bounded p.inFlight) (h : Starts p p') :
    Bounded p'.inFlight := by
  obtain ⟨f, tf, metas, hf, -, rfl⟩ := h
  exact hp.enters hf

lemma FlightsInv.starts {p p' : Poller} (hp : p.FlightsInv) (h : Starts p p') : p'.FlightsInv := by
  obtain ⟨f, tf, metas, hf, htf, rfl⟩ := h
  exact ⟨hp.1.of_enters hf, hp.2.of_enters htf⟩

/-- A worker that takes a device off its queue has no more to do for it than was left. -/
lemma takeNext_work {p : Poller} (hbounded : Bounded p.inFlight) (options : PollOptions) (now : ℤ)
    (queue : List String) :
    6 * (p.takeNext options now queue).2.1.length + workerWork
      (p.takeNext options now queue).1.inFlight (p.takeNext options now queue).2.2 ≤
        6 * queue.length ∧
    ∀ c, (p.takeNext options now queue).2.2 = .awaiting c →
      c < (p.takeNext options now queue).1.inFlight.calls.length := by
  have hbounded' : Bounded (p.takeNext options now queue).1.inFlight :=
    hbounded.starts (enlists_takeNext (P := fun _ => True) p options now fun _ _ => trivial).starts
  cases queue with
  | nil => exact ⟨le_rfl, fun c hc => by cases hc⟩
  | cons uuid rest =>
      rw [takeNext] at hbounded' ⊢
      split_ifs at hbounded' ⊢
      · refine ⟨?_, fun c hc => by cases hc⟩
        dsimp only
        rw [List.length_cons, workerWork]
        omega
      · refine ⟨?_, fun c hc => ?_⟩
        · have hwork := callWork_le hbounded' p.inFlight.calls.length
          dsimp only at hwork ⊢
          rw [List.length_cons, workerWork]
          omega
        · obtain rfl := Worker.awaiting.inj hc
          obtain ⟨t, creator, hcalls⟩ := Flight.calls_enter p.inFlight uuid
            (⟨options.reason.getD .manual, now, (readDevice uuid
              ((options.timeoutMs.bind fun n => n.finite?).map fun n => .fin (max 500 n))).run⟩ :
              PollTask)
          show _ < (Flight.enter _ uuid _).calls.length
          rw [hcalls, List.length_append]
          exact Nat.lt_succ_self _

/-- Polls that are started leave the workers with what they had to do. -/
lemma workers_starts {p p' : Poller} (hp : p.FlightsInv) (h : Starts p p') (workers : List Worker)
    (hvalid : ∀ c, .awaiting c ∈ workers → c < p.inFlight.calls.length) :
    workers.map (workerWork p'.inFlight) = workers.map (workerWork p.inFlight) := by
  obtain ⟨f, tf, metas, hf, -, rfl⟩ := h
  refine List.map_congr_left fun worker hworker => ?_
  cases worker with
  | finished => rfl
  | awaiting c => exact congrArg (1 + ·) (callWork_enters hp.1 hf (hvalid c hworker))

lemma startWorkers_work (options : PollOptions) (now : ℤ) : ∀ (n : ℕ) (p : Poller)
    (queue : List String), p.FlightsInv → Bounded p.inFlight →
      6 * (startWorkers options now n p queue).2.1.length +
        ((startWorkers options now n p queue).2.2.map
          (workerWork (startWorkers options now n p queue).1.inFlight)).sum ≤ 6 * queue.length ∧
      ∀ c, .awaiting c ∈ (startWorkers options now n p queue).2.2 →
        c < (startWorkers options now n p queue).1.inFlight.calls.length
  | 0, p, queue, _, _ => ⟨le_rfl, nofun⟩
  | n + 1, p, queue, hp, hbounded => by
      have hfirst : Starts p (p.takeNext options now queue).1 :=
        (enlists_takeNext (P := fun _ => True) p options now fun _ _ => trivial).starts
      have hrest : Starts (p.takeNext options now queue).1
          (startWorkers options now (n + 1) p queue).1 :=
        (enlists_startWorkers (P := fun _ => True) options now n _ _ fun _ _ => trivial).starts
      obtain ⟨htake, hawaits⟩ := takeNext_work hbounded options now queue
      obtain ⟨hwork, hvalid⟩ := startWorkers_work options now n
        (p.takeNext options now queue).1 (p.takeNext options now queue).2.1 (hp.starts hfirst)
        (hbounded.starts hfirst)
      have hsame := workers_starts (hp.starts hfirst) hrest [(p.takeNext options now queue).2.2]
        fun c hc => hawaits c (List.mem_singleton.mp hc).symm
      rw [startWorkers]
      refine ⟨?_, fun c hc => ?_⟩
      · rw [List.map_singleton, List.map_singleton] at hsame
        have hsame := List.singleton_inj.mp hsame
        rw [startWorkers] at hsame
        rw [List.map_cons, List.sum_cons]
        dsimp only at hsame hwork ⊢
        rw [hsame]
        omega
      · rcases List.mem_cons.mp hc with hc | hc
        · exact (hawaits c hc.symm).trans_le hrest.later.calls_le
        · exact hvalid c hc

/-! ### A call of `pollNow` -/

/-- The call has started its workers, and what they await has been entered. -/
def Begun (f : Flight String PollTask PollResult) (q : PollNow) : Prop :=
  match q.phase with
  | .polling _ workers => ∀ c, .awaiting c ∈ workers → c < f.calls.length
  | .returned _ => True
  | _ => False

structure Working (p : Poller) (i : ℕ) : Prop where
  flights : p.FlightsInv
  bounded : Bounded p.inFlight
  begun : ∃ q, p.pollNows[i]? = some q ∧ Begun p.inFlight q

/-- What is left of the call. -/
noncomputable def left (p : Poller) (i : ℕ) : ℕ :=
  ((p.pollNows[i]?).map (work p.inFlight)).getD 0

section

variable {p p' : Poller} {a : Act} {i : ℕ} {q : PollNow} {queue : List String}
  {workers : List Worker}

omit [Runtime] in
lemma left_of_polling (hq : p.pollNows[i]? = some q) (hphase : q.phase = .polling queue workers) :
    p.left i = 1 + 6 * queue.length + (workers.map (workerWork p.inFlight)).sum := by
  rw [left, hq, Option.map_some, Option.getD_some, work, hphase]

omit [Runtime] in
lemma left_of_returned {now : ℤ} (hq : p.pollNows[i]? = some q)
    (hphase : q.phase = .returned now) : p.left i = 0 := by
  rw [left, hq, Option.map_some, Option.getD_some, work, hphase]

omit [Runtime] in
lemma serves_of_polling (hq : p.pollNows[i]? = some q) (hphase : q.phase = .polling queue workers)
    (a : Act) : p.serves i a = match a with
      | .workerGoesOn j _ _ => decide (j = i)
      | .pollNowReturns j _ => decide (j = i)
      | a => workers.any (p.attended a) := by
  simp only [serves, hq, Option.map_some, hphase]

omit [Runtime] in
lemma serves_of_returned {now : ℤ} (hq : p.pollNows[i]? = some q)
    (hphase : q.phase = .returned now) (a : Act) : p.serves i a = false := by
  simp only [serves, hq, Option.map_some, hphase]

/-- What a step does with a call whose workers are at work. -/
lemma polling_step (h : p.step a = some p') (hq : p.pollNows[i]? = some q)
    (hphase : q.phase = .polling queue workers) :
    (p'.pollNows[i]? = some q ∧ (p.serves i a = true → workers.any (p.attended a) = true)) ∨
    (∃ w now c r, a = .workerGoesOn i w now ∧ workers[w]? = some (.awaiting c) ∧
      (p.inFlight.calls[c]?).bind Flight.Call.result = some r ∧
      p' = p.collectAndTake i q queue workers w r now) ∨
    ∃ now, a = .pollNowReturns i now ∧ p' = p.setPollNow i { q with phase := .returned now } := by
  have hserves := serves_of_polling hq hphase a
  cases stretch_of_step h with
  | tick now =>
      obtain ⟨_, ⟨f, tf, metas, -, -, rfl⟩, heq⟩ := tickBody_eq p now
      exact .inl ⟨by rw [heq]; exact hq, hserves.symm.trans⟩
  | tickGoesOn now =>
      obtain ⟨_, ⟨f, tf, metas, -, -, rfl⟩, heq⟩ := tickBody_eq p now
      exact .inl ⟨by rw [heq]; exact hq, hserves.symm.trans⟩
  | pollNow options =>
      exact .inl ⟨(List.getElem?_append_left (List.getElem?_eq_some_iff.mp hq).1).trans hq,
        hserves.symm.trans⟩
  | pollNowSyncs j now qj hj hphase' =>
      have hji : j ≠ i := by
        rintro rfl
        obtain rfl := Option.some.inj (hq.symm.trans hj)
        rw [hphase] at hphase'
        cases hphase'
      exact .inl ⟨(List.getElem?_set_ne hji).trans hq, hserves.symm.trans⟩
  | pollNowStarts j now qj hj hphase' =>
      have hji : j ≠ i := by
        rintro rfl
        obtain rfl := Option.some.inj (hq.symm.trans hj)
        rw [hphase] at hphase'
        cases hphase'
      obtain ⟨_, _, _, ⟨f, tf, metas, -, -, rfl⟩, -, heq⟩ := startPollNow_eq p j qj now
      exact .inl ⟨by rw [heq]; exact (List.getElem?_set_ne hji).trans hq, hserves.symm.trans⟩
  | workerGoesOn j w now qj queue' workers' c r hj hphase' hw hc =>
      by_cases hji : j = i
      · subst hji
        obtain rfl := Option.some.inj (hq.symm.trans hj)
        obtain ⟨rfl, rfl⟩ := PollNowPhase.polling.inj (hphase.symm.trans hphase')
        exact .inr (.inl ⟨w, now, c, r, rfl, hw, hc, rfl⟩)
      · obtain ⟨_, _, _, ⟨f, tf, metas, -, -, rfl⟩, -, heq⟩ :=
          collectAndTake_eq p j qj queue' workers' w r now
        refine .inl ⟨by rw [heq]; exact (List.getElem?_set_ne hji).trans hq, fun hserve => ?_⟩
        rw [hserve] at hserves
        exact absurd (of_decide_eq_true hserves.symm) hji
  | pollNowReturns j now qj queue' workers' hj hphase' hall =>
      by_cases hji : j = i
      · subst hji
        obtain rfl := Option.some.inj (hq.symm.trans hj)
        exact .inr (.inr ⟨now, rfl, rfl⟩)
      · refine .inl ⟨(List.getElem?_set_ne hji).trans hq, fun hserve => ?_⟩
        rw [hserve] at hserves
        exact absurd (of_decide_eq_true hserves.symm) hji
  | pollFails t reply now random uuid task e =>
      obtain ⟨resolving, recoveries, metas, heq⟩ :=
        applyFailure_eq p t uuid task e.message now random
      exact .inl ⟨by rw [heq]; exact hq, hserves.symm.trans⟩
  | _ => exact .inl ⟨hq, hserves.symm.trans⟩

/-- A worker that goes on does some of what is left. -/
lemma left_collectAndTake (hp : Working p i) (hq : p.pollNows[i]? = some q)
    (hphase : q.phase = .polling queue workers)
    (hvalid : ∀ c, .awaiting c ∈ workers → c < p.inFlight.calls.length) {w c : ℕ}
    (hw : workers[w]? = some (.awaiting c)) (r : PollResult) (now : ℤ) :
    (p.collectAndTake i q queue workers w r now).left i + 1 ≤ p.left i ∧
      ∃ q', (p.collectAndTake i q queue workers w r now).pollNows[i]? = some q' ∧
        Begun (p.collectAndTake i q queue workers w r now).inFlight q' := by
  have hstarts : Starts p (p.takeNext q.options now queue).1 :=
    (enlists_takeNext (P := fun _ => True) p q.options now fun _ _ => trivial).starts
  obtain ⟨htake, hawaits⟩ := takeNext_work hp.bounded q.options now queue
  have hsame := workers_starts hp.flights hstarts workers hvalid
  have hset := sum_map_set (workerWork (p.takeNext q.options now queue).1.inFlight) hw
    (p.takeNext q.options now queue).2.2
  have hq' : (p.collectAndTake i q queue workers w r now).pollNows[i]? =
      some { collect q r with
        phase := .polling (p.takeNext q.options now queue).2.1
          (workers.set w (p.takeNext q.options now queue).2.2) } := by
    obtain ⟨f, tf, metas, -, -, heq⟩ := hstarts
    have hpollNows : (p.takeNext q.options now queue).1.pollNows = p.pollNows := by rw [heq]
    rw [collectAndTake, setPollNow, hpollNows]
    exact List.getElem?_set_self (List.getElem?_eq_some_iff.mp hq).1
  refine ⟨?_, _, hq', fun c' hc' => ?_⟩
  · have hflight : (p.collectAndTake i q queue workers w r now).inFlight =
        (p.takeNext q.options now queue).1.inFlight := rfl
    rw [left_of_polling hq' rfl, left_of_polling hq hphase, hflight]
    rw [hsame, workerWork] at hset
    omega
  · rcases List.mem_or_eq_of_mem_set hc' with hold | hnew
    · exact (hvalid c' hold).trans_le hstarts.later.calls_le
    · exact hawaits c' hnew.symm

/-- A step that does some of what is left of a call leaves less of it, and no step leaves more. -/
lemma work_step (hp : Working p i) (h : p.step a = some p') :
    Working p' i ∧ p'.left i + (if p.serves i a then 1 else 0) ≤ p.left i := by
  obtain ⟨q, hq, hbegun⟩ := hp.begun
  have hflights := hp.flights.step h
  have hbounded := hp.bounded.step h
  rw [Begun] at hbegun
  cases hphase : q.phase with
  | syncing => exact (hphase ▸ hbegun).elim
  | synced => exact (hphase ▸ hbegun).elim
  | returned now =>
      have hq' : p'.pollNows[i]? = some q := by
        obtain ⟨q', hq', hproceeds⟩ := proceeds_step h hq
        cases hproceeds with
        | stays => exact hq'
        | syncs hphase' => cases hphase.symm.trans hphase'
        | starts _ _ _ _ hphase' => cases hphase.symm.trans hphase'
        | works _ _ _ _ _ _ _ hphase' => cases hphase.symm.trans hphase'
        | returns _ _ _ hphase' => cases hphase.symm.trans hphase'
      refine ⟨⟨hflights, hbounded, q, hq', by rw [Begun, hphase]; trivial⟩, ?_⟩
      rw [left_of_returned hq' hphase, serves_of_returned hq hphase]
      exact Nat.zero_le _
  | polling queue workers =>
      rw [hphase] at hbegun
      rcases polling_step h hq hphase with ⟨hq', hserves⟩ | ⟨w, now, c, r, rfl, hw, hc, rfl⟩ |
        ⟨now, rfl, rfl⟩
      · have hwork := workers_step hp.flights hp.bounded h workers hbegun
        refine ⟨⟨hflights, hbounded, q, hq', ?_⟩, ?_⟩
        · rw [Begun, hphase]
          exact fun c hc => (hbegun c hc).trans_le (step_later h).calls_le
        · rw [left_of_polling hq' hphase, left_of_polling hq hphase]
          have hle : (if p.serves i a then 1 else 0) ≤
              if workers.any (p.attended a) then 1 else 0 := by
            cases hserve : p.serves i a with
            | false => exact Nat.zero_le _
            | true => rw [if_pos (hserves hserve)]; exact le_rfl
          omega
      · obtain ⟨hleft, hbegun'⟩ := left_collectAndTake hp hq hphase hbegun hw r now
        refine ⟨⟨hflights, hbounded, hbegun'⟩, ?_⟩
        rw [serves_of_polling hq hphase]
        simpa using hleft
      · have hq' : (p.setPollNow i { q with phase := .returned now }).pollNows[i]? =
            some { q with phase := .returned now } :=
          List.getElem?_set_self (List.getElem?_eq_some_iff.mp hq).1
        refine ⟨⟨hflights, hbounded, _, hq', trivial⟩, ?_⟩
        rw [left_of_returned hq' rfl, left_of_polling hq hphase, serves_of_polling hq hphase]
        have hone : (if decide (i = i) = true then 1 else 0) = 1 := if_pos (decide_eq_true rfl)
        dsimp only
        omega

/-- What is left once the workers have started: a poll for each device. -/
lemma left_startPollNow (hp : p.FlightsInv) (hbounded : Bounded p.inFlight)
    (hq : p.pollNows[i]? = some q) (now : ℤ) :
    (p.startPollNow i q now).left i ≤ 1 + 6 * (p.requestedUuids q.options).length ∧
      ∃ q', (p.startPollNow i q now).pollNows[i]? = some q' ∧
        Begun (p.startPollNow i q now).inFlight q' := by
  rw [startPollNow]
  generalize List.foldl (fun m uuid => boostMeta m uuid now) p.metaByUuid
    (p.requestedUuids q.options) = metas
  generalize max 1 (min POLL_MAX_CONCURRENCY (max 1 (p.requestedUuids q.options).length)) = count
  obtain ⟨hwork, hvalid⟩ := startWorkers_work q.options now count
    { p with metaByUuid := metas } (p.requestedUuids q.options) hp hbounded
  obtain ⟨f, tf, metas', -, -, heq⟩ := (enlists_startWorkers (P := fun _ => True) q.options now
    count { p with metaByUuid := metas } (p.requestedUuids q.options) fun _ _ => trivial).starts
  generalize startWorkers q.options now count { p with metaByUuid := metas }
    (p.requestedUuids q.options) = started at hwork hvalid heq ⊢
  have hq' : (started.1.setPollNow i
      { q with phase := .polling started.2.1 started.2.2 }).pollNows[i]? =
        some { q with phase := .polling started.2.1 started.2.2 } := by
    have hpollNows : started.1.pollNows = p.pollNows := by rw [heq]
    rw [setPollNow, hpollNows]
    exact List.getElem?_set_self (List.getElem?_eq_some_iff.mp hq).1
  refine ⟨?_, _, hq', hvalid⟩
  rw [left_of_polling hq' rfl]
  have hflight : (started.1.setPollNow i
      { q with phase := .polling started.2.1 started.2.2 }).inFlight = started.1.inFlight := rfl
  rw [hflight]
  omega

/-- As long as workers are at work, some of what is left can be done, whatever the polls reply. -/
lemma exists_serves (hp : Working p i) (hq : p.pollNows[i]? = some q)
    (hphase : q.phase = .polling queue workers) (reply : (c : Call) → Reply c) :
    ∃ a, p.serves i a = true ∧ Replies reply p a ∧ (p.step a).isSome = true := by
  have hvalid : ∀ c, .awaiting c ∈ workers → c < p.inFlight.calls.length := by
    obtain ⟨q', hq', hbegun⟩ := hp.begun
    obtain rfl := Option.some.inj (hq.symm.trans hq')
    rwa [Begun, hphase] at hbegun
  by_cases hall : allFinished workers = true
  · refine ⟨.pollNowReturns i 0, ?_, by rintro _ _ _ _ ⟨⟩, ?_⟩
    · rw [serves_of_polling hq hphase]
      exact decide_eq_true rfl
    · obtain ⟨options, phase, states, errors⟩ := q
      obtain rfl : phase = _ := hphase
      simp only [step, hq, if_pos hall, Option.isSome_some]
  obtain ⟨c, hc⟩ : ∃ c, .awaiting c ∈ workers := by
    by_contra hnone
    refine hall (List.all_eq_true.mpr fun worker hworker => ?_)
    cases worker with
    | finished => rfl
    | awaiting c => exact absurd ⟨c, hworker⟩ hnone
  obtain ⟨call, hcall⟩ : ∃ call, p.inFlight.calls[c]? = some call :=
    ⟨_, List.getElem?_eq_getElem (hvalid c hc)⟩
  cases hres : call.result with
  | some r =>
      -- the worker has its outcome
      obtain ⟨w, hw⟩ := List.mem_iff_getElem?.mp hc
      have hbind : (p.inFlight.calls[c]?).bind Flight.Call.result = some r := by
        rw [hcall]
        exact hres
      refine ⟨.workerGoesOn i w 0, ?_, by rintro _ _ _ _ ⟨⟩, ?_⟩
      · rw [serves_of_polling hq hphase]
        exact decide_eq_true rfl
      · simp only [step, workerGoesOn, hq, hphase, hw, hbind, Option.isSome_some]
  | none =>
      rcases hp.flights.1.pending hcall hres with ⟨task, ht⟩ | hleave
      · -- the poll that it awaits is under way, and awaits a reply
        refine ⟨.pollGoesOn call.task reply 0 0, ?_, ?_, ?_⟩
        · rw [serves_of_polling hq hphase]
          refine List.any_eq_true.mpr ⟨_, hc, ?_⟩
          rw [attended, attends, hcall]
          exact decide_eq_true rfl
        · rintro _ _ _ _ ⟨⟩
          rfl
        · obtain ⟨-, hret⟩ := hp.bounded _ _ task ht
          cases hprog : task.prog with
          | ret r => exact absurd hprog (hret r)
          | call e k =>
              have hresume : p.resume reply task.prog = some (k (p.answer reply e)) := by
                rw [hprog]
                rfl
              rw [step, pollGoesOn, ht]
              simp only [hresume]
              split
              next => rfl
              next => rfl
              next => rfl
              next hnone => cases hnone
      · -- the poll has ended
        refine ⟨.pollReturns c, ?_, by rintro _ _ _ _ ⟨⟩, ?_⟩
        · rw [serves_of_polling hq hphase]
          exact List.any_eq_true.mpr ⟨_, hc, decide_eq_true rfl⟩
        · rw [step, pollReturns, Option.isSome_map]
          exact hleave

end

lemma Reachable.bounded {file : FileText} {p : Poller} (h : p.Reachable file) :
    Bounded p.inFlight :=
  h.invariant (I := fun p => Bounded p.inFlight) (fun _ _ _ ht => by cases ht)
    fun _ _ _ hp _ hstep => hp.step hstep

end

end Poller

/-- **A call of `pollNow` ends**: whatever happens beside it, once its workers have started there
are no more than six steps for each device, and one, that do some of its work; and as long as it
has not returned such a step can be taken, whatever the polls reply. -/
theorem refresh_ends {file : FileText} {p₀ p₁ s : Poller} {i n : ℕ} {q : PollNow} {now : ℤ}
    (h₀ : p₀.Reachable file) (hq : p₀.pollNows[i]? = some q)
    (hstart : p₀.step (.pollNowStarts i now) = some p₁)
    (h : Reaches (counted Poller.step fun p a => p.serves i a) Always (p₁, 0) (s, n)) :
    n ≤ 1 + 6 * (p₀.requestedUuids q.options).length ∧ ∃ q', s.pollNows[i]? = some q' ∧
      ((∃ now, q'.phase = .returned now) ∨ ∀ reply, ∃ a, s.serves i a = true ∧
        Poller.Replies reply s a ∧ (s.step a).isSome = true) := by
  have hp₁ : p₁ = p₀.startPollNow i q now := by
    cases Poller.stretch_of_step hstart with
    | pollNowStarts i now q' hq' =>
        obtain rfl := Option.some.inj (hq.symm.trans hq')
        rfl
  obtain ⟨hleft, hbegun⟩ := Poller.left_startPollNow h₀.flightsInv h₀.bounded hq now
  rw [← hp₁] at hleft hbegun
  obtain ⟨hworking, hle⟩ := counted_le (I := fun p => Poller.Working p i) (μ := fun p => p.left i) h
    ⟨h₀.flightsInv.step hstart, h₀.bounded.step hstart, hbegun⟩
    fun _ _ _ hp hstep => Poller.work_step hp hstep
  obtain ⟨q', hq', hbegun'⟩ := hworking.begun
  refine ⟨by omega, q', hq', ?_⟩
  rw [Poller.Begun] at hbegun'
  cases hphase : q'.phase with
  | syncing => exact (hphase ▸ hbegun').elim
  | synced => exact (hphase ▸ hbegun').elim
  | returned now => exact .inl ⟨now, rfl⟩
  | polling queue workers => exact .inr fun reply => Poller.exists_serves hworking hq' hphase reply

omit [Runtime] in
/-- A call that joins the poll of a tick takes four such steps: the reply of the plug, the return of
its call of `pollDevice`, that of its worker and its own. -/
theorem refresh_ends_joined : let _ := plainRuntime; ∃ p₀ p₁ s q q',
    run Poller.step (backgroundPoll ++ [.pollNow (refreshOptions "u"), .pollNowSyncs 0 6004])
      (Poller.init plugConfig) = some p₀ ∧
    p₀.step (.pollNowStarts 0 6005) = some p₁ ∧ p₀.pollNows[0]? = some q ∧
    run (counted Poller.step fun p a => p.serves 0 a)
      [.pollGoesOn 0 (deviceSends (plugReply 1)) 6010 0, .pollReturns 0, .pollReturns 1,
        .workerGoesOn 0 0 6011, .pollNowReturns 0 6012] (p₁, 0) = some (s, 4) ∧
    4 ≤ 1 + 6 * (p₀.requestedUuids q.options).length ∧ s.pollNows[0]? = some q' ∧
      q'.phase = .returned 6012 := by
  let _ := plainRuntime
  obtain ⟨hle, q', hq', -⟩ := refresh_ends (i := 0) (n := 4)
    (reaches_run (backgroundPoll ++ [.pollNow (refreshOptions "u"), .pollNowSyncs 0 6004])
      (along_always _ _) rfl : Poller.Reachable plugConfig _) rfl
    (show Poller.step _ (.pollNowStarts 0 6005) = some _ from rfl)
    (reaches_run [.pollGoesOn 0 (deviceSends (plugReply 1)) 6010 0, .pollReturns 0, .pollReturns 1,
      .workerGoesOn 0 0 6011, .pollNowReturns 0 6012] (along_always _ _) rfl)
  obtain rfl := Option.some.inj hq'
  exact ⟨_, _, _, _, _, rfl, rfl, rfl, rfl, hle, rfl, rfl⟩

end Merossity
