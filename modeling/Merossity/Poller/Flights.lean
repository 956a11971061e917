import Merossity.Poller.Limits
import Merossity.Poller.Recovery

/-!
What a step does to the state polls under way.

* `FlightStep` lists it, with the times of the polls that are started, and `flightStep_of_step` is
  proved by the steps of the poller once and for all.
* `running_forth` and `running_back` follow a poll through a step.
-/

namespace Merossity

open Js

namespace Poller

/-- A poll that is started at `now`. -/
def StartedAt (now : ℤ) (_ : String) (task : PollTask) : Prop := task.startedAt = now

/-- The step lets a state poll go on, or a call of `pollDevice` return. -/
def movesPoll : Act → Bool
  | .pollGoesOn _ _ _ _ => true
  | .pollReturns _ => true
  | _ => false

/-- What a step does to the state polls: some are started at the time of the step, a call of
`pollDevice` returns, a poll goes on, or one ends. -/
inductive FlightStep (p p' : Poller) (a : Act) : Prop where
  | enters (now : ℤ) (ha : movesPoll a = false) (hnow : a.now = some now)
      (h : p.inFlight.Enters (StartedAt now) p'.inFlight) : FlightStep p p' a
  | same (ha : movesPoll a = false) (h : p'.inFlight = p.inFlight) : FlightStep p p' a
  | leaves (c : ℕ) (ha : a = .pollReturns c) (h : p.inFlight.leave c = some p'.inFlight) :
      FlightStep p p' a
  | awaits (t : ℕ) (reply : (c : Call) → Reply c) (now : ℤ) (random : ℚ) (uuid : String)
      (task : PollTask) (prog : Prog Call Reply (Except JsError DeviceReading))
      (ha : a = .pollGoesOn t reply now random) (ht : p.inFlight.running t = some (uuid, task))
      (hprog : p.resume reply task.prog = some prog)
      (h : p'.inFlight = p.inFlight.advance t (.running { task with prog })) : FlightStep p p' a
  | ends (c : Completion) (task : PollTask) (r : PollResult) (hc : p.completion a = some c)
      (ht : p.inFlight.running c.task = some (c.uuid, task)) (hstart : c.startedAt = task.startedAt)
      (h : p'.inFlight = p.inFlight.advance c.task (.settled r)) : FlightStep p p' a

section

variable [Runtime]

lemma enters_pollDevice (p : Poller) (uuid : String) (reason : PollReason)
    (timeoutMs : Option Number) (now : ℤ) : p.inFlight.Enters (StartedAt now)
      (p.pollDevice uuid reason timeoutMs now).inFlight :=
  .enter .refl uuid _ rfl

lemma enters_startPolls (now : ℤ) : ∀ (uuids : List String) (p : Poller),
    p.inFlight.Enters (StartedAt now) (startPolls now uuids p).inFlight
  | [], p => .refl
  | uuid :: rest, p => by
      rw [startPolls]
      split_ifs
      · exact .refl
      · exact (enters_pollDevice p uuid .poller none now).trans (enters_startPolls now rest _)
      · exact .refl

lemma enters_tickBody (p : Poller) (now : ℤ) :
    p.inFlight.Enters (StartedAt now) (p.tickBody now).inFlight := by
  have hbody : (p.tickBody now).inFlight =
      (startPolls now (p.sortByTime PollMeta.nextDueAt (p.due now)) p).inFlight :=
    inFlight_startTelemetry now _ _
  rw [hbody]
  exact enters_startPolls now _ p

lemma enters_takeNext (p : Poller) (options : PollOptions) (now : ℤ) (queue : List String) :
    p.inFlight.Enters (StartedAt now) (p.takeNext options now queue).1.inFlight := by
  cases queue with
  | nil => exact .refl
  | cons uuid rest =>
      rw [takeNext]
      split_ifs
      · exact .refl
      · exact enters_pollDevice p uuid _ _ now

lemma enters_startWorkers (options : PollOptions) (now : ℤ) : ∀ (n : ℕ) (p : Poller)
    (queue : List String),
      p.inFlight.Enters (StartedAt now) (startWorkers options now n p queue).1.inFlight
  | 0, _, _ => .refl
  | n + 1, p, queue => (enters_takeNext p options now queue).trans
      (enters_startWorkers options now n _ _)

lemma enters_startPollNow (p : Poller) (i : ℕ) (q : PollNow) (now : ℤ) :
    p.inFlight.Enters (StartedAt now) (p.startPollNow i q now).inFlight :=
  enters_startWorkers q.options now _ { p with
    metaByUuid := (p.requestedUuids q.options).foldl (fun m uuid => boostMeta m uuid now)
      p.metaByUuid } (p.requestedUuids q.options)

lemma flightStep_of_step {p p' : Poller} {a : Act} (h : p.step a = some p') :
    FlightStep p p' a := by
  cases stretch_of_step h with
  | tick now => exact .enters now rfl rfl (enters_tickBody p now)
  | tickGoesOn now => exact .enters now rfl rfl (enters_tickBody p now)
  | pollNowStarts i now q => exact .enters now rfl rfl (enters_startPollNow p i q now)
  | workerGoesOn i w now q queue workers c r =>
      exact .enters now rfl rfl (enters_takeNext p q.options now queue)
  | pollAwaits t reply now random uuid task prog ht hprog =>
      exact .awaits t reply now random uuid task prog rfl ht hprog rfl
  | pollReads t reply now random uuid task reading ht hprog =>
      exact .ends _ task _ (completion_ends ht hprog) ht rfl rfl
  | pollFails t reply now random uuid task e ht hprog =>
      obtain ⟨resolving, recoveries, metas, heq⟩ :=
        applyFailure_eq p t uuid task e.message now random
      exact .ends _ task _ (completion_ends ht hprog) ht rfl (by rw [heq]; rfl)
  | pollReturns c f hf => exact .leaves c rfl hf
  | _ => exact .same rfl rfl

end

section

variable {p p' : Poller} {a : Act} {v : String} {t : ℕ} {task : PollTask}

lemma running_leave {f g : Flight String PollTask PollResult} {c : ℕ} (h : f.leave c = some g)
    (t : ℕ) : g.running t = f.running t := by
  obtain ⟨k, k', t', creator, r, -, -, rfl⟩ := Flight.leave_eq_some h
  rfl

/-- A poll under way stays so, with the time of its start, or ends. -/
lemma FlightStep.running_forth (h : FlightStep p p' a)
    (ht : p.inFlight.running t = some (v, task)) :
    (∃ task', p'.inFlight.running t = some (v, task')) ∨
      ∃ c, p.completion a = some c ∧ c.uuid = v := by
  cases h with
  | enters now ha hnow h =>
      exact .inl ⟨task, Flight.running_eq_some.mpr (h.tasks (Flight.running_eq_some.mp ht))⟩
  | same ha h => exact .inl ⟨task, h ▸ ht⟩
  | leaves c ha h => exact .inl ⟨task, (running_leave h t).trans ht⟩
  | awaits t' reply now random uuid task' prog ha ht' hprog h =>
      rw [h]
      simp only [Flight.running_eq_some, Flight.WellFormed.tasks_advance _ ht'] at ht ⊢
      split_ifs with heq
      · subst heq
        obtain ⟨rfl, -⟩ := Prod.mk.inj (Option.some.inj
          (ht'.symm.trans (Flight.running_eq_some.mpr ht)))
        exact .inl ⟨_, rfl⟩
      · exact .inl ⟨task, ht⟩
  | ends c task' r hc ht' hstart h =>
      by_cases heq : c.task = t
      · subst heq
        obtain ⟨huuid, -⟩ := Prod.mk.inj (Option.some.inj (ht'.symm.trans ht))
        exact .inr ⟨c, hc, huuid⟩
      · refine .inl ⟨task, ?_⟩
        rw [h, Flight.running_eq_some, Flight.WellFormed.tasks_advance _ ht', if_neg heq]
        exact Flight.running_eq_some.mp ht

/-- A poll under way was so before, with the same time, or is started at the time of the step. -/
lemma FlightStep.running_back (h : FlightStep p p' a)
    (ht : p'.inFlight.running t = some (v, task)) :
    (∃ task', p.inFlight.running t = some (v, task') ∧ task'.startedAt = task.startedAt) ∨
      a.now = some task.startedAt := by
  cases h with
  | enters now ha hnow h =>
      rcases h.running ht with ht | hstart
      · exact .inl ⟨task, ht, rfl⟩
      · exact .inr (hnow.trans (congrArg some hstart.symm))
  | same ha h => exact .inl ⟨task, h ▸ ht, rfl⟩
  | leaves c ha h => exact .inl ⟨task, (running_leave h t).symm.trans ht, rfl⟩
  | awaits t' reply now random uuid task' prog ha ht' hprog h =>
      rw [h, Flight.running_eq_some, Flight.WellFormed.tasks_advance _ ht'] at ht
      split_ifs at ht with heq
      · cases ht
        exact .inl ⟨task', heq ▸ ht', rfl⟩
      · exact .inl ⟨task, Flight.running_eq_some.mpr ht, rfl⟩
  | ends c task' r hc ht' hstart h =>
      rw [h, Flight.running_eq_some, Flight.WellFormed.tasks_advance _ ht'] at ht
      split_ifs at ht
      · cases ht
      · exact .inl ⟨task, Flight.running_eq_some.mpr ht, rfl⟩

end

end Poller

end Merossity
