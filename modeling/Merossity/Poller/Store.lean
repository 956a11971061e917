import Merossity.Poller.Steps

/-!
What a poll that ends does to the store of device states.

* `completion` is the state poll that ends in a step.
* `nextState` is the state that it makes, `stored` what is in the store afterwards, and
  `deviceEvents` are the `device_state` and `device_stale` events that it broadcasts.
* `step_stateByUuid`: only a poll that ends changes the store, and only at its device.
-/

namespace Merossity

open Js

/-- A state poll that ends. -/
structure Completion where
  task : ℕ
  uuid : String
  reason : PollReason
  startedAt : ℤ
  outcome : Except JsError DeviceReading
  now : ℤ

namespace Poller

/-- The state poll that ends in a step. -/
def completion (p : Poller) : Act → Option Completion
  | .pollGoesOn t reply now _ => match p.inFlight.running t with
    | some (uuid, task) => match p.resume reply task.prog with
      | some (.ret outcome) => some ⟨t, uuid, task.reason, task.startedAt, outcome, now⟩
      | _ => none
    | none => none
  | _ => none

/-- The state that a poll makes. -/
def nextState (p : Poller) (c : Completion) : DeviceStateDto :=
  match c.outcome with
  | .ok reading => p.readState c.uuid c.reason reading c.now
  | .error e => p.staleState c.uuid c.reason e.message c.now

/-- The entry of its device after a poll. -/
def stored (p : Poller) (c : Completion) : DeviceStateDto :=
  let prev := p.stateByUuid.get c.uuid
  match c.outcome with
  | .ok _ => storedState prev (p.nextState c)
  | .error _ =>
      if hasMaterialStateChange prev (p.nextState c) then p.nextState c
      else prev.getD (p.nextState c)

/-- The events of a successful poll. -/
def readingEvents (prev : Option DeviceStateDto) (next : DeviceStateDto) : List StreamEvent :=
  if hasMaterialStateChange prev next then [.deviceState next] else []

/-- The events about devices that a poll broadcasts. -/
def completionEvents (p : Poller) (c : Completion) : List StreamEvent :=
  match c.outcome with
  | .ok _ => readingEvents (p.stateByUuid.get c.uuid) (p.nextState c)
  | .error _ => failureEvents (p.stateByUuid.get c.uuid) (p.nextState c)

/-- The events about devices that a step broadcasts. -/
def deviceEvents (p : Poller) (a : Act) : List StreamEvent :=
  match p.completion a with
  | some c => p.completionEvents c
  | none => []

@[simp] lemma nextState_uuid (p : Poller) (c : Completion) : (p.nextState c).uuid = c.uuid := by
  obtain ⟨t, uuid, reason, startedAt, outcome, now⟩ := c
  cases outcome <;> rfl

@[simp] lemma nextState_updatedAt (p : Poller) (c : Completion) :
    (p.nextState c).updatedAt = nextUpdatedAt (p.stateByUuid.get c.uuid) c.now := by
  obtain ⟨t, uuid, reason, startedAt, outcome, now⟩ := c
  cases outcome <;> rfl

/-! ### Material changes -/

/-- Without a material change there is an entry, which shows the same. -/
lemma eq_some_of_unchanged {prev : Option DeviceStateDto} {next : DeviceStateDto}
    (h : hasMaterialStateChange prev next = false) :
    ∃ s, prev = some s ∧ s.visible = next.visible := by
  cases prev with
  | none => cases h
  | some s => exact ⟨s, rfl, (hasMaterialStateChange_eq_false s next).mp h⟩

/-- A device that becomes stale changes materially. -/
lemma changed_of_becameStale {prev : Option DeviceStateDto} {next : DeviceStateDto}
    (h : becameStale prev = true) (hstale : next.stale = true) :
    hasMaterialStateChange prev next = true := by
  rw [← Bool.not_eq_false]
  intro hchanged
  obtain ⟨s, rfl, hs⟩ := eq_some_of_unchanged hchanged
  have hsame : s.stale = next.stale := congrArg Prod.snd hs
  rw [hstale] at hsame
  rw [becameStale, hsame] at h
  cases h

/-- After a material change the state that the poll makes is stored. -/
lemma stored_of_changed {p : Poller} {c : Completion}
    (h : hasMaterialStateChange (p.stateByUuid.get c.uuid) (p.nextState c) = true) :
    p.stored c = p.nextState c := by
  simp only [stored, storedState, h, if_true]
  split <;> rfl

/-- Without a material change the entry stays, and a successful poll notes its reason. -/
lemma stored_of_unchanged {p : Poller} {c : Completion} {s : DeviceStateDto}
    (hs : p.stateByUuid.get c.uuid = some s)
    (h : hasMaterialStateChange (some s) (p.nextState c) = false) :
    p.stored c = match c.outcome with
      | .ok _ => { s with source := c.reason }
      | .error _ => s := by
  obtain ⟨t, uuid, reason, startedAt, outcome, now⟩ := c
  cases outcome <;> simp only [stored, storedState, hs, h] <;> rfl

/-- What is seen of a device after a poll is what the poll makes, whether or not it is stored. -/
lemma visible_stored (p : Poller) (c : Completion) :
    (p.stored c).visible = (p.nextState c).visible := by
  cases hchanged : hasMaterialStateChange (p.stateByUuid.get c.uuid) (p.nextState c) with
  | true => rw [stored_of_changed hchanged]
  | false =>
      obtain ⟨s, hs, hsame⟩ := eq_some_of_unchanged hchanged
      rw [hs] at hchanged
      rw [stored_of_unchanged hs hchanged, ← hsame]
      -- a reason is not seen
      split <;> rfl

/-- What is seen of a device after a successful poll is what was read. -/
lemma visible_stored_reading {p : Poller} {c : Completion} {reading : DeviceReading}
    (hok : c.outcome = .ok reading) : (p.stored c).visible = (reading, false) := by
  rw [visible_stored, nextState, hok]
  rfl

/-- A device is stale after a failed poll. -/
lemma stale_stored_failure {p : Poller} {c : Completion} {e : JsError}
    (herror : c.outcome = .error e) : (p.stored c).stale = true := by
  have hstale : (p.nextState c).stale = true := by
    rw [nextState, herror]
    rfl
  exact (congrArg Prod.snd (p.visible_stored c)).trans hstale

/-- A material change is announced by one event or by two. -/
lemma events_of_changed {p : Poller} {c : Completion}
    (h : hasMaterialStateChange (p.stateByUuid.get c.uuid) (p.nextState c) = true) :
    p.completionEvents c = [.deviceState (p.nextState c)] ∨
      p.completionEvents c = [.deviceState (p.nextState c), .deviceStale (p.nextState c)] := by
  rw [completionEvents]
  split
  · rw [readingEvents, if_pos h]
    exact Or.inl rfl
  · rw [failureEvents, if_pos h]
    split
    · exact Or.inr rfl
    · exact Or.inl rfl

/-- Without a material change there are no events. -/
lemma events_of_unchanged {p : Poller} {c : Completion}
    (h : hasMaterialStateChange (p.stateByUuid.get c.uuid) (p.nextState c) = false) :
    p.completionEvents c = [] := by
  obtain ⟨t, uuid, reason, startedAt, outcome, now⟩ := c
  cases outcome with
  | ok reading => simp only [completionEvents, readingEvents, h, Bool.false_eq_true, if_false]
  | error e =>
      have hnot : becameStale (p.stateByUuid.get uuid) ≠ true := fun hbecame => by
        rw [changed_of_becameStale hbecame rfl] at h
        cases h
      simp only [completionEvents, failureEvents, h, Bool.false_eq_true, if_false, hnot,
        List.append_nil]

/-! ### The store -/

lemma completion_awaits {p : Poller} {t : ℕ} {reply : (c : Call) → Reply c} {now : ℤ} {random : ℚ}
    {uuid : String} {task : PollTask} {prog : Prog Call Reply (Except JsError DeviceReading)}
    (ht : p.inFlight.running t = some (uuid, task)) (hprog : p.resume reply task.prog = some prog)
    (hret : ∀ r, prog ≠ .ret r) : p.completion (.pollGoesOn t reply now random) = none := by
  simp only [completion, ht, hprog]
  split
  next h => exact absurd (Option.some.inj h) (hret _)
  next => rfl

lemma completion_ends {p : Poller} {t : ℕ} {reply : (c : Call) → Reply c} {now : ℤ} {random : ℚ}
    {uuid : String} {task : PollTask} {outcome : Except JsError DeviceReading}
    (ht : p.inFlight.running t = some (uuid, task))
    (hprog : p.resume reply task.prog = some (.ret outcome)) :
    p.completion (.pollGoesOn t reply now random) =
      some ⟨t, uuid, task.reason, task.startedAt, outcome, now⟩ := by
  simp only [completion, ht, hprog]

lemma completion_eq_some {p : Poller} {a : Act} {c : Completion} (h : p.completion a = some c) :
    ∃ reply random task, a = .pollGoesOn c.task reply c.now random ∧
      p.inFlight.running c.task = some (c.uuid, task) ∧
      p.resume reply task.prog = some (.ret c.outcome) ∧
      task.reason = c.reason ∧ task.startedAt = c.startedAt := by
  cases a with
  | pollGoesOn t reply now random =>
      simp only [completion] at h
      split at h
      next uuid task ht =>
        split at h
        next outcome hprog =>
          cases h
          exact ⟨reply, random, task, rfl, ht, hprog, rfl, rfl⟩
        next => cases h
      next => cases h
  | _ => cases h

lemma get_noteFailure (p : Poller) (t : ℕ) (uuid : String) (task : PollTask) (e : JsError)
    (now : ℤ) (random : ℚ) (uuid' : String) :
    (p.noteFailure t uuid task e.message now random).stateByUuid.get uuid' =
      if uuid = uuid' then some (p.stored ⟨t, uuid, task.reason, task.startedAt, .error e, now⟩)
      else p.stateByUuid.get uuid' := by
  have hstates : (p.noteFailure t uuid task e.message now random).stateByUuid =
      if hasMaterialStateChange (p.stateByUuid.get uuid)
          (p.nextState ⟨t, uuid, task.reason, task.startedAt, .error e, now⟩) ||
          (p.stateByUuid.get uuid).isNone then
        p.stateByUuid.set uuid (p.nextState ⟨t, uuid, task.reason, task.startedAt, .error e, now⟩)
      else p.stateByUuid := rfl
  cases hchanged : hasMaterialStateChange (p.stateByUuid.get uuid)
      (p.nextState ⟨t, uuid, task.reason, task.startedAt, .error e, now⟩) with
  | true =>
      rw [stored_of_changed hchanged, hstates, hchanged, Bool.true_or, if_pos rfl, OrdMap.get_set]
  | false =>
      obtain ⟨s, hs, -⟩ := eq_some_of_unchanged hchanged
      rw [hstates, hchanged, hs]
      rw [hs] at hchanged
      rw [stored_of_unchanged hs hchanged]
      show p.stateByUuid.get uuid' = if uuid = uuid' then some s else _
      split
      next h => exact h ▸ hs
      next => rfl

/-- What a step stores of a device. -/
theorem step_stateByUuid [Runtime] {p p' : Poller} {a : Act} (h : p.step a = some p')
    (uuid : String) :
    p'.stateByUuid.get uuid = match p.completion a with
      | some c => if c.uuid = uuid then some (p.stored c) else p.stateByUuid.get uuid
      | none => p.stateByUuid.get uuid := by
  cases stretch_of_step h with
  | tick now => rw [(loops_tickBody p now).stateByUuid]; rfl
  | tickGoesOn now => rw [(loops_tickBody p now).stateByUuid]; rfl
  | pollNowStarts i now q => rw [(loops_startPollNow p i q now).stateByUuid]; rfl
  | workerGoesOn i w now q queue workers c r =>
      rw [(loops_collectAndTake p i q queue workers w r now).stateByUuid]
      rfl
  | pollAwaits t reply now random key task prog ht hprog hret =>
      rw [completion_awaits ht hprog hret]
  | pollReads t reply now random key task reading ht hprog =>
      rw [completion_ends ht hprog]
      exact OrdMap.get_set _ _ _ _
  | pollFails t reply now random key task e ht hprog =>
      obtain ⟨resolving, recoveries, metas, heq⟩ :=
        applyFailure_eq p t key task e.message now random
      rw [completion_ends ht hprog, heq]
      exact get_noteFailure p t key task e now random uuid
  | _ => rfl

/-! ### Outcomes -/

/-- What the calls get that await a poll which ends. -/
def resultOf (p : Poller) (c : Completion) : PollResult :=
  match c.outcome with
  | .ok _ => .state (p.stored c)
  | .error e => .error
      { uuid := c.uuid, code := pollCodeFromError e.message, message := e.message, «at» := c.now }

/-- A poll that has its result after a step had it before, or ends in the step. -/
lemma settled_step [Runtime] {p p' : Poller} {a : Act} (h : p.step a = some p') {t : ℕ}
    {uuid : String} {r : PollResult}
    (ht : p'.inFlight.tasks[t]? = some ⟨uuid, .settled r⟩) :
    p.inFlight.tasks[t]? = some ⟨uuid, .settled r⟩ ∨
      ∃ c, p.completion a = some c ∧ c.task = t ∧ c.uuid = uuid ∧ r = p.resultOf c := by
  cases stretch_of_step h with
  | tick now => exact Or.inl ((loops_tickBody p now).inFlight.settled ht)
  | tickGoesOn now => exact Or.inl ((loops_tickBody p now).inFlight.settled ht)
  | pollNowStarts i now q => exact Or.inl ((loops_startPollNow p i q now).inFlight.settled ht)
  | workerGoesOn i w now q queue workers c r =>
      exact Or.inl ((loops_collectAndTake p i q queue workers w r now).inFlight.settled ht)
  | pollAwaits u reply now random key task prog hu =>
      exact Or.inl ((Flight.WellFormed.settled_advance hu ht).resolve_right fun h => nomatch h.2.2)
  | pollReads u reply now random key task reading hu hprog =>
      rcases Flight.WellFormed.settled_advance hu ht with h | ⟨htask, rfl, hsettled⟩
      · exact Or.inl h
      · cases hsettled
        exact Or.inr ⟨_, completion_ends hu hprog, htask, rfl, rfl⟩
  | pollFails u reply now random key task e hu hprog =>
      obtain ⟨resolving, recoveries, metas, heq⟩ :=
        applyFailure_eq p u key task e.message now random
      rw [heq] at ht
      rcases Flight.WellFormed.settled_advance hu ht with h | ⟨htask, rfl, hsettled⟩
      · exact Or.inl h
      · cases hsettled
        exact Or.inr ⟨_, completion_ends hu hprog, htask, rfl, rfl⟩
  | pollReturns c f hf =>
      obtain ⟨k, k', u, creator, r', -, -, rfl⟩ := Flight.leave_eq_some hf
      exact Or.inl ht
  | _ => exact Or.inl ht

end Poller

end Merossity
