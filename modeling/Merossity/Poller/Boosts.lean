import Merossity.Poller.Limits
import Merossity.Poller.Metas
import Merossity.Poller.SingleFlight
import Merossity.Poller.Store

/-!
How long a boost lasts.

* `dueTime` is the time from which on a poll of a device is due. The loops that start polls leave it
  alone (`dueTime_startPolls`, `dueTime_startWorkers`).
* `Boosted` is the poller after a boost at `t`, with a note whether a poll of the device that
  started at `t` or later has been under way. Until then the device is to be due at `t`.
* `Overtakes` are the steps after which it is not: a poll that started earlier ends, or there is
  another boost, refresh or recovery.
* `boost_kept`: a boost is kept in every run without such steps, and by no such step.
-/

namespace Merossity

open Js Machine

namespace Poller

/-! ### The time of a device -/

/-- The time from which on a poll of the device is due. -/
def dueTime (p : Poller) (u : String) : Option ℤ := (p.metaByUuid.get u).map PollMeta.nextDueAt

/-- The device is due at `t`. -/
def DueBy (p : Poller) (u : String) (t : ℤ) : Prop := ∃ x, p.dueTime u = some x ∧ x ≤ t

lemma get_of_dueTime {p : Poller} {u : String} {x : ℤ} (h : p.dueTime u = some x) :
    ∃ pm, p.metaByUuid.get u = some pm ∧ pm.nextDueAt = x :=
  Option.map_eq_some_iff.mp h

lemma nextDueAt_ensureMeta {metas : OrdMap String PollMeta} {u : String} {x : ℤ}
    (h : (metas.get u).map PollMeta.nextDueAt = some x) (uuid : String) (now : ℤ) :
    ((ensureMeta metas uuid now).get u).map PollMeta.nextDueAt = some x := by
  obtain ⟨pm, hpm, rfl⟩ := Option.map_eq_some_iff.mp h
  rw [get_ensureMeta, hpm]
  split <;> rfl

lemma nextDueAt_foldl_ensureMeta {α : Type} {u : String} {x : ℤ} (now : ℤ)
    (hosts : List (String × α)) : ∀ metas : OrdMap String PollMeta,
      (metas.get u).map PollMeta.nextDueAt = some x →
        ((hosts.foldl (fun m e => ensureMeta m e.1 now) metas).get u).map PollMeta.nextDueAt
          = some x := by
  induction hosts with
  | nil => exact fun _ h => h
  | cons e hosts ih => exact fun metas h => ih _ (nextDueAt_ensureMeta h e.1 now)

/-- A change of other fields. -/
lemma nextDueAt_modifyMeta {metas : OrdMap String PollMeta} {uuid u : String} {x : ℤ}
    {f : PollMeta → PollMeta} (h : (metas.get u).map PollMeta.nextDueAt = some x)
    (hf : ∀ pm, (f pm).nextDueAt = pm.nextDueAt) :
    ((modifyMeta metas uuid f).get u).map PollMeta.nextDueAt = some x := by
  obtain ⟨pm, hpm, rfl⟩ := Option.map_eq_some_iff.mp h
  rw [get_modifyMeta, hpm]
  split
  · exact congrArg some (hf pm)
  · rfl

/-- A boost. -/
lemma nextDueAt_boostMeta (metas : OrdMap String PollMeta) (uuid u : String) (now : ℤ) :
    ((boostMeta metas uuid now).get u).map PollMeta.nextDueAt =
      if uuid = u ∧ u ≠ "" then some now else (metas.get u).map PollMeta.nextDueAt := by
  rw [boostMeta]
  by_cases huuid : uuid = u
  · subst huuid
    by_cases hempty : uuid = ""
    · simp [hempty]
    · rw [if_neg hempty, if_pos ⟨rfl, hempty⟩, get_modifyMeta, if_pos rfl, get_ensureMeta,
        if_pos rfl]
      rfl
  · rw [if_neg fun h : uuid = u ∧ u ≠ "" => huuid h.1]
    split
    · rfl
    · rw [get_modifyMeta, if_neg huuid, get_ensureMeta, if_neg huuid]

lemma nextDueAt_foldl_boostMeta (u : String) (now : ℤ) (uuids : List String) :
    ∀ metas : OrdMap String PollMeta,
      ((uuids.foldl (fun m uuid => boostMeta m uuid now) metas).get u).map PollMeta.nextDueAt =
        if u ∈ uuids ∧ u ≠ "" then some now else (metas.get u).map PollMeta.nextDueAt := by
  induction uuids with
  | nil => exact fun metas => rfl
  | cons uuid uuids ih =>
      intro metas
      rw [List.foldl_cons, ih, nextDueAt_boostMeta]
      by_cases hempty : u = ""
      · simp [hempty]
      · by_cases hmem : u ∈ uuids
        · simp [hmem, hempty]
        · by_cases huuid : uuid = u
          · simp [huuid, hempty]
          · simp [hmem, huuid, Ne.symm huuid]

/-! ### Loops -/

section

variable [Runtime] {u : String} {x : ℤ}

/-- A call of `pollDevice` leaves the time of a device alone. -/
lemma dueTime_pollDevice {p : Poller} (h : p.dueTime u = some x) (uuid : String)
    (reason : PollReason) (timeoutMs : Option Number) (now : ℤ) :
    (p.pollDevice uuid reason timeoutMs now).dueTime u = some x := by
  rw [dueTime, pollDevice]
  dsimp only
  split
  · exact h
  · exact nextDueAt_ensureMeta h uuid now

lemma dueTime_pollTelemetry {p : Poller} (h : p.dueTime u = some x) (uuid : String)
    (reason : PowerSource) (timeoutMs : Option Number) (now : ℤ) :
    (p.pollTelemetry uuid reason timeoutMs now).dueTime u = some x := by
  rw [dueTime, pollTelemetry]
  dsimp only
  split
  · exact h
  · exact nextDueAt_ensureMeta h uuid now

lemma dueTime_startPolls (now : ℤ) : ∀ (uuids : List String) (p : Poller), p.dueTime u = some x →
    (startPolls now uuids p).dueTime u = some x
  | [], p, h => h
  | uuid :: rest, p, h => by
      rw [startPolls]
      split_ifs
      · exact h
      · exact dueTime_startPolls now rest _ (dueTime_pollDevice h uuid .poller none now)
      · exact h

lemma dueTime_startTelemetry (now : ℤ) : ∀ (uuids : List String) (p : Poller),
    p.dueTime u = some x → (startTelemetry now uuids p).dueTime u = some x
  | [], p, h => h
  | uuid :: rest, p, h => by
      rw [startTelemetry]
      split_ifs
      · exact h
      · exact dueTime_startTelemetry now rest _
          (dueTime_pollTelemetry h uuid .telemetryPoller none now)
      · exact h

/-- A tick leaves the time of a device alone. -/
lemma dueTime_tickBody {p : Poller} (h : p.dueTime u = some x) (now : ℤ) :
    (p.tickBody now).dueTime u = some x :=
  dueTime_startTelemetry now _ _ (dueTime_startPolls now _ p h)

lemma dueTime_takeNext {p : Poller} (h : p.dueTime u = some x) (options : PollOptions) (now : ℤ)
    (queue : List String) : (p.takeNext options now queue).1.dueTime u = some x := by
  cases queue with
  | nil => exact h
  | cons uuid rest =>
      rw [takeNext]
      split_ifs
      · exact h
      · exact dueTime_pollDevice h uuid _ _ now

lemma dueTime_startWorkers (options : PollOptions) (now : ℤ) : ∀ (n : ℕ) (p : Poller)
    (queue : List String), p.dueTime u = some x →
      (startWorkers options now n p queue).1.dueTime u = some x
  | 0, _, _, h => h
  | n + 1, _, queue, h =>
      dueTime_startWorkers options now n _ _ (dueTime_takeNext h options now queue)

end

/-! ### Polls since a time -/

/-- A state poll of the device that started at `t` or later is under way. -/
def pollsSince (p : Poller) (u : String) (t : ℤ) : Bool :=
  p.inFlight.tasks.any fun
    | ⟨uuid, .running task⟩ => uuid = u && t ≤ task.startedAt
    | ⟨_, .settled _⟩ => false

section

variable {u : String} {t : ℤ}

lemma pollsSince_of_tasks {p p' : Poller} (h : p'.inFlight.tasks = p.inFlight.tasks) :
    p'.pollsSince u t = p.pollsSince u t := by
  rw [pollsSince, pollsSince, h]

/-- A poll that ends is none that is under way. -/
lemma pollsSince_settled {p p' : Poller} {i : ℕ} {uuid : String} {task : PollTask} {r : PollResult}
    (ht : p.inFlight.running i = some (uuid, task))
    (hp' : p'.inFlight = p.inFlight.advance i (.settled r)) (h : p.pollsSince u t = false) :
    p'.pollsSince u t = false := by
  rw [pollsSince, List.any_eq_false] at h ⊢
  intro x hx
  obtain ⟨j, hj⟩ := List.mem_iff_getElem?.mp hx
  rw [hp', Flight.WellFormed.tasks_advance _ ht] at hj
  split at hj
  next =>
    obtain rfl := Option.some.inj hj
    exact Bool.false_ne_true
  next => exact h x (List.mem_of_getElem? hj)

@[simp] lemma pollsSince_setPollNow (p : Poller) (i : ℕ) (q : PollNow) :
    (p.setPollNow i q).pollsSince u t = p.pollsSince u t := rfl

@[simp] lemma dueTime_setPollNow (p : Poller) (i : ℕ) (q : PollNow) :
    (p.setPollNow i q).dueTime u = p.dueTime u := rfl

variable [Runtime]

/-- A call of `pollDevice` starts a poll unless one of the device is registered. -/
lemma pollsSince_pollDevice {p : Poller} {uuid : String} (hne : uuid ≠ "") (reason : PollReason)
    (timeoutMs : Option Number) (now : ℤ) :
    (p.pollDevice uuid reason timeoutMs now).pollsSince u t = true ↔
      p.pollsSince u t = true ∨ (p.isNew uuid = true ∧ u = uuid) ∧ t ≤ now := by
  rw [pollsSince, pollDevice]
  dsimp only
  cases hget : p.inFlight.entries.get uuid with
  | some i =>
      rw [Flight.enter_joins hget]
      simp [isNew, OrdMap.has, hget, pollsSince]
  | none =>
      rw [Flight.enter_starts hget]
      simp [isNew, OrdMap.has, hget, pollsSince, hne, eq_comm (a := u)]

lemma pollsSince_takeNext (p : Poller) (options : PollOptions) (now : ℤ) (queue : List String) :
    (p.takeNext options now queue).1.pollsSince u t = true ↔
      p.pollsSince u t = true ∨ u ∈ (queue.take 1).filter p.isNew ∧ t ≤ now := by
  cases queue with
  | nil => simp [takeNext]
  | cons uuid rest =>
      have htake : u ∈ ((uuid :: rest).take 1).filter p.isNew ↔ p.isNew uuid = true ∧ u = uuid := by
        rw [List.take_succ_cons, List.take_zero, List.mem_filter, List.mem_singleton]
        constructor
        · rintro ⟨rfl, hnew⟩
          exact ⟨hnew, rfl⟩
        · rintro ⟨hnew, rfl⟩
          exact ⟨rfl, hnew⟩
      rw [htake, takeNext]
      split_ifs with hempty
      · simp [isNew, hempty]
      · exact pollsSince_pollDevice hempty _ _ now

/-- A device is new until a poll of it is started. -/
lemma eq_of_isNew_pollDevice {p : Poller} {uuid : String} {reason : PollReason}
    {timeoutMs : Option Number} {now : ℤ} (hnew : p.isNew u = true)
    (hnot : (p.pollDevice uuid reason timeoutMs now).isNew u = false) : uuid = u := by
  by_contra huuid
  have hhas : (p.pollDevice uuid reason timeoutMs now).inFlight.entries.has u =
      (decide (uuid = u) || p.inFlight.entries.has u) := Flight.has_enter _ _ _ _
  rw [isNew, hhas, decide_eq_false huuid, Bool.false_or, ← isNew, hnew] at hnot
  cases hnot

lemma mem_take_of_isNew {p : Poller} (options : PollOptions) (now : ℤ) {queue : List String}
    (hnew : p.isNew u = true) (hnot : (p.takeNext options now queue).1.isNew u = false) :
    u ∈ (queue.take 1).filter p.isNew := by
  cases queue with
  | nil =>
      rw [takeNext, hnew] at hnot
      cases hnot
  | cons uuid rest =>
      rw [takeNext] at hnot
      split_ifs at hnot
      · rw [hnew] at hnot
        cases hnot
      · obtain rfl := eq_of_isNew_pollDevice hnew hnot
        rw [List.take_succ_cons, List.take_zero, List.mem_filter]
        exact ⟨List.mem_cons_self, hnew⟩

/-- The workers start the polls of the first devices that are new. -/
lemma pollsSince_startWorkers (options : PollOptions) (now : ℤ) : ∀ (n : ℕ) (p : Poller)
    (queue : List String), (startWorkers options now n p queue).1.pollsSince u t = true ↔
      p.pollsSince u t = true ∨ u ∈ (queue.take n).filter p.isNew ∧ t ≤ now
  | 0, p, queue => by simp [startWorkers]
  | n + 1, p, queue => by
      have hrest := pollsSince_startWorkers options now n (p.takeNext options now queue).1
        (p.takeNext options now queue).2.1
      rw [takeNext_rest] at hrest
      have hsplit : u ∈ (queue.take (n + 1)).filter p.isNew ↔
          u ∈ (queue.take 1).filter p.isNew ∨ u ∈ (queue.tail.take n).filter p.isNew := by
        rw [← List.mem_append, ← List.filter_append]
        cases queue with
        | nil => simp
        | cons uuid rest => simp
      -- a device is not new any more once a worker has started its poll
      have hnew : u ∈ (queue.take 1).filter p.isNew ∨
            u ∈ (queue.tail.take n).filter (p.takeNext options now queue).1.isNew ↔
          u ∈ (queue.take 1).filter p.isNew ∨ u ∈ (queue.tail.take n).filter p.isNew := by
        refine ⟨Or.imp_right fun h => ?_, fun h => h.elim Or.inl fun h => ?_⟩
        · obtain ⟨hmem, hnew⟩ := List.mem_filter.mp h
          exact List.mem_filter.mpr ⟨hmem, isNew_takeNext hnew⟩
        · obtain ⟨hmem, hnew⟩ := List.mem_filter.mp h
          cases hnext : (p.takeNext options now queue).1.isNew u with
          | true => exact Or.inr (List.mem_filter.mpr ⟨hmem, hnext⟩)
          | false => exact Or.inl (mem_take_of_isNew options now hnew hnext)
      have hstart : (startWorkers options now (n + 1) p queue).1 =
          (startWorkers options now n (p.takeNext options now queue).1 queue.tail).1 := by
        rw [startWorkers, takeNext_rest]
      rw [hstart, hrest, pollsSince_takeNext, hsplit, ← hnew, or_assoc, ← or_and_right]

/-- The start of `pollNow` starts the polls of `newPolls`. -/
lemma pollsSince_startPollNow {p : Poller} {i : ℕ} {q : PollNow} (hq : p.pollNows[i]? = some q)
    (now : ℤ) : (p.startPollNow i q now).pollsSince u t = true ↔
      p.pollsSince u t = true ∨ u ∈ p.newPolls (.pollNowStarts i now) ∧ t ≤ now := by
  have htake : (p.requestedUuids q.options).take
      (max 1 (min POLL_MAX_CONCURRENCY (max 1 (p.requestedUuids q.options).length)))
      = (p.requestedUuids q.options).take POLL_MAX_CONCURRENCY := by
    rw [POLL_MAX_CONCURRENCY, List.take_eq_take_iff]
    omega
  have hworkers := pollsSince_startWorkers (u := u) (t := t) q.options now
    (max 1 (min POLL_MAX_CONCURRENCY (max 1 (p.requestedUuids q.options).length)))
    { p with
      metaByUuid := List.foldl (fun m uuid => boostMeta m uuid now) p.metaByUuid
        (p.requestedUuids q.options) } (p.requestedUuids q.options)
  rw [htake] at hworkers
  simp only [startPollNow, pollsSince_setPollNow, newPolls, hq]
  exact hworkers

/-- The start of `pollNow` boosts the devices, and leaves the times of the others alone. -/
lemma dueTime_startPollNow {p : Poller} {x : ℤ} (h : p.dueTime u = some x) (i : ℕ) (q : PollNow)
    (now : ℤ) : (p.startPollNow i q now).dueTime u =
      if u ∈ p.requestedUuids q.options ∧ u ≠ "" then some now else some x := by
  have hboosts := nextDueAt_foldl_boostMeta u now (p.requestedUuids q.options) p.metaByUuid
  rw [dueTime] at h
  rw [h] at hboosts
  simp only [startPollNow, dueTime_setPollNow]
  split_ifs at hboosts ⊢
  · exact dueTime_startWorkers q.options now _ { p with metaByUuid := _ } _ hboosts
  · exact dueTime_startWorkers q.options now _ { p with metaByUuid := _ } _ hboosts

end

/-! ### The end of a poll -/

/-- How long a device is left alone after a poll that ends. -/
def intervalAfter (p : Poller) (c : Completion) (pm : PollMeta) (random : ℚ) : ℤ :=
  match c.outcome with
  | .ok _ => nextIntervalMs { pm with
      lastChangeAt :=
        if hasMaterialStateChange (p.stateByUuid.get c.uuid) (p.nextState c) then some c.startedAt
        else pm.lastChangeAt
      failureCount := 0 } c.startedAt random
  | .error _ => failureBackoffMs (pm.failureCount + 1)

/-- A successful poll. -/
lemma dueTime_applyReading (p : Poller) (i : ℕ) (uuid u : String) (task : PollTask)
    (reading : DeviceReading) (now : ℤ) (random : ℚ) :
    (p.applyReading i uuid task reading now random).dueTime u =
      if uuid = u then (p.metaByUuid.get u).map fun pm => task.startedAt
        + p.intervalAfter ⟨i, uuid, task.reason, task.startedAt, .ok reading, now⟩ pm random
      else p.dueTime u := by
  rw [dueTime, applyReading]
  dsimp only
  rw [get_modifyMeta]
  split
  · rw [Option.map_map]
    rfl
  · rfl

/-- A failed poll. -/
lemma dueTime_noteFailure (p : Poller) (i : ℕ) (uuid u : String) (task : PollTask) (e : JsError)
    (now : ℤ) (random : ℚ) :
    (p.noteFailure i uuid task e.message now random).dueTime u =
      if uuid = u then (p.metaByUuid.get u).map fun pm => task.startedAt
        + p.intervalAfter ⟨i, uuid, task.reason, task.startedAt, .error e, now⟩ pm random
      else p.dueTime u := by
  rw [dueTime, noteFailure]
  dsimp only
  rw [get_modifyMeta]
  split
  · rw [Option.map_map]
    refine congrFun (congrArg Option.map (funext fun pm => ?_)) _
    rw [intervalAfter]
    dsimp only [Function.comp]
    rw [nextIntervalMs, if_pos (Nat.succ_pos _)]
  · rfl

/-- A recovery that starts leaves the times alone. -/
lemma dueTime_startRecovery {p : Poller} {u : String} {x : ℤ} (h : p.dueTime u = some x)
    (uuid : String) (now : ℤ) : (p.startRecovery uuid now).dueTime u = some x := by
  rw [startRecovery]
  split_ifs
  · exact h
  · exact nextDueAt_ensureMeta h uuid now
  · exact nextDueAt_modifyMeta (nextDueAt_ensureMeta h uuid now) fun _ => rfl

lemma dueTime_applyFailure {p : Poller} {u : String} {x : ℤ} (h : p.dueTime u = some x) (i : ℕ)
    (uuid : String) (task : PollTask) (e : JsError) (now : ℤ) (random : ℚ) :
    (p.applyFailure i uuid task e.message now random).dueTime u =
      (p.noteFailure i uuid task e.message now random).dueTime u := by
  obtain ⟨pm, hpm, rfl⟩ := get_of_dueTime h
  rw [applyFailure]
  split_ifs
  · rw [dueTime_noteFailure]
    split_ifs with huuid
    · rw [hpm]
      exact dueTime_startRecovery ((dueTime_noteFailure ..).trans (by rw [if_pos huuid, hpm]; rfl))
        uuid now
    · rw [h]
      exact dueTime_startRecovery ((dueTime_noteFailure ..).trans (by rw [if_neg huuid, h]))
        uuid now
  · rfl

/-- The end of a recovery boosts its device if it has found the host. -/
lemma dueTime_endRecovery (p : Poller) (i : ℕ) (r : Recovery)
    (found : Option (String × Option String)) (now : ℤ) (u : String) :
    (endRecovery p i r found now).dueTime u =
      if r.uuid = u ∧ found.isSome = true then (p.dueTime u).map fun _ => now else p.dueTime u := by
  cases found with
  | none => simp [endRecovery, dueTime]
  | some hit =>
      rw [dueTime, endRecovery]
      dsimp only
      rw [get_modifyMeta]
      by_cases huuid : r.uuid = u
      · rw [if_pos huuid, if_pos ⟨huuid, rfl⟩, dueTime, Option.map_map, Option.map_map]
        rfl
      · simp [huuid, dueTime]

/-- A recovery of the device ends with its host. -/
def FindsHost (p : Poller) (u : String) (i : ℕ) (reply : (c : Call) → Reply c) : Prop :=
  ∃ r hit, p.recoveries[i]? = some r ∧ r.uuid = u ∧
    p.resume reply r.prog = some (.ret (.ok (some hit)))

/-- A recovery that goes on leaves the times alone, unless it ends with the host. -/
lemma recoveryGoesOn_cases {p p' : Poller} {u : String} {i : ℕ} {reply : (c : Call) → Reply c}
    {now x : ℤ} (h : p.recoveryGoesOn i reply now = some p') (hx : p.dueTime u = some x) :
    p'.inFlight = p.inFlight ∧ (p.FindsHost u i reply ∧ p'.dueTime u = some now ∨
      ¬ p.FindsHost u i reply ∧ p'.dueTime u = some x) := by
  rw [recoveryGoesOn] at h
  split at h
  next r hr =>
    have hnot : ∀ prog, p.resume reply r.prog = some prog → (∀ hit, prog ≠ .ret (.ok (some hit))) →
        ¬ p.FindsHost u i reply := by
      rintro prog hprog hne ⟨r', hit, hr', -, hfound⟩
      obtain rfl := Option.some.inj (hr.symm.trans hr')
      exact hne hit (Option.some.inj (hprog.symm.trans hfound))
    split at h
    next found hprog =>
      obtain rfl := Option.some.inj h
      refine ⟨rfl, ?_⟩
      rw [dueTime_endRecovery]
      cases found with
      | none =>
          rw [if_neg (by simp)]
          exact Or.inr ⟨hnot _ hprog (by simp), hx⟩
      | some hit =>
          by_cases huuid : r.uuid = u
          · rw [if_pos ⟨huuid, rfl⟩]
            exact Or.inl ⟨⟨r, hit, hr, huuid, hprog⟩, congrArg (Option.map _) hx⟩
          · rw [if_neg fun h => huuid h.1]
            refine Or.inr ⟨?_, hx⟩
            rintro ⟨r', hit', hr', huuid', -⟩
            obtain rfl := Option.some.inj (hr.symm.trans hr')
            exact huuid huuid'
    next e hprog =>
      obtain rfl := Option.some.inj h
      refine ⟨rfl, Or.inr ⟨hnot _ hprog (by simp), ?_⟩⟩
      rw [dueTime_endRecovery, if_neg (by simp)]
      exact hx
    next prog hok herror hprog =>
      obtain rfl := Option.some.inj h
      exact ⟨rfl, Or.inr ⟨hnot prog hprog fun hit => hok (some hit), hx⟩⟩
    next => cases h
  next => cases h

/-! ### Boosts that are overtaken -/

/-- A step that overtakes a boost at `t`: a poll of the device ends that was started less than its
interval before `t`, or the device is boosted or found later than `t`, or refreshed later than `t`
without a new poll of it. -/
def Overtakes (p : Poller) (u : String) (t : ℤ) (a : Act) : Prop :=
  match a with
  | .pollGoesOn _ _ _ random => ∃ c pm, p.completion a = some c ∧ c.uuid = u ∧
      p.metaByUuid.get u = some pm ∧ t < c.startedAt + p.intervalAfter c pm random
  | .boostDevice uuid now => (uuid = u ∧ u ≠ "") ∧ t < now
  | .pollNowStarts i now => (∃ q, p.pollNows[i]? = some q ∧
      u ∈ p.requestedUuids q.options ∧ u ≠ "") ∧ t < now ∧ u ∉ p.newPolls a
  | .recoveryGoesOn i reply now => p.FindsHost u i reply ∧ t < now
  | _ => False

section

variable {p p' : Poller} {a : Act} {u : String} {t : ℤ}

/-- The step gives the device another time, and starts no poll. -/
lemma kept_iff_of_moved {y : ℤ} (hy : p'.dueTime u = some y) (hpolls : p'.pollsSince u t = false)
    (hovertakes : p.Overtakes u t a ↔ t < y) :
    p'.pollsSince u t = true ∨ p'.DueBy u t ↔ ¬ p.Overtakes u t a := by
  rw [hpolls, hovertakes, not_lt]
  constructor
  · rintro (hfalse | ⟨z, hz, hle⟩)
    · cases hfalse
    · obtain rfl := Option.some.inj (hy.symm.trans hz)
      exact hle
  · exact fun hle => Or.inr ⟨y, hy, hle⟩

/-- A poll ends. -/
lemma kept_iff_of_completion {c : Completion} {pm : PollMeta} {i : ℕ}
    {reply : (c : Call) → Reply c} {now : ℤ} {random : ℚ}
    (hc : p.completion (.pollGoesOn i reply now random) = some c)
    (hpm : p.metaByUuid.get u = some pm) (hle : pm.nextDueAt ≤ t)
    (htime : p'.dueTime u = if c.uuid = u then some (c.startedAt + p.intervalAfter c pm random)
      else some pm.nextDueAt)
    (hpolls : p'.pollsSince u t = false) :
    p'.pollsSince u t = true ∨ p'.DueBy u t ↔
      ¬ p.Overtakes u t (.pollGoesOn i reply now random) := by
  have hovertakes : p.Overtakes u t (.pollGoesOn i reply now random) ↔
      c.uuid = u ∧ t < c.startedAt + p.intervalAfter c pm random := by
    constructor
    · rintro ⟨c', pm', hc', huuid, hpm', hlt⟩
      obtain rfl := Option.some.inj (hc.symm.trans hc')
      obtain rfl := Option.some.inj (hpm.symm.trans hpm')
      exact ⟨huuid, hlt⟩
    · exact fun h => ⟨c, pm, hc, h.1, hpm, h.2⟩
  by_cases huuid : c.uuid = u
  · rw [if_pos huuid] at htime
    exact kept_iff_of_moved htime hpolls (hovertakes.trans (and_iff_right huuid))
  · rw [if_neg huuid] at htime
    exact iff_of_true (Or.inr ⟨_, htime, hle⟩) fun h => huuid (hovertakes.mp h).1

/-- A recovery goes on. -/
lemma kept_iff_of_recovery {i : ℕ} {reply : (c : Call) → Reply c} {now x : ℤ}
    (h : p.recoveryGoesOn i reply now = some p') (hx : p.dueTime u = some x) (hle : x ≤ t)
    (hpolls : p.pollsSince u t = false) :
    p'.pollsSince u t = true ∨ p'.DueBy u t ↔ ¬ p.Overtakes u t (.recoveryGoesOn i reply now) := by
  obtain ⟨hflight, ⟨hfinds, htime⟩ | ⟨hnot, htime⟩⟩ := recoveryGoesOn_cases h hx
  · exact kept_iff_of_moved htime ((pollsSince_of_tasks (by rw [hflight])).trans hpolls)
      (and_iff_right hfinds)
  · exact iff_of_true (Or.inr ⟨x, htime, hle⟩) fun hovertakes => hnot hovertakes.1

variable [Runtime]

/-- A refresh starts. -/
lemma kept_iff_of_pollNow {i : ℕ} {q : PollNow} {now x : ℤ} (hq : p.pollNows[i]? = some q)
    (hx : p.dueTime u = some x) (hle : x ≤ t) (hpolls : p.pollsSince u t = false) :
    (p.startPollNow i q now).pollsSince u t = true ∨ (p.startPollNow i q now).DueBy u t ↔
      ¬ p.Overtakes u t (.pollNowStarts i now) := by
  have htime := dueTime_startPollNow hx i q now
  have hstarted := pollsSince_startPollNow (u := u) (t := t) hq now
  by_cases hrequested : u ∈ p.requestedUuids q.options ∧ u ≠ ""
  · rw [if_pos hrequested] at htime
    by_cases hnew : u ∈ p.newPolls (.pollNowStarts i now) ∧ t ≤ now
    · exact iff_of_true (Or.inl (hstarted.mpr (Or.inr hnew))) fun hovertakes =>
        hovertakes.2.2 hnew.1
    · refine kept_iff_of_moved htime ?_ ?_
      · rw [← Bool.not_eq_true, hstarted, hpolls]
        exact fun h => h.elim Bool.false_ne_true hnew
      · exact ⟨fun hovertakes => hovertakes.2.1,
          fun hlt => ⟨⟨q, hq, hrequested⟩, hlt, fun hmem => hnew ⟨hmem, hlt.le⟩⟩⟩
  · rw [if_neg hrequested] at htime
    refine iff_of_true (Or.inr ⟨x, htime, hle⟩) ?_
    rintro ⟨⟨q', hq', hrequested'⟩, -⟩
    obtain rfl := Option.some.inj (hq.symm.trans hq')
    exact hrequested hrequested'

/-- A step keeps a device due, or starts a poll of it, exactly if it does not overtake the boost. -/
lemma kept_step_iff (h : p.step a = some p') (hdue : p.DueBy u t)
    (hpolls : p.pollsSince u t = false) :
    p'.pollsSince u t = true ∨ p'.DueBy u t ↔ ¬ p.Overtakes u t a := by
  obtain ⟨x, hx, hle⟩ := hdue
  -- most steps leave the time alone
  have hquiet : p'.dueTime u = some x → ¬ p.Overtakes u t a →
      (p'.pollsSince u t = true ∨ p'.DueBy u t ↔ ¬ p.Overtakes u t a) :=
    fun hx' hnot => iff_of_true (Or.inr ⟨x, hx', hle⟩) hnot
  cases stretch_of_step h with
  | boostDevice uuid now =>
      have htime := nextDueAt_boostMeta p.metaByUuid uuid u now
      by_cases hboosted : uuid = u ∧ u ≠ ""
      · rw [if_pos hboosted] at htime
        exact kept_iff_of_moved htime hpolls (and_iff_right hboosted)
      · rw [if_neg hboosted] at htime
        exact hquiet (htime.trans hx) fun hovertakes => hboosted hovertakes.1
  | tick now => exact hquiet (dueTime_tickBody hx now) id
  | tickGoesOn now => exact hquiet (dueTime_tickBody hx now) id
  | tickSyncs now => exact hquiet (nextDueAt_foldl_ensureMeta now _ _ hx) id
  | pollNowSyncs i now q => exact hquiet (nextDueAt_foldl_ensureMeta now _ _ hx) id
  | pollNowStarts i now q hq hphase => exact kept_iff_of_pollNow hq hx hle hpolls
  | workerGoesOn i w now q queue workers c r =>
      exact hquiet (dueTime_takeNext hx q.options now queue) id
  | pollAwaits i reply now random uuid task prog ht hprog hret =>
      refine hquiet hx ?_
      rintro ⟨c, pm, hc, -⟩
      rw [completion_awaits ht hprog hret] at hc
      cases hc
  | pollReads i reply now random uuid task reading ht hprog =>
      obtain ⟨pm, hpm, rfl⟩ := get_of_dueTime hx
      refine kept_iff_of_completion (completion_ends ht hprog) hpm hle ?_
        (pollsSince_settled ht rfl hpolls)
      rw [dueTime_applyReading, hpm, hx]
      rfl
  | pollFails i reply now random uuid task e ht hprog =>
      obtain ⟨pm, hpm, rfl⟩ := get_of_dueTime hx
      refine kept_iff_of_completion (completion_ends ht hprog) hpm hle ?_ ?_
      · rw [dueTime_applyFailure hx, dueTime_noteFailure, hpm, hx]
        rfl
      · obtain ⟨resolving, recoveries, metas, heq⟩ :=
          applyFailure_eq p i uuid task e.message now random
        rw [heq]
        exact pollsSince_settled ht rfl hpolls
  | telemetrySkips i reply now uuid task =>
      exact hquiet (nextDueAt_modifyMeta hx fun _ => rfl) id
  | telemetryReads i reply now uuid task host parsed =>
      exact hquiet (nextDueAt_modifyMeta hx fun _ => rfl) id
  | telemetryFails i reply now uuid task e =>
      exact hquiet (nextDueAt_modifyMeta hx fun _ => rfl) id
  | recoveryAwaits i reply now r prog hr hprog => exact kept_iff_of_recovery h hx hle hpolls
  | recoveryEnds i reply now r found hr hprog => exact kept_iff_of_recovery h hx hle hpolls
  | _ => exact hquiet hx id

end

end Poller

/-- The poller after a boost of a device, with a note whether a poll of it that started at the time
of the boost or later has been under way. -/
structure Boosted where
  poller : Poller
  served : Bool

namespace Boosted

open Poller

variable [Runtime]

/-- The poller after the boost at `t`. -/
def start (p : Poller) (u : String) (t : ℤ) : Boosted := ⟨p, p.pollsSince u t⟩

def step (u : String) (t : ℤ) (s : Boosted) (a : Act) : Option Boosted :=
  (s.poller.step a).map fun p => ⟨p, s.served || p.pollsSince u t⟩

/-- The boost is not lost: the device is due until a poll has been under way. -/
def Kept (u : String) (t : ℤ) (s : Boosted) : Prop := s.served = true ∨ s.poller.DueBy u t

/-- As long as the boost is pending, the step does not overtake it. -/
def Lets (u : String) (t : ℤ) (s : Boosted) (a : Act) : Prop :=
  s.served = false → ¬ s.poller.Overtakes u t a

variable {u : String} {t : ℤ}

/-- Of a boost that is pending no poll has been under way. -/
structure Inv (u : String) (t : ℤ) (s : Boosted) : Prop where
  kept : s.Kept u t
  pending : s.served = false → s.poller.pollsSince u t = false

lemma inv_start {p₀ p₁ : Poller} (hdevice : u ≠ "" ∨ p₀.DueBy u t)
    (hboost : p₀.step (.boostDevice u t) = some p₁) : (start p₁ u t).Inv u t := by
  obtain rfl := Option.some.inj hboost
  refine ⟨Or.inr ?_, id⟩
  have htime := nextDueAt_boostMeta p₀.metaByUuid u u t
  by_cases hne : u = ""
  · rw [if_neg fun h => h.2 hne] at htime
    obtain ⟨x, hx, hle⟩ := hdevice.resolve_left fun h => h hne
    exact ⟨x, htime.trans hx, hle⟩
  · rw [if_pos ⟨rfl, hne⟩] at htime
    exact ⟨t, htime, le_rfl⟩

/-- A step keeps the boost exactly if it does not overtake it. -/
lemma Inv.kept_iff {s s' : Boosted} {a : Act} (hs : s.Inv u t) (h : s.step u t a = some s') :
    (s'.Kept u t ↔ s.Lets u t a) ∧ (s'.served = false → s'.poller.pollsSince u t = false) := by
  obtain ⟨p', hp', rfl⟩ := Option.map_eq_some_iff.mp h
  refine ⟨?_, fun hserved => (Bool.or_eq_false_iff.mp hserved).2⟩
  rw [Kept, Lets]
  cases hserved : s.served with
  | true => simp
  | false =>
      have hdue : s.poller.DueBy u t := hs.kept.resolve_left fun h => by
        rw [hserved] at h
        cases h
      simp only [Bool.false_or, forall_const]
      exact kept_step_iff hp' hdue (hs.pending hserved)

/-- **A boost is kept** in every run whose steps do not overtake it, and a step that does loses
it. -/
theorem boost_kept {p₀ p₁ : Poller} (hdevice : u ≠ "" ∨ p₀.DueBy u t)
    (hboost : p₀.step (.boostDevice u t) = some p₁) {s : Boosted}
    (h : Reaches (step u t) (Lets u t) (start p₁ u t) s) :
    s.Kept u t ∧ ∀ a s', s.step u t a = some s' → (s'.Kept u t ↔ s.Lets u t a) := by
  have hinv : s.Inv u t := h.invariant (inv_start hdevice hboost) fun s a s' hs hlets hstep =>
    ⟨(hs.kept_iff hstep).1.mpr hlets, (hs.kept_iff hstep).2⟩
  exact ⟨hinv.kept, fun a s' hstep => (hinv.kept_iff hstep).1⟩

end Boosted

/-- A boost of the plug, after which a browser connects. -/
theorem boost_kept_plug : let _ := plainRuntime; ∃ p₀ p₁ s,
    run Poller.step (backgroundPoll.take 2) (Poller.init plugConfig) = some p₀ ∧
    p₀.knownHosts.has "u" = true ∧ p₀.step (.boostDevice "u" 6500) = some p₁ ∧
    run (Boosted.step "u" 6500) [.connect] (.start p₁ "u" 6500) = some s ∧
    s.served = false ∧ s.Kept "u" 6500 := by
  let _ := plainRuntime
  refine ⟨_, _, _, rfl, rfl, rfl, rfl, rfl, ?_⟩
  exact (Boosted.boost_kept (Or.inl (by decide)) rfl
    (reaches_run [.connect] ⟨fun _ => id, trivial⟩ rfl)).1

/-- A poll of the plug that was started before the boost ends, and the boost is lost. -/
theorem boost_overtaken : ¬ ∀ (_ : Runtime) (file : FileText) (p₀ p₁ : Poller) (u : String) (t : ℤ)
    (s : Boosted), p₀.Reachable file → p₀.knownHosts.has u = true →
      p₀.step (.boostDevice u t) = some p₁ →
        Reaches (Boosted.step u t) Always (.start p₁ u t) s → s.Kept u t := by
  intro hall
  obtain hserved | ⟨x, hx, hle⟩ := hall plainRuntime plugConfig _ _ "u" 7000 _
    (reaches_run backgroundPoll (along_always _ _) rfl) rfl rfl
    (reaches_run [.pollGoesOn 0 (deviceSends (plugReply 1)) 7100 0] (along_always _ _) rfl)
  · exact absurd hserved (by decide)
  · obtain rfl : 13200 = x := Option.some.inj (Eq.trans (by decide +kernel) hx)
    exact absurd hle (by decide)

end Merossity
