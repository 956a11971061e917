import Merossity.Poller.Service

/-!
What one step of the poller does.

* `Stretch` lists the steps with their preconditions, and `stretch_of_step` is the inversion of
  `step`. Every invariant of the poller is proved by cases on it.
* `Enlists` is what a loop does that starts polls, `Starts` what such a loop changes, and `Loops`
  what the steps with such loops have in common. `Takes` is what workers take off a queue.
* `Proceeds` is what a step makes of a call of `pollNow`; see `proceeds_step` and
  `mem_pollNows_step`.
* `step_inFlight` and `step_telemetryInFlight`: a step changes a map of polls under way as the
  operations of `Flight` do.
-/

namespace Merossity

open Js

namespace Poller

section

variable [Runtime]

/-- The steps of the poller. -/
inductive Stretch (p : Poller) : Act → Poller → Prop where
  | fileChanges (text : FileText) : Stretch p (.fileChanges text) { p with file := text }
  | boostDevice (uuid : String) (now : ℤ) :
      Stretch p (.boostDevice uuid now) { p with metaByUuid := boostMeta p.metaByUuid uuid now }
  | connect : Stretch p .connect p.connect
  | cancel (id : ℕ) : Stretch p (.cancel id) { p with subscribers := p.subscribers.erase id }
  | heartbeat (id : ℕ) (now : ℤ) : Stretch p (.heartbeat id now)
      { p with subscribers := pushToSubscriber id (.heartbeat now) p.subscribers }
  | tickIsBusy (now : ℤ) : Stretch p (.tick now) p
  | tickAwaits (now : ℤ) : Stretch p (.tick now) { p with tick := .syncing }
  | tick (now : ℤ) (hidle : p.tick = .idle) : Stretch p (.tick now) (p.tickBody now)
  | tickSyncs (now : ℤ) :
      Stretch p (.tickSyncs now) { p.syncKnownHosts now with tick := .synced }
  | tickGoesOn (now : ℤ) : Stretch p (.tickGoesOn now) (p.tickBody now)
  | pollNow (options : PollOptions) : Stretch p (.pollNow options)
      { p with pollNows := p.pollNows ++ [⟨options, .syncing, [], []⟩] }
  | pollNowSyncs (i : ℕ) (now : ℤ) (q : PollNow) (hq : p.pollNows[i]? = some q)
      (hphase : q.phase = .syncing) : Stretch p (.pollNowSyncs i now)
      ((p.syncKnownHosts now).setPollNow i { q with phase := .synced })
  | pollNowStarts (i : ℕ) (now : ℤ) (q : PollNow) (hq : p.pollNows[i]? = some q)
      (hphase : q.phase = .synced) : Stretch p (.pollNowStarts i now) (p.startPollNow i q now)
  | workerGoesOn (i w : ℕ) (now : ℤ) (q : PollNow) (queue : List String) (workers : List Worker)
      (c : ℕ) (r : PollResult) (hq : p.pollNows[i]? = some q)
      (hphase : q.phase = .polling queue workers) (hw : workers[w]? = some (.awaiting c))
      (hc : (p.inFlight.calls[c]?).bind Flight.Call.result = some r) :
      Stretch p (.workerGoesOn i w now) (p.collectAndTake i q queue workers w r now)
  | pollNowReturns (i : ℕ) (now : ℤ) (q : PollNow) (queue : List String) (workers : List Worker)
      (hq : p.pollNows[i]? = some q) (hphase : q.phase = .polling queue workers)
      (hall : allFinished workers = true) :
      Stretch p (.pollNowReturns i now) (p.setPollNow i { q with phase := .returned now })
  | pollAwaits (t : ℕ) (reply : (c : Call) → Reply c) (now : ℤ) (random : ℚ) (uuid : String)
      (task : PollTask) (prog : Prog Call Reply (Except JsError DeviceReading))
      (ht : p.inFlight.running t = some (uuid, task))
      (hprog : p.resume reply task.prog = some prog) (hret : ∀ r, prog ≠ .ret r) :
      Stretch p (.pollGoesOn t reply now random)
        { p with inFlight := p.inFlight.advance t (.running { task with prog }) }
  | pollReads (t : ℕ) (reply : (c : Call) → Reply c) (now : ℤ) (random : ℚ) (uuid : String)
      (task : PollTask) (reading : DeviceReading)
      (ht : p.inFlight.running t = some (uuid, task))
      (hprog : p.resume reply task.prog = some (.ret (.ok reading))) :
      Stretch p (.pollGoesOn t reply now random) (p.applyReading t uuid task reading now random)
  | pollFails (t : ℕ) (reply : (c : Call) → Reply c) (now : ℤ) (random : ℚ) (uuid : String)
      (task : PollTask) (e : JsError) (ht : p.inFlight.running t = some (uuid, task))
      (hprog : p.resume reply task.prog = some (.ret (.error e))) :
      Stretch p (.pollGoesOn t reply now random) (p.applyFailure t uuid task e.message now random)
  | pollReturns (c : ℕ) (f : Flight String PollTask PollResult) (hf : p.inFlight.leave c = some f) :
      Stretch p (.pollReturns c) { p with inFlight := f }
  | telemetryAwaits (t : ℕ) (reply : (c : Call) → Reply c) (now : ℤ) (uuid : String)
      (task : TelemetryTask) (prog : Prog Call Reply (Except JsError (Option _)))
      (ht : p.telemetryInFlight.running t = some (uuid, task))
      (hprog : p.resume reply task.prog = some prog) (hret : ∀ r, prog ≠ .ret r) :
      Stretch p (.telemetryGoesOn t reply now)
        { p with telemetryInFlight := p.telemetryInFlight.advance t (.running { task with prog }) }
  | telemetrySkips (t : ℕ) (reply : (c : Call) → Reply c) (now : ℤ) (uuid : String)
      (task : TelemetryTask) (ht : p.telemetryInFlight.running t = some (uuid, task))
      (hprog : p.resume reply task.prog = some (.ret (.ok none))) :
      Stretch p (.telemetryGoesOn t reply now) (p.skipPower t uuid task)
  | telemetryReads (t : ℕ) (reply : (c : Call) → Reply c) (now : ℤ) (uuid : String)
      (task : TelemetryTask) (host : String) (parsed : LanElectricityState)
      (ht : p.telemetryInFlight.running t = some (uuid, task))
      (hprog : p.resume reply task.prog = some (.ret (.ok (some (host, parsed))))) :
      Stretch p (.telemetryGoesOn t reply now) (p.applyPower t uuid task host parsed now)
  | telemetryFails (t : ℕ) (reply : (c : Call) → Reply c) (now : ℤ) (uuid : String)
      (task : TelemetryTask) (e : JsError) (ht : p.telemetryInFlight.running t = some (uuid, task))
      (hprog : p.resume reply task.prog = some (.ret (.error e))) :
      Stretch p (.telemetryGoesOn t reply now) (p.failPower t uuid task e.message now)
  | telemetryReturns (c : ℕ) (f : Flight String TelemetryTask (Option DevicePowerDto))
      (hf : p.telemetryInFlight.leave c = some f) :
      Stretch p (.telemetryReturns c) { p with telemetryInFlight := f }
  | recoveryAwaits (i : ℕ) (reply : (c : Call) → Reply c) (now : ℤ) (r : Recovery)
      (prog : Prog Call Reply (Except JsError (Option (String × Option String))))
      (hr : p.recoveries[i]? = some r) (hprog : p.resume reply r.prog = some prog) :
      Stretch p (.recoveryGoesOn i reply now)
        { p with file := p.fileAfter r, recoveries := p.recoveries.set i { r with prog } }
  | recoveryEnds (i : ℕ) (reply : (c : Call) → Reply c) (now : ℤ) (r : Recovery)
      (found : Except JsError (Option (String × Option String)))
      (hr : p.recoveries[i]? = some r) (hprog : p.resume reply r.prog = some (.ret found)) :
      Stretch p (.recoveryGoesOn i reply now)
        (endRecovery { p with file := p.fileAfter r } i r (found.toOption.getD none) now)

/-- The inversion of `step`. -/
theorem stretch_of_step {p p' : Poller} {a : Act} (h : p.step a = some p') : Stretch p a p' := by
  cases a with
  | fileChanges text => cases h; exact .fileChanges text
  | boostDevice uuid now => cases h; exact .boostDevice uuid now
  | connect => cases h; exact .connect
  | cancel id => cases h; exact .cancel id
  | heartbeat id now => cases h; exact .heartbeat id now
  | tick now =>
      rw [step] at h
      split at h
      next hidle =>
        split at h
        next => cases h; exact .tickAwaits now
        next => cases h; exact .tick now hidle
      next => cases h; exact .tickIsBusy now
  | tickSyncs now =>
      rw [step] at h
      split at h
      next => cases h; exact .tickSyncs now
      next => cases h
  | tickGoesOn now =>
      rw [step] at h
      split at h
      next => cases h; exact .tickGoesOn now
      next => cases h
  | pollNow options => cases h; exact .pollNow options
  | pollNowSyncs i now =>
      rw [step] at h
      split at h
      next hq => cases h; exact .pollNowSyncs i now _ hq rfl
      next => cases h
  | pollNowStarts i now =>
      rw [step] at h
      split at h
      next hq => cases h; exact .pollNowStarts i now _ hq rfl
      next => cases h
  | workerGoesOn i w now =>
      rw [step, workerGoesOn] at h
      split at h
      next q hq =>
        split at h
        next queue workers hphase =>
          split at h
          next c hw =>
            split at h
            next r hc => cases h; exact .workerGoesOn i w now q queue workers c r hq hphase hw hc
            next => cases h
          next => cases h
        next => cases h
      next => cases h
  | pollNowReturns i now =>
      rw [step] at h
      split at h
      next hq =>
        split at h
        next hall => cases h; exact .pollNowReturns i now _ _ _ hq rfl hall
        next => cases h
      next => cases h
  | pollGoesOn t reply now random =>
      rw [step, pollGoesOn] at h
      split at h
      next uuid task ht =>
        split at h
        next reading hprog =>
          cases h
          exact .pollReads t reply now random uuid task reading ht hprog
        next e hprog => cases h; exact .pollFails t reply now random uuid task e ht hprog
        next prog hok herror hprog =>
          cases h
          have hret : ∀ r, prog ≠ .ret r := by
            rintro (e | reading) rfl
            · exact herror e rfl
            · exact hok reading rfl
          exact .pollAwaits t reply now random uuid task prog ht hprog hret
        next => cases h
      next => cases h
  | pollReturns c =>
      obtain ⟨f, hf, rfl⟩ := Option.map_eq_some_iff.mp h
      exact .pollReturns c f hf
  | telemetryGoesOn t reply now =>
      rw [step, telemetryGoesOn] at h
      split at h
      next uuid task ht =>
        split at h
        next hprog => cases h; exact .telemetrySkips t reply now uuid task ht hprog
        next host parsed hprog =>
          cases h
          exact .telemetryReads t reply now uuid task host parsed ht hprog
        next e hprog => cases h; exact .telemetryFails t reply now uuid task e ht hprog
        next prog hskip hok herror hprog =>
          cases h
          have hret : ∀ r, prog ≠ .ret r := by
            rintro (e | _ | ⟨host, parsed⟩) rfl
            · exact herror e rfl
            · exact hskip rfl
            · exact hok host parsed rfl
          exact .telemetryAwaits t reply now uuid task prog ht hprog hret
        next => cases h
      next => cases h
  | telemetryReturns c =>
      obtain ⟨f, hf, rfl⟩ := Option.map_eq_some_iff.mp h
      exact .telemetryReturns c f hf
  | recoveryGoesOn i reply now =>
      rw [step, recoveryGoesOn] at h
      split at h
      next r hr =>
        split at h
        next found hprog => cases h; exact .recoveryEnds i reply now r (.ok found) hr hprog
        next e hprog => cases h; exact .recoveryEnds i reply now r (.error e) hr hprog
        next hprog => cases h; exact .recoveryAwaits i reply now r _ hr hprog
        next => cases h
      next => cases h

end

/-! ### Starting polls and recoveries -/

lemma startRecovery_eq (p : Poller) (uuid : String) (now : ℤ) : ∃ resolving recoveries metas,
    p.startRecovery uuid now =
      { p with resolving := resolving, recoveries := recoveries, metaByUuid := metas } := by
  rw [startRecovery]
  split_ifs
  · exact ⟨_, _, _, rfl⟩
  · exact ⟨_, _, _, rfl⟩
  · exact ⟨_, _, _, rfl⟩

/-- A failure is noted, and then a recovery may start. -/
lemma applyFailure_eq (p : Poller) (t : ℕ) (uuid : String) (task : PollTask) (message : String)
    (now : ℤ) (random : ℚ) : ∃ resolving recoveries metas,
    p.applyFailure t uuid task message now random =
      { p.noteFailure t uuid task message now random with
        resolving := resolving, recoveries := recoveries, metaByUuid := metas } := by
  rw [applyFailure]
  dsimp only
  split_ifs
  · exact startRecovery_eq _ uuid now
  · exact ⟨_, _, _, rfl⟩

variable [Runtime]

/-- A state poll that has not called out yet. -/
def StateTask (uuid : String) (task : PollTask) : Prop :=
  ∃ timeoutMs, task.prog = (readDevice uuid timeoutMs).run

/-- A telemetry poll that has not called out yet. -/
def PowerTask (uuid : String) (task : TelemetryTask) : Prop :=
  ∃ timeoutMs, task.prog = (readPower uuid timeoutMs).run

/-- What the loops that start polls change: the polls under way, and the metas. -/
def Starts (p p' : Poller) : Prop :=
  ∃ f tf metas, p.inFlight.Enters StateTask f ∧ p.telemetryInFlight.Enters PowerTask tf ∧
    p' = { p with inFlight := f, telemetryInFlight := tf, metaByUuid := metas }

lemma Starts.later {p p' : Poller} (h : Starts p p') : p.inFlight.Later p'.inFlight := by
  obtain ⟨f, tf, metas, hf, -, rfl⟩ := h
  exact .of_enters hf

/-- Polls are started and devices are boosted, one after the other, for devices that satisfy
`P`. -/
inductive Enlists (P : String → Prop) (p : Poller) : Poller → Prop where
  | refl : Enlists P p p
  | poll {q : Poller} (h : Enlists P p q) (uuid : String) (hP : P uuid) (reason : PollReason)
      (timeoutMs : Option Number) (now : ℤ) :
      Enlists P p (q.pollDevice uuid reason timeoutMs now)
  | telemetry {q : Poller} (h : Enlists P p q) (uuid : String) (hP : P uuid) (reason : PowerSource)
      (timeoutMs : Option Number) (now : ℤ) :
      Enlists P p (q.pollTelemetry uuid reason timeoutMs now)
  | boost {q : Poller} (h : Enlists P p q) (uuid : String) (hP : P uuid) (now : ℤ) :
      Enlists P p { q with metaByUuid := boostMeta q.metaByUuid uuid now }

section Enlists

variable {P : String → Prop} {p q r : Poller}

lemma Enlists.trans (h : Enlists P p q) (h' : Enlists P q r) : Enlists P p r := by
  induction h' with
  | refl => exact h
  | poll _ uuid hP reason timeoutMs now ih => exact ih.poll uuid hP reason timeoutMs now
  | telemetry _ uuid hP reason timeoutMs now ih => exact ih.telemetry uuid hP reason timeoutMs now
  | boost _ uuid hP now ih => exact ih.boost uuid hP now

lemma Enlists.starts (h : Enlists P p q) : Starts p q := by
  induction h with
  | refl => exact ⟨_, _, _, .refl, .refl, rfl⟩
  | poll _ uuid _ reason timeoutMs now ih =>
      obtain ⟨f, tf, metas, hf, htf, rfl⟩ := ih
      exact ⟨_, _, _, .enter hf _ _ ⟨timeoutMs, rfl⟩, htf, rfl⟩
  | telemetry _ uuid _ reason timeoutMs now ih =>
      obtain ⟨f, tf, metas, hf, htf, rfl⟩ := ih
      exact ⟨_, _, _, hf, .enter htf _ _ ⟨timeoutMs, rfl⟩, rfl⟩
  | boost _ uuid _ now ih =>
      obtain ⟨f, tf, metas, hf, htf, rfl⟩ := ih
      exact ⟨_, _, _, hf, htf, rfl⟩

end Enlists

section

variable {P : String → Prop}

lemma enlists_startPolls (now : ℤ) : ∀ (uuids : List String) (p : Poller),
    (∀ uuid ∈ uuids, P uuid) → Enlists P p (startPolls now uuids p)
  | [], p, _ => .refl
  | uuid :: rest, p, h => by
      obtain ⟨huuid, hrest⟩ := List.forall_mem_cons.mp h
      rw [startPolls]
      split_ifs
      · exact .refl
      · exact (Enlists.refl.poll uuid huuid .poller none now).trans
          (enlists_startPolls now rest _ hrest)
      · exact .refl

lemma enlists_startTelemetry (now : ℤ) : ∀ (uuids : List String) (p : Poller),
    (∀ uuid ∈ uuids, P uuid) → Enlists P p (startTelemetry now uuids p)
  | [], p, _ => .refl
  | uuid :: rest, p, h => by
      obtain ⟨huuid, hrest⟩ := List.forall_mem_cons.mp h
      rw [startTelemetry]
      split_ifs
      · exact .refl
      · exact (Enlists.refl.telemetry uuid huuid .telemetryPoller none now).trans
          (enlists_startTelemetry now rest _ hrest)
      · exact .refl

/-- A tick starts polls of devices of which there is a meta, and then has its `finally` block. -/
lemma tickBody_enlists (p : Poller) (now : ℤ) : ∃ q,
    Enlists (fun uuid => p.metaByUuid.has uuid = true) p q ∧ p.tickBody now = q.endTick now := by
  have hmeta : ∀ (test : String × PollMeta → Bool) (time : PollMeta → ℤ),
      ∀ uuid ∈ p.sortByTime time ((p.candidates.filter test).map Prod.fst),
        p.metaByUuid.has uuid = true := by
    intro test time uuid huuid
    rw [sortByTime, List.mem_insertionSort] at huuid
    obtain ⟨e, he, rfl⟩ := List.mem_map.mp huuid
    have hentry := (List.mem_filter.mp (List.mem_filter.mp he).1).1
    exact (OrdMap.has_iff _).mpr ⟨e.2, (OrdMap.mem_entries_iff _).mp hentry⟩
  exact ⟨_, (enlists_startPolls now _ p (hmeta _ _)).trans
    (enlists_startTelemetry now _ _ (hmeta _ _)), rfl⟩

/-- A tick starts polls, and then has its `finally` block. -/
lemma tickBody_eq (p : Poller) (now : ℤ) : ∃ q, Starts p q ∧ p.tickBody now = q.endTick now := by
  obtain ⟨q, hq, heq⟩ := tickBody_enlists p now
  exact ⟨q, hq.starts, heq⟩

lemma enlists_takeNext (p : Poller) (options : PollOptions) (now : ℤ) {queue : List String}
    (h : ∀ uuid ∈ queue, P uuid) : Enlists P p (p.takeNext options now queue).1 := by
  cases queue with
  | nil => exact .refl
  | cons uuid rest =>
      rw [takeNext]
      split_ifs
      · exact .refl
      · exact Enlists.refl.poll uuid (h uuid List.mem_cons_self) _ _ now

/-- What a worker leaves of the queue. -/
lemma takeNext_rest (p : Poller) (options : PollOptions) (now : ℤ) (queue : List String) :
    (p.takeNext options now queue).2.1 = queue.tail := by
  cases queue with
  | nil => rfl
  | cons uuid rest =>
      rw [takeNext]
      split_ifs <;> rfl

lemma enlists_startWorkers (options : PollOptions) (now : ℤ) : ∀ (n : ℕ) (p : Poller)
    (queue : List String), (∀ uuid ∈ queue, P uuid) →
      Enlists P p (startWorkers options now n p queue).1
  | 0, p, _, _ => .refl
  | n + 1, p, queue, h => by
      refine (enlists_takeNext p options now h).trans (enlists_startWorkers options now n _ _ ?_)
      rw [takeNext_rest]
      exact fun uuid huuid => h uuid (List.mem_of_mem_tail huuid)

end

/-! ### Workers -/

/-- What workers take off a queue: each awaits a new call for its device, or has ended because there
is none left. -/
structure Takes (f g : Flight String PollTask PollResult) (queue queue' : List String)
    (workers : List Worker) : Prop where
  rest : queue' ⊆ queue
  new : ∀ c, .awaiting c ∈ workers → f.calls.length ≤ c
  taken : "" ∉ queue → ∀ uuid ∈ queue, uuid ∈ queue' ∨ ∃ c call, .awaiting c ∈ workers ∧
    g.calls[c]? = some call ∧ call.key = uuid
  ended : "" ∉ queue → .finished ∈ workers → queue' = []

lemma takes_takeNext (p : Poller) (options : PollOptions) (now : ℤ) (queue : List String) :
    Takes p.inFlight (p.takeNext options now queue).1.inFlight queue
      (p.takeNext options now queue).2.1 [(p.takeNext options now queue).2.2] := by
  cases queue with
  | nil => exact ⟨List.Subset.refl _, by simp [takeNext], by simp, fun _ _ => rfl⟩
  | cons uuid rest =>
      rw [takeNext]
      split
      next hempty =>
        have hmem : "" ∈ uuid :: rest := hempty ▸ List.mem_cons_self
        exact ⟨List.subset_cons_self _ _, by simp, fun h => absurd hmem h,
          fun h => absurd hmem h⟩
      next =>
        refine ⟨List.subset_cons_self _ _, by simp, fun _ u hu => ?_, by simp⟩
        rcases List.mem_cons.mp hu with rfl | hu
        · obtain ⟨t, creator, hcalls⟩ := Flight.calls_enter p.inFlight u
            (⟨options.reason.getD .manual, now, (readDevice u
              ((options.timeoutMs.bind fun n => n.finite?).map fun n => .fin (max 500 n))).run⟩ :
              PollTask)
          refine Or.inr ⟨_, ⟨u, t, creator, none⟩, List.mem_singleton_self _, ?_, rfl⟩
          show (Flight.enter _ u _).calls[_]? = _
          rw [hcalls, List.getElem?_concat_length]
        · exact Or.inl hu

omit [Runtime] in
/-- The workers take one after the other. -/
lemma Takes.cons {f g h : Flight String PollTask PollResult} {queue queue₁ queue₂ : List String}
    {worker : Worker} {workers : List Worker} (hfirst : Takes f g queue queue₁ [worker])
    (hrest : Takes g h queue₁ queue₂ workers) (hfg : f.Later g) (hgh : g.Later h) :
    Takes f h queue queue₂ (worker :: workers) := by
  have hempty : "" ∉ queue → "" ∉ queue₁ := fun hqueue hmem => hqueue (hfirst.rest hmem)
  refine ⟨List.Subset.trans hrest.rest hfirst.rest, fun c hc => ?_, fun hqueue uuid huuid => ?_,
    fun hqueue hfinished => ?_⟩
  · rcases List.mem_cons.mp hc with rfl | hc
    · exact hfirst.new c (List.mem_singleton_self _)
    · exact hfg.calls_le.trans (hrest.new c hc)
  · rcases hfirst.taken hqueue uuid huuid with huuid | ⟨c, call, hc, hcall, hkey⟩
    · rcases hrest.taken (hempty hqueue) uuid huuid with huuid | ⟨c, call, hc, hcall, hkey⟩
      · exact Or.inl huuid
      · exact Or.inr ⟨c, call, List.mem_cons_of_mem _ hc, hcall, hkey⟩
    · obtain ⟨r, hr⟩ := hgh.call c call hcall
      exact Or.inr ⟨c, _, List.mem_cons.mpr (Or.inl (List.mem_singleton.mp hc)), hr, hkey⟩
  · rcases List.mem_cons.mp hfinished with rfl | hfinished
    · have hdone := hfirst.ended hqueue (List.mem_singleton_self _)
      exact List.subset_nil.mp (hdone ▸ hrest.rest)
    · exact hrest.ended (hempty hqueue) hfinished

omit [Runtime] in
/-- A worker that goes on leaves no work behind when one has ended. -/
lemma Takes.set_ended {f g : Flight String PollTask PollResult} {queue queue' : List String}
    {worker : Worker} {workers : List Worker} {w : ℕ} (htakes : Takes f g queue queue' [worker])
    (hempty : "" ∉ queue) (hended : .finished ∈ workers → queue = [])
    (h : .finished ∈ workers.set w worker) : queue' = [] := by
  rcases List.mem_or_eq_of_mem_set h with hold | hnew
  · exact List.subset_nil.mp (hended hold ▸ htakes.rest)
  · exact htakes.ended hempty (List.mem_singleton.mpr hnew)

lemma takes_startWorkers (options : PollOptions) (now : ℤ) : ∀ (n : ℕ) (p : Poller)
    (queue : List String), Takes p.inFlight (startWorkers options now n p queue).1.inFlight queue
      (startWorkers options now n p queue).2.1 (startWorkers options now n p queue).2.2
  | 0, p, queue => ⟨List.Subset.refl _, by simp [startWorkers], fun _ _ h => Or.inl h,
      by simp [startWorkers]⟩
  | n + 1, p, queue => by
      have hfirst : Enlists (· ∈ queue) p (p.takeNext options now queue).1 :=
        enlists_takeNext p options now fun _ h => h
      have hrest : Enlists (· ∈ (p.takeNext options now queue).2.1)
          (p.takeNext options now queue).1 (startWorkers options now (n + 1) p queue).1 :=
        enlists_startWorkers options now n _ _ fun _ h => h
      exact (takes_takeNext p options now queue).cons (takes_startWorkers options now n _ _)
        hfirst.starts.later hrest.starts.later

lemma enlists_boosts {P : String → Prop} (now : ℤ) : ∀ (uuids : List String) (p : Poller),
    (∀ uuid ∈ uuids, P uuid) → Enlists P p
      { p with metaByUuid := uuids.foldl (fun m uuid => boostMeta m uuid now) p.metaByUuid }
  | [], p, _ => .refl
  | uuid :: rest, p, h => by
      obtain ⟨huuid, hrest⟩ := List.forall_mem_cons.mp h
      exact (Enlists.refl.boost uuid huuid now).trans (enlists_boosts now rest _ hrest)

/-- The start of `pollNow` boosts the requested devices and starts polls of them, and its workers
take them off the queue. -/
lemma startPollNow_enlists (p : Poller) (i : ℕ) (q : PollNow) (now : ℤ) : ∃ p₁ queue workers,
    Enlists (· ∈ p.requestedUuids q.options) p p₁ ∧
      Takes p.inFlight p₁.inFlight (p.requestedUuids q.options) queue workers ∧ workers ≠ [] ∧
        p.startPollNow i q now = p₁.setPollNow i { q with phase := .polling queue workers } := by
  have htakes : ∀ n metas, Takes p.inFlight _ (p.requestedUuids q.options) _ _ := fun n metas =>
    takes_startWorkers q.options now n { p with metaByUuid := metas } (p.requestedUuids q.options)
  refine ⟨_, _, _, (enlists_boosts now _ p fun _ h => h).trans
    (enlists_startWorkers q.options now _ _ _ fun _ h => h), htakes _ _, ?_, rfl⟩
  obtain ⟨n, hn⟩ : ∃ n, max 1 (min POLL_MAX_CONCURRENCY (max 1
      (p.requestedUuids q.options).length)) = n + 1 := Nat.exists_eq_add_of_le' (le_max_left 1 _)
  rw [hn]
  exact List.cons_ne_nil _ _

/-- The start of `pollNow` starts polls, and its workers await new calls. -/
lemma startPollNow_eq (p : Poller) (i : ℕ) (q : PollNow) (now : ℤ) : ∃ p₁ queue workers,
    Starts p p₁ ∧ (∀ c, .awaiting c ∈ workers → p.inFlight.calls.length ≤ c) ∧
      p.startPollNow i q now = p₁.setPollNow i { q with phase := .polling queue workers } := by
  obtain ⟨p₁, queue, workers, hp₁, htakes, -, heq⟩ := startPollNow_enlists p i q now
  exact ⟨p₁, queue, workers, hp₁.starts, htakes.new, heq⟩

/-- A worker that goes on starts a poll of a device that it takes off its queue. -/
lemma collectAndTake_enlists (p : Poller) (i : ℕ) (q : PollNow) (queue : List String)
    (workers : List Worker) (w : ℕ) (r : PollResult) (now : ℤ) : ∃ p₁ queue' worker,
    Enlists (· ∈ queue) p p₁ ∧ Takes p.inFlight p₁.inFlight queue queue' [worker] ∧
      p.collectAndTake i q queue workers w r now = p₁.setPollNow i
        { collect q r with phase := .polling queue' (workers.set w worker) } :=
  ⟨_, _, _, enlists_takeNext p q.options now fun _ h => h, takes_takeNext p q.options now queue,
    rfl⟩

lemma collectAndTake_eq (p : Poller) (i : ℕ) (q : PollNow) (queue : List String)
    (workers : List Worker) (w : ℕ) (r : PollResult) (now : ℤ) : ∃ p₁ queue' worker,
    Starts p p₁ ∧ (∀ c, worker = .awaiting c → p.inFlight.calls.length ≤ c) ∧
      p.collectAndTake i q queue workers w r now = p₁.setPollNow i
        { collect q r with phase := .polling queue' (workers.set w worker) } := by
  obtain ⟨p₁, queue', worker, hp₁, htakes, heq⟩ :=
    collectAndTake_enlists p i q queue workers w r now
  exact ⟨p₁, queue', worker, hp₁.starts, fun c hc => htakes.new c (List.mem_singleton.mpr hc.symm),
    heq⟩

/-! ### Calls of `pollNow` -/

/-- What a step from `p` to `p'` makes of a call of `pollNow`. -/
inductive Proceeds (p p' : Poller) (q : PollNow) : PollNow → Prop where
  | stays : Proceeds p p' q q
  | syncs (hphase : q.phase = .syncing) : Proceeds p p' q { q with phase := .synced }
  | starts (i : ℕ) (now : ℤ) (queue : List String) (workers : List Worker)
      (hphase : q.phase = .synced) (hstart : p' = p.startPollNow i q now)
      (htakes : Takes p.inFlight p'.inFlight (p.requestedUuids q.options) queue workers)
      (hworkers : workers ≠ []) : Proceeds p p' q { q with phase := .polling queue workers }
  | works (queue queue' : List String) (workers : List Worker) (w c : ℕ) (worker : Worker)
      (r : PollResult) (hphase : q.phase = .polling queue workers)
      (hw : workers[w]? = some (.awaiting c))
      (hc : (p.inFlight.calls[c]?).bind Flight.Call.result = some r)
      (htakes : Takes p.inFlight p'.inFlight queue queue' [worker]) :
      Proceeds p p' q { collect q r with phase := .polling queue' (workers.set w worker) }
  | returns (queue : List String) (workers : List Worker) (now : ℤ)
      (hphase : q.phase = .polling queue workers) (hall : allFinished workers = true) :
      Proceeds p p' q { q with phase := .returned now }

/-- A step that is about one call leaves the others alone. -/
lemma proceeds_set {p p' : Poller} {i j : ℕ} {q qj q' : PollNow} (hq : p.pollNows[i]? = some q)
    (hj : p.pollNows[j]? = some qj) (h : Proceeds p p' qj q') :
    ∃ q₁, (p.pollNows.set j q')[i]? = some q₁ ∧ Proceeds p p' q q₁ := by
  by_cases hij : j = i
  · subst hij
    obtain rfl := Option.some.inj (hq.symm.trans hj)
    exact ⟨q', List.getElem?_set_self (List.getElem?_eq_some_iff.mp hq).1, h⟩
  · exact ⟨q, (List.getElem?_set_ne hij).trans hq, .stays⟩

/-- A step makes of a call of `pollNow` what its code does. -/
theorem proceeds_step {p p' : Poller} {a : Act} (h : p.step a = some p') {i : ℕ} {q : PollNow}
    (hq : p.pollNows[i]? = some q) : ∃ q', p'.pollNows[i]? = some q' ∧ Proceeds p p' q q' := by
  cases stretch_of_step h with
  | tick now =>
      obtain ⟨_, ⟨f, tf, metas, -, -, rfl⟩, heq⟩ := tickBody_eq p now
      exact ⟨q, by rw [heq]; exact hq, .stays⟩
  | tickGoesOn now =>
      obtain ⟨_, ⟨f, tf, metas, -, -, rfl⟩, heq⟩ := tickBody_eq p now
      exact ⟨q, by rw [heq]; exact hq, .stays⟩
  | pollNow options =>
      exact ⟨q, (List.getElem?_append_left (List.getElem?_eq_some_iff.mp hq).1).trans hq, .stays⟩
  | pollNowSyncs j now qj hj hphase => exact proceeds_set hq hj (.syncs hphase)
  | pollNowStarts j now qj hj hphase =>
      obtain ⟨p₁, queue, workers, hp₁, htakes, hworkers, heq⟩ := startPollNow_enlists p j qj now
      obtain ⟨f, tf, metas, -, -, rfl⟩ := hp₁.starts
      have hset := proceeds_set hq hj
        (.starts j now queue workers hphase rfl (by rw [heq]; exact htakes) hworkers)
      rw [heq] at hset ⊢
      exact hset
  | workerGoesOn j w now qj queue workers c r hj hphase hw hc =>
      obtain ⟨p₁, queue', worker, hp₁, htakes, heq⟩ :=
        collectAndTake_enlists p j qj queue workers w r now
      obtain ⟨f, tf, metas, -, -, rfl⟩ := hp₁.starts
      rw [heq]
      exact proceeds_set hq hj (.works queue queue' workers w c worker r hphase hw hc htakes)
  | pollNowReturns j now qj queue workers hj hphase hall =>
      exact proceeds_set hq hj (.returns queue workers now hphase hall)
  | pollFails t reply now random uuid task e =>
      obtain ⟨resolving, recoveries, metas, heq⟩ :=
        applyFailure_eq p t uuid task e.message now random
      exact ⟨q, by rw [heq]; exact hq, .stays⟩
  | _ => exact ⟨q, hq, .stays⟩

/-- There is one more call of `pollNow` after a step, or as many as before. -/
lemma pollNows_step {p p' : Poller} {a : Act} (h : p.step a = some p') :
    p'.pollNows.length = p.pollNows.length ∨ ∃ options, a = .pollNow options ∧
      p'.pollNows = p.pollNows ++ [⟨options, .syncing, [], []⟩] := by
  cases stretch_of_step h with
  | tick now =>
      obtain ⟨_, ⟨f, tf, metas, -, -, rfl⟩, heq⟩ := tickBody_eq p now
      exact Or.inl (by rw [heq]; rfl)
  | tickGoesOn now =>
      obtain ⟨_, ⟨f, tf, metas, -, -, rfl⟩, heq⟩ := tickBody_eq p now
      exact Or.inl (by rw [heq]; rfl)
  | pollNow options => exact Or.inr ⟨options, rfl, rfl⟩
  | pollNowSyncs j now q => exact Or.inl (List.length_set ..)
  | pollNowStarts j now q =>
      obtain ⟨_, _, _, ⟨f, tf, metas, -, -, rfl⟩, -, heq⟩ := startPollNow_eq p j q now
      exact Or.inl (by rw [heq]; exact List.length_set ..)
  | workerGoesOn j w now q queue workers c r =>
      obtain ⟨_, _, _, ⟨f, tf, metas, -, -, rfl⟩, -, heq⟩ :=
        collectAndTake_eq p j q queue workers w r now
      exact Or.inl (by rw [heq]; exact List.length_set ..)
  | pollNowReturns j now q => exact Or.inl (List.length_set ..)
  | pollFails t reply now random uuid task e =>
      obtain ⟨resolving, recoveries, metas, heq⟩ :=
        applyFailure_eq p t uuid task e.message now random
      exact Or.inl (by rw [heq]; rfl)
  | _ => exact Or.inl rfl

/-- A call of `pollNow` after a step is a new one, or an earlier one that has proceeded. -/
theorem mem_pollNows_step {p p' : Poller} {a : Act} (h : p.step a = some p') {q' : PollNow}
    (hq' : q' ∈ p'.pollNows) : (∃ q ∈ p.pollNows, Proceeds p p' q q') ∨
      ∃ options, a = .pollNow options ∧ q' = ⟨options, .syncing, [], []⟩ := by
  have hearlier : ∀ i, i < p.pollNows.length → p'.pollNows[i]? = some q' →
      ∃ q ∈ p.pollNows, Proceeds p p' q q' := by
    intro i hi hget
    obtain ⟨q₁, hq₁, hproceeds⟩ := proceeds_step h (List.getElem?_eq_getElem hi)
    obtain rfl := Option.some.inj (hget.symm.trans hq₁)
    exact ⟨_, List.getElem_mem hi, hproceeds⟩
  obtain ⟨i, hi⟩ := List.mem_iff_getElem?.mp hq'
  rcases pollNows_step h with hlen | ⟨options, ha, heq⟩
  · exact Or.inl (hearlier i (hlen ▸ (List.getElem?_eq_some_iff.mp hi).1) hi)
  · rw [heq] at hi hq'
    rcases Flight.getElem?_concat hi with hold | ⟨-, hnew⟩
    · exact Or.inl (hearlier i (List.getElem?_eq_some_iff.mp hold).1 (by rw [heq]; exact hi))
    · exact Or.inr ⟨options, ha, hnew⟩

/-! ### Loops -/

/-- What the steps that start polls have in common: calls come in, and nothing is stored. -/
structure Loops (p p' : Poller) : Prop where
  inFlight : p.inFlight.Enters StateTask p'.inFlight
  telemetryInFlight : p.telemetryInFlight.Enters PowerTask p'.telemetryInFlight
  stateByUuid : p'.stateByUuid = p.stateByUuid
  powerByUuid : p'.powerByUuid = p.powerByUuid

lemma loops_tickBody (p : Poller) (now : ℤ) : Loops p (p.tickBody now) := by
  obtain ⟨q, ⟨f, tf, metas, hf, htf, rfl⟩, heq⟩ := tickBody_eq p now
  rw [heq]
  exact ⟨hf, htf, rfl, rfl⟩

lemma loops_startPollNow (p : Poller) (i : ℕ) (q : PollNow) (now : ℤ) :
    Loops p (p.startPollNow i q now) := by
  obtain ⟨_, _, _, ⟨f, tf, metas, hf, htf, rfl⟩, -, heq⟩ := startPollNow_eq p i q now
  rw [heq]
  exact ⟨hf, htf, rfl, rfl⟩

lemma loops_collectAndTake (p : Poller) (i : ℕ) (q : PollNow) (queue : List String)
    (workers : List Worker) (w : ℕ) (r : PollResult) (now : ℤ) :
    Loops p (p.collectAndTake i q queue workers w r now) := by
  obtain ⟨_, _, _, ⟨f, tf, metas, hf, htf, rfl⟩, -, heq⟩ :=
    collectAndTake_eq p i q queue workers w r now
  rw [heq]
  exact ⟨hf, htf, rfl, rfl⟩

/-! ### Polls under way -/

/-- Calls come in for tasks that satisfy `P`, or a poll goes on. -/
def Advances {δ ρ : Type} (P : String → δ → Prop) (f g : Flight String δ ρ) : Prop :=
  f.Enters P g ∨ ∃ t uuid d s, f.running t = some (uuid, d) ∧ g = f.advance t s

/-- A step that is no return of a call of `pollDevice` starts polls, or lets one go on. -/
theorem step_inFlight {p p' : Poller} {a : Act} (h : p.step a = some p') :
    Advances StateTask p.inFlight p'.inFlight ∨
      ∃ c, a = .pollReturns c ∧ p.inFlight.leave c = some p'.inFlight := by
  cases stretch_of_step h with
  | tick now => exact Or.inl (Or.inl (loops_tickBody p now).inFlight)
  | tickGoesOn now => exact Or.inl (Or.inl (loops_tickBody p now).inFlight)
  | pollNowStarts i now q => exact Or.inl (Or.inl (loops_startPollNow p i q now).inFlight)
  | workerGoesOn i w now q queue workers c r =>
      exact Or.inl (Or.inl (loops_collectAndTake p i q queue workers w r now).inFlight)
  | pollAwaits t reply now random uuid task prog ht =>
      exact Or.inl (Or.inr ⟨t, uuid, task, _, ht, rfl⟩)
  | pollReads t reply now random uuid task reading ht =>
      exact Or.inl (Or.inr ⟨t, uuid, task, _, ht, rfl⟩)
  | pollFails t reply now random uuid task e ht =>
      obtain ⟨resolving, recoveries, metas, heq⟩ :=
        applyFailure_eq p t uuid task e.message now random
      rw [heq]
      exact Or.inl (Or.inr ⟨t, uuid, task, _, ht, rfl⟩)
  | pollReturns c f hf => exact Or.inr ⟨c, rfl, hf⟩
  | _ => exact Or.inl (Or.inl .refl)

/-- The same of calls of `pollTelemetry`. -/
theorem step_telemetryInFlight {p p' : Poller} {a : Act} (h : p.step a = some p') :
    Advances PowerTask p.telemetryInFlight p'.telemetryInFlight ∨
      ∃ c, a = .telemetryReturns c ∧ p.telemetryInFlight.leave c = some p'.telemetryInFlight := by
  cases stretch_of_step h with
  | tick now => exact Or.inl (Or.inl (loops_tickBody p now).telemetryInFlight)
  | tickGoesOn now => exact Or.inl (Or.inl (loops_tickBody p now).telemetryInFlight)
  | pollNowStarts i now q => exact Or.inl (Or.inl (loops_startPollNow p i q now).telemetryInFlight)
  | workerGoesOn i w now q queue workers c r =>
      exact Or.inl (Or.inl (loops_collectAndTake p i q queue workers w r now).telemetryInFlight)
  | pollFails t reply now random uuid task e ht =>
      obtain ⟨resolving, recoveries, metas, heq⟩ :=
        applyFailure_eq p t uuid task e.message now random
      rw [heq]
      exact Or.inl (Or.inl .refl)
  | telemetryAwaits t reply now uuid task prog ht =>
      exact Or.inl (Or.inr ⟨t, uuid, task, _, ht, rfl⟩)
  | telemetrySkips t reply now uuid task ht =>
      exact Or.inl (Or.inr ⟨t, uuid, task, _, ht, rfl⟩)
  | telemetryReads t reply now uuid task host parsed ht =>
      exact Or.inl (Or.inr ⟨t, uuid, task, _, ht, rfl⟩)
  | telemetryFails t reply now uuid task e ht =>
      exact Or.inl (Or.inr ⟨t, uuid, task, _, ht, rfl⟩)
  | telemetryReturns c f hf => exact Or.inr ⟨c, rfl, hf⟩
  | _ => exact Or.inl (Or.inl .refl)

end Poller

end Merossity
