import Merossity.Poller.Recovery
import Merossity.Poller.Stream

/-!
The devices that the poller tracks.

* `Rooted`: in every state, there is a meta of every device that is in a store, in an event that was
  sent, in a queue, or of which a poll or a recovery is under way. `metas_step`: a step makes metas
  of the devices that it is `asked` to track, and of those with a host entry in the configuration.
-/

namespace Merossity

open Js Machine

/-- The devices that an event is about. -/
def StreamEvent.uuids : StreamEvent → List String
  | .snapshot states => states.map DeviceStateDto.uuid
  | .powerSnapshot readings => readings.map DevicePowerDto.uuid
  | .deviceState s => [s.uuid]
  | .deviceStale s => [s.uuid]
  | .devicePower r => [r.uuid]
  | .devicePowerStale r => [r.uuid]
  | _ => []

lemma StreamEvent.uuids_eq_nil {e : StreamEvent} (hdevice : e.isDevice = false)
    (hpower : e.isPower = false) : e.uuids = [] := by
  cases e with
  | snapshot | deviceState | deviceStale => cases hdevice
  | powerSnapshot | devicePower | devicePowerStale => cases hpower
  | heartbeat | pollerHealth => rfl

/-- The devices with an entry in `hosts`. -/
def hostsIn (file : FileText) : List String :=
  (sectionFields (loadMerossConfig file) .hosts).map Prod.fst

namespace Poller

/-- The devices that a step is asked to track. -/
def asked (p : Poller) : Act → List String
  | .boostDevice uuid _ => if uuid = "" then [] else [uuid]
  | .pollNowStarts i _ => match p.pollNows[i]? with
    | some ⟨options, .synced, _, _⟩ => p.requestedUuids options
    | _ => []
  | _ => []

/-- There is a meta of every device that the poller tracks. -/
structure Rooted (p : Poller) : Prop where
  noted : p.Noted
  keyed : p.Keyed
  powerKept : p.PowerKept
  states : ∀ u s, p.stateByUuid.get u = some s → p.metaByUuid.has u = true
  power : ∀ u r, p.powerByUuid.get u = some r → p.metaByUuid.has u = true
  known : ∀ u, p.knownHosts.has u = true → p.metaByUuid.has u = true
  queues : ∀ q ∈ p.pollNows, ∀ queue workers, q.phase = .polling queue workers →
    ∀ u ∈ queue, p.metaByUuid.has u = true
  recoveries : ∀ u ∈ p.ledger.recovering, p.metaByUuid.has u = true
  sent : ∀ id sent, p.subscribers.get id = some sent → ∀ e ∈ sent, ∀ u ∈ e.uuids,
    p.metaByUuid.has u = true

lemma rooted_init (file : FileText) : (init file).Rooted where
  noted := noted_init file
  keyed := keyed_init file
  powerKept := powerKept_init file
  states _ _ h := by cases h
  power _ _ h := by cases h
  known _ h := by cases h
  queues _ h := by cases h
  recoveries _ h := by cases h
  sent _ _ h := by cases h

/-! ### New metas -/

/-- The hosts that `syncKnownHosts` finds have an entry. -/
lemma mem_hostsIn_of_known {file : FileText} {u : String}
    (hu : u ∈ ((sectionFields (loadMerossConfig file) .hosts).filterMap fun e =>
      (knownHostOf (some e.2)).map fun known => (e.1, known)).map Prod.fst) : u ∈ hostsIn file := by
  obtain ⟨e, he, rfl⟩ := List.mem_map.mp hu
  obtain ⟨entry, hentry, hknown⟩ := List.mem_filterMap.mp he
  obtain ⟨known, -, rfl⟩ := Option.map_eq_some_iff.mp hknown
  exact List.mem_map_of_mem hentry

lemma has_syncKnownHosts (p : Poller) (now : ℤ) (u : String) :
    (p.metaByUuid.has u = true → (p.syncKnownHosts now).metaByUuid.has u = true) ∧
      ((p.syncKnownHosts now).metaByUuid.has u = true →
        p.metaByUuid.has u = true ∨ u ∈ hostsIn p.file) := by
  have hiff : (p.syncKnownHosts now).metaByUuid.has u = true ↔ _ :=
    has_foldl_ensureMeta now u _ _
  rw [hiff]
  exact ⟨Or.inl, Or.imp_right mem_hostsIn_of_known⟩

/-- The hosts that are known after a synchronisation have metas. -/
lemma known_syncKnownHosts (p : Poller) (now : ℤ) {u : String}
    (hu : (p.syncKnownHosts now).knownHosts.has u = true) :
    (p.syncKnownHosts now).metaByUuid.has u = true := by
  have hknown : (p.syncKnownHosts now).knownHosts.has u = true ↔ _ := OrdMap.has_foldl_set _ u _
  have hmetas : (p.syncKnownHosts now).metaByUuid.has u = true ↔ _ :=
    has_foldl_ensureMeta now u _ _
  rw [hmetas]
  exact (hknown.mp hu).elim (fun hempty => by cases hempty) Or.inr

/-- A recovery that starts makes a meta of its device. -/
lemma has_of_applyFailure {p : Poller} {t : ℕ} {uuid : String} {task : PollTask} {message : String}
    {now : ℤ} {random : ℚ} {u : String}
    (h : (p.applyFailure t uuid task message now random).metaByUuid.has u = true) :
    p.metaByUuid.has u = true ∨ uuid = u := by
  have hnoted : ∀ u, (p.noteFailure t uuid task message now random).metaByUuid.has u =
      p.metaByUuid.has u := fun u => has_modifyMeta _ _ _ _
  rw [applyFailure] at h
  split_ifs at h
  · rw [startRecovery] at h
    split_ifs at h
    · exact Or.inl (hnoted u ▸ h)
    · rw [has_ensureMeta, hnoted, Bool.or_eq_true, decide_eq_true_eq] at h
      exact h.symm
    · rw [has_modifyMeta, has_ensureMeta, hnoted, Bool.or_eq_true, decide_eq_true_eq] at h
      exact h.symm
  · exact Or.inl (hnoted u ▸ h)

variable [Runtime] {p p' : Poller} {a : Act}

/-- No step removes a meta, and it makes metas only of the devices that it is asked to track, and of
devices with a host entry. -/
theorem metas_step (hp : p.Rooted) (h : p.step a = some p') (u : String) :
    (p.metaByUuid.has u = true → p'.metaByUuid.has u = true) ∧
      (p'.metaByUuid.has u = true →
        p.metaByUuid.has u = true ∨ u ∈ p.asked a ∨ u ∈ hostsIn p.file) := by
  cases stretch_of_step h with
  | boostDevice uuid now =>
      refine ⟨fun hu => ?_, fun hu => ?_⟩
      · rw [has_boostMeta, hu, Bool.or_true]
      · rw [has_boostMeta, Bool.or_eq_true, decide_eq_true_eq] at hu
        rcases hu with ⟨hne, rfl⟩ | hu
        · exact Or.inr (Or.inl (by simp [asked, hne]))
        · exact Or.inl hu
  | tick now =>
      obtain ⟨q, hq, heq⟩ := tickBody_enlists p now
      rw [heq]
      exact ⟨(has_enlists hq u).1, fun hu => Or.inl (((has_enlists hq u).2 hu).elim id id)⟩
  | tickGoesOn now =>
      obtain ⟨q, hq, heq⟩ := tickBody_enlists p now
      rw [heq]
      exact ⟨(has_enlists hq u).1, fun hu => Or.inl (((has_enlists hq u).2 hu).elim id id)⟩
  | tickSyncs now =>
      exact (has_syncKnownHosts p now u).imp_right fun hsync hu => (hsync hu).imp_right Or.inr
  | pollNowSyncs i now q =>
      exact (has_syncKnownHosts p now u).imp_right fun hsync hu => (hsync hu).imp_right Or.inr
  | pollNowStarts i now q hq hphase =>
      obtain ⟨p₁, queue, workers, hp₁, -, -, heq⟩ := startPollNow_enlists p i q now
      rw [heq]
      refine ⟨(has_enlists hp₁ u).1, fun hu => ((has_enlists hp₁ u).2 hu).imp_right fun hu => ?_⟩
      obtain ⟨options, phase, states, errors⟩ := q
      obtain rfl : phase = .synced := hphase
      simp only [asked, hq]
      exact Or.inl hu
  | workerGoesOn i w now q queue workers c r hq hphase =>
      obtain ⟨p₁, queue', worker, hp₁, -, heq⟩ :=
        collectAndTake_enlists p i q queue workers w r now
      rw [heq]
      have hqueue := hp.queues q (List.mem_of_getElem? hq) queue workers hphase u
      exact ⟨(has_enlists hp₁ u).1, fun hu => Or.inl (((has_enlists hp₁ u).2 hu).elim id hqueue)⟩
  | pollReads t reply now random uuid task reading ht =>
      exact ⟨fun hu => (has_modifyMeta _ _ _ _).trans hu,
        fun hu => Or.inl ((has_modifyMeta _ _ _ _).symm.trans hu)⟩
  | pollFails t reply now random uuid task e ht =>
      refine ⟨fun hu => has_applyFailure ((has_modifyMeta _ _ _ _).trans hu), fun hu => Or.inl ?_⟩
      rcases has_of_applyFailure hu with hu | rfl
      · exact hu
      · exact hp.noted.state t uuid task ht
  | telemetrySkips t reply now uuid task ht =>
      exact ⟨fun hu => (has_modifyMeta _ _ _ _).trans hu,
        fun hu => Or.inl ((has_modifyMeta _ _ _ _).symm.trans hu)⟩
  | telemetryReads t reply now uuid task host parsed ht =>
      exact ⟨fun hu => (has_modifyMeta _ _ _ _).trans hu,
        fun hu => Or.inl ((has_modifyMeta _ _ _ _).symm.trans hu)⟩
  | telemetryFails t reply now uuid task e ht =>
      exact ⟨fun hu => (has_modifyMeta _ _ _ _).trans hu,
        fun hu => Or.inl ((has_modifyMeta _ _ _ _).symm.trans hu)⟩
  | recoveryEnds i reply now r found =>
      rw [has_endRecovery]
      exact ⟨id, Or.inl⟩
  | _ => exact ⟨id, Or.inl⟩

/-- There is a meta of every requested device, once it is boosted. -/
lemma has_of_requested {q : PollNow} {i : ℕ} {now : ℤ} (hp : p.Rooted) {u : String}
    (hu : u ∈ p.requestedUuids q.options) : (p.startPollNow i q now).metaByUuid.has u = true := by
  have hboosted : ((p.requestedUuids q.options).foldl (fun m uuid => boostMeta m uuid now)
      p.metaByUuid).has u = true := by
    rw [has_foldl_boostMeta]
    have hu' := hu
    rw [requestedUuids] at hu'
    split at hu'
    · obtain ⟨-, hne⟩ := List.mem_filter.mp (List.mem_eraseDups.mp hu')
      exact Or.inr ⟨of_decide_eq_true hne, hu⟩
    · exact Or.inl (hp.known u ((OrdMap.mem_keys_iff _).mp hu'))
  have hworkers : ∀ n boosted, boosted.metaByUuid.has u = true →
      (startWorkers q.options now n boosted (p.requestedUuids q.options)).1.metaByUuid.has u =
        true := by
    intro n boosted
    exact (has_enlists (enlists_startWorkers q.options now n boosted _ fun _ h => h) u).1
  exact hworkers _ _ hboosted

/-! ### What the poller tracks -/

lemma states_step (hp : p.Rooted) (h : p.step a = some p') (u : String) (s : DeviceStateDto)
    (hs : p'.stateByUuid.get u = some s) : p'.metaByUuid.has u = true := by
  rw [step_stateByUuid h u] at hs
  refine (metas_step hp h u).1 ?_
  split at hs
  next c hc =>
    split at hs
    next hkey =>
      obtain ⟨reply, random, task, rfl, ht, -⟩ := completion_eq_some hc
      exact hkey ▸ hp.noted.state c.task c.uuid task ht
    next => exact hp.states u s hs
  next => exact hp.states u s hs

lemma power_step (hp : p.Rooted) (h : p.step a = some p') (u : String) (r : DevicePowerDto)
    (hr : p'.powerByUuid.get u = some r) : p'.metaByUuid.has u = true := by
  rw [powerByUuid_step h] at hr
  refine (metas_step hp h u).1 ?_
  split at hr
  next m hm =>
    rw [OrdMap.get_set] at hr
    split at hr
    next hkey =>
      obtain ⟨t, task, ht⟩ := exists_running_of_measurement hm
      exact hkey ▸ hp.noted.power t m.uuid task ht
    next => exact hp.power u r hr
  next => exact hp.power u r hr

lemma recoveries_step (hp : p.Rooted) (h : p.step a = some p') (u : String)
    (hu : u ∈ p'.ledger.recovering) : p'.metaByUuid.has u = true := by
  have hledger := ledger_step hp.noted h
  refine (metas_step hp h u).1 ?_
  split at hledger
  next c hc =>
    rw [hledger, Ledger.poll] at hu
    split_ifs at hu
    · rcases List.mem_append.mp hu with hu | hu
      · exact hp.recoveries u hu
      · obtain rfl := List.mem_singleton.mp hu
        obtain ⟨reply, random, task, rfl, ht, -⟩ := completion_eq_some hc
        exact hp.noted.state c.task c.uuid task ht
    · exact hp.recoveries u hu
  next =>
    rcases hledger with hledger | ⟨i, reply, now, r, outcome, -, -, -, hledger⟩
    · exact hp.recoveries u (hledger ▸ hu)
    · rw [hledger] at hu
      exact hp.recoveries u (List.mem_of_mem_eraseIdx hu)

omit [Runtime] in
/-- The events about devices are about the device of the poll that ends. -/
lemma has_of_deviceEvent (hp : p.Noted) {e : StreamEvent} (he : e ∈ p.deviceEvents a) {u : String}
    (hu : u ∈ e.uuids) : p.metaByUuid.has u = true := by
  rw [deviceEvents] at he
  split at he
  next c hc =>
    have huuids : e.uuids = [c.uuid] := by
      cases hchanged : hasMaterialStateChange (p.stateByUuid.get c.uuid) (p.nextState c) with
      | true =>
          rcases events_of_changed hchanged with hevents | hevents <;> rw [hevents] at he
          · obtain rfl := List.mem_singleton.mp he
            simp [StreamEvent.uuids]
          · rcases List.mem_pair.mp he with rfl | rfl <;> simp [StreamEvent.uuids]
      | false =>
          rw [events_of_unchanged hchanged] at he
          cases he
    rw [huuids, List.mem_singleton] at hu
    obtain ⟨reply, random, task, -, ht, -⟩ := completion_eq_some hc
    exact hu ▸ hp.state c.task c.uuid task ht
  next => cases he

omit [Runtime] in
/-- The events about measurements are about the device of the telemetry poll that ends. -/
lemma has_of_powerEvent (hp : p.Noted) {e : StreamEvent} (he : e ∈ p.powerEvents a) {u : String}
    (hu : u ∈ e.uuids) : p.metaByUuid.has u = true := by
  rw [powerEvents] at he
  split at he
  next m hm =>
    have huuids : e.uuids = [m.uuid] := by
      split at he
      · split_ifs at he
        · obtain rfl := List.mem_singleton.mp he
          simp [StreamEvent.uuids]
        · cases he
      · simp only [powerFailureEvents] at he
        rcases List.mem_append.mp he with he | he
        · obtain ⟨-, he⟩ := List.mem_ite_nil_right.mp he
          obtain rfl := List.mem_singleton.mp he
          simp [StreamEvent.uuids]
        · obtain ⟨-, he⟩ := List.mem_ite_nil_right.mp he
          obtain rfl := List.mem_singleton.mp he
          simp [StreamEvent.uuids]
    rw [huuids, List.mem_singleton] at hu
    obtain ⟨t, task, ht⟩ := exists_running_of_measurement hm
    exact hu ▸ hp.power t m.uuid task ht
  next => cases he

/-- What a new subscriber is sent is about devices in the stores. -/
lemma has_of_greeting (hp : p.Rooted) {e : StreamEvent} (he : e ∈ p.greeting) {u : String}
    (hu : u ∈ e.uuids) : p.metaByUuid.has u = true := by
  simp only [greeting, List.mem_cons, List.not_mem_nil, or_false] at he
  rcases he with rfl | rfl | rfl
  · obtain ⟨s, hs, rfl⟩ := List.mem_map.mp hu
    obtain ⟨key, hkey⟩ := (OrdMap.mem_values_iff _).mp ((List.mem_insertionSort _).mp hs)
    exact hp.keyed.state key s hkey ▸ hp.states key s hkey
  · obtain ⟨r, hr, rfl⟩ := List.mem_map.mp hu
    obtain ⟨key, hkey⟩ := (OrdMap.mem_values_iff _).mp ((List.mem_insertionSort _).mp hr)
    exact hp.powerKept.key key r hkey ▸ hp.power key r hkey
  · cases hu

lemma sent_step (hp : p.Rooted) (h : p.step a = some p') (id : ℕ) (sent : List StreamEvent)
    (hsent : p'.subscribers.get id = some sent) (e : StreamEvent) (he : e ∈ sent) (u : String)
    (hu : u ∈ e.uuids) : p'.metaByUuid.has u = true := by
  refine (metas_step hp h u).1 ?_
  have hsends := sends_step h
  generalize p'.subscribers = subscribers', p'.nextSubscriberId = next' at hsends hsent
  cases hsends with
  | broadcasts _ es hes hpower =>
      rw [get_broadcasts] at hsent
      obtain ⟨old, hold, rfl⟩ := Option.map_eq_some_iff.mp hsent
      rcases List.mem_append.mp he with he | he
      · exact hp.sent id old hold e he u hu
      · cases hdevice : e.isDevice with
        | true =>
            exact has_of_deviceEvent hp.noted (hes ▸ List.mem_filter.mpr ⟨he, hdevice⟩) hu
        | false =>
            cases hmeasured : e.isPower with
            | true =>
                exact has_of_powerEvent hp.noted (hpower ▸ List.mem_filter.mpr ⟨he, hmeasured⟩) hu
            | false =>
                rw [StreamEvent.uuids_eq_nil hdevice hmeasured] at hu
                cases hu
  | push id' now =>
      rw [get_pushToSubscriber] at hsent
      obtain ⟨old, hold, rfl⟩ := Option.map_eq_some_iff.mp hsent
      rcases List.mem_append.mp he with he | he
      · exact hp.sent id old hold e he u hu
      · obtain ⟨-, he⟩ := List.mem_ite_nil_right.mp he
        obtain rfl := List.mem_singleton.mp he
        cases hu
  | connect =>
      rw [OrdMap.get_set] at hsent
      split at hsent
      · obtain rfl := Option.some.inj hsent
        exact has_of_greeting hp he hu
      · exact hp.sent id sent hsent e he u hu
  | cancel id' =>
      rw [OrdMap.get_erase] at hsent
      split at hsent
      · cases hsent
      · exact hp.sent id sent hsent e he u hu

lemma known_step (hp : p.Rooted) (h : p.step a = some p') (u : String)
    (hu : p'.knownHosts.has u = true) : p'.metaByUuid.has u = true := by
  have hmetas := (metas_step hp h u).1
  cases stretch_of_step h with
  | tick now =>
      obtain ⟨q, ⟨f, tf, metas, -, -, rfl⟩, heq⟩ := tickBody_eq p now
      exact hmetas (hp.known u (by rwa [heq] at hu))
  | tickGoesOn now =>
      obtain ⟨q, ⟨f, tf, metas, -, -, rfl⟩, heq⟩ := tickBody_eq p now
      exact hmetas (hp.known u (by rwa [heq] at hu))
  | tickSyncs now => exact known_syncKnownHosts p now hu
  | pollNowSyncs i now q => exact known_syncKnownHosts p now hu
  | pollNowStarts i now q =>
      obtain ⟨_, _, _, ⟨f, tf, metas, -, -, rfl⟩, -, heq⟩ := startPollNow_eq p i q now
      exact hmetas (hp.known u (by rwa [heq] at hu))
  | workerGoesOn i w now q queue workers c r =>
      obtain ⟨_, _, _, ⟨f, tf, metas, -, -, rfl⟩, -, heq⟩ :=
        collectAndTake_eq p i q queue workers w r now
      exact hmetas (hp.known u (by rwa [heq] at hu))
  | pollFails t reply now random uuid task e ht hprog =>
      obtain ⟨resolving, recoveries, metas, heq⟩ :=
        applyFailure_eq p t uuid task e.message now random
      exact hmetas (hp.known u (by rwa [heq] at hu))
  | recoveryEnds i reply now r found hr hprog =>
      refine hmetas ?_
      have hrecovering : r.uuid ∈ p.ledger.recovering :=
        List.mem_map_of_mem (List.mem_of_getElem? hr)
      generalize found.toOption.getD none = host at hu
      cases host with
      | none => exact hp.known u hu
      | some h =>
          simp only [endRecovery, OrdMap.has_set, Bool.or_eq_true, decide_eq_true_eq] at hu
          exact hu.elim (fun hkey => hkey ▸ hp.recoveries r.uuid hrecovering) (hp.known u)
  | _ => exact hmetas (hp.known u hu)

lemma queues_step (hp : p.Rooted) (h : p.step a = some p') (q' : PollNow) (hq' : q' ∈ p'.pollNows)
    (queue : List String) (workers : List Worker) (hphase : q'.phase = .polling queue workers)
    (u : String) (hu : u ∈ queue) : p'.metaByUuid.has u = true := by
  have hmetas := (metas_step hp h u).1
  rcases mem_pollNows_step h hq' with ⟨q, hq, hproceeds⟩ | ⟨options, -, rfl⟩
  · cases hproceeds with
    | stays => exact hmetas (hp.queues _ hq queue workers hphase u hu)
    | syncs => cases hphase
    | starts i now queue₁ workers₁ hsynced hstart htakes =>
        obtain ⟨rfl, rfl⟩ := PollNowPhase.polling.inj hphase
        rw [hstart]
        exact has_of_requested hp (htakes.rest hu)
    | works queue₀ queue₁ workers₀ w c worker r hpolling hw hc htakes =>
        obtain ⟨rfl, -⟩ := PollNowPhase.polling.inj hphase
        exact hmetas (hp.queues q hq queue₀ workers₀ hpolling u (htakes.rest hu))
    | returns => cases hphase
  · cases hphase

lemma Rooted.step (hp : p.Rooted) (h : p.step a = some p') : p'.Rooted where
  noted := hp.noted.step h
  keyed := hp.keyed.step h
  powerKept := hp.powerKept.step h
  states := states_step hp h
  power := power_step hp h
  known := known_step hp h
  queues := queues_step hp h
  recoveries := recoveries_step hp h
  sent := sent_step hp h

end Poller

end Merossity
