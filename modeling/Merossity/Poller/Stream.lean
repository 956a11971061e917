import Merossity.Lib.Replica
import Merossity.Poller.Power
import Merossity.Poller.SingleFlight
import Merossity.Poller.Store

/-!
The event stream.

* `sends_step` is what a step does to the subscribers, and `step_sent`: every subscriber is sent
  the events about devices and those about measurements that the step broadcasts.
* `view` is what is seen of a device in a map of device states, and `seeAt` what an event makes
  of it. `view_step`: the events of a step make of what is seen of the store before the step what
  is seen after it.
-/

namespace Merossity

open Js Machine

/-! ### Events about devices -/

/-- An event about the states of devices. -/
def StreamEvent.isDevice : StreamEvent → Bool
  | .snapshot _ => true
  | .deviceState _ => true
  | .deviceStale _ => true
  | _ => false

/-- An event about measurements. -/
def StreamEvent.isPower : StreamEvent → Bool
  | .powerSnapshot _ => true
  | .devicePower _ => true
  | .devicePowerStale _ => true
  | _ => false

namespace Poller

/-! ### What is sent -/

/-- Every subscriber is sent the events that are broadcast. -/
lemma get_broadcast (e : StreamEvent) (subscribers : OrdMap ℕ (List StreamEvent)) (id : ℕ) :
    (broadcast e subscribers).get id = (subscribers.get id).map (· ++ [e]) :=
  OrdMap.get_mapValues _ _ _

lemma get_broadcasts (es : List StreamEvent) (subscribers : OrdMap ℕ (List StreamEvent)) (id : ℕ) :
    (es.foldl (fun s e => broadcast e s) subscribers).get id =
      (subscribers.get id).map (· ++ es) := by
  induction es generalizing subscribers with
  | nil => simp
  | cons e es ih =>
      rw [List.foldl_cons, ih, get_broadcast, Option.map_map]
      congr 1
      funext sent
      simp

lemma get_pushToSubscriber (id : ℕ) (e : StreamEvent) (subscribers : OrdMap ℕ (List StreamEvent))
    (id' : ℕ) : (pushToSubscriber id e subscribers).get id' =
      (subscribers.get id').map (· ++ if id = id' then [e] else []) := by
  rw [pushToSubscriber]
  by_cases h : id = id'
  · subst h
    cases hget : subscribers.get id with
    | none => exact hget
    | some sent => simp
  · rw [if_neg h]
    cases subscribers.get id with
    | none => simp
    | some sent => simp [OrdMap.get_set_of_ne _ h]

/-- What a step does to the subscribers, and to the identifier of the next one. -/
inductive Sends [Runtime] (p : Poller) : Act → OrdMap ℕ (List StreamEvent) → ℕ → Prop where
  | broadcasts (a : Act) (es : List StreamEvent)
      (hes : es.filter StreamEvent.isDevice = p.deviceEvents a)
      (hpower : es.filter StreamEvent.isPower = p.powerEvents a) :
      Sends p a (es.foldl (fun s e => broadcast e s) p.subscribers) p.nextSubscriberId
  | push (id : ℕ) (now : ℤ) : Sends p (.heartbeat id now)
      (pushToSubscriber id (.heartbeat now) p.subscribers) p.nextSubscriberId
  | connect :
      Sends p .connect (p.subscribers.set p.nextSubscriberId p.greeting) (p.nextSubscriberId + 1)
  | cancel (id : ℕ) : Sends p (.cancel id) (p.subscribers.erase id) p.nextSubscriberId

lemma filter_readingEvents (prev : Option DeviceStateDto) (next : DeviceStateDto) :
    (readingEvents prev next).filter StreamEvent.isDevice = readingEvents prev next ∧
      (readingEvents prev next).filter StreamEvent.isPower = [] := by
  rw [readingEvents]
  split <;> exact ⟨rfl, rfl⟩

lemma filter_failureEvents (prev : Option DeviceStateDto) (next : DeviceStateDto) :
    (failureEvents prev next).filter StreamEvent.isDevice = failureEvents prev next ∧
      (failureEvents prev next).filter StreamEvent.isPower = [] := by
  rw [failureEvents]
  split <;> split <;> exact ⟨rfl, rfl⟩

lemma subscribers_applyReading (p : Poller) (t : ℕ) (uuid : String) (task : PollTask)
    (reading : DeviceReading) (now : ℤ) (random : ℚ) :
    (p.applyReading t uuid task reading now random).subscribers =
      (readingEvents (p.stateByUuid.get uuid) (p.readState uuid task.reason reading now)).foldl
        (fun s e => broadcast e s) p.subscribers := by
  simp only [applyReading, readingEvents]
  split <;> rfl

lemma filter_powerEvents (p : Poller) (a : Act) :
    (p.powerEvents a).filter StreamEvent.isDevice = [] ∧
      (p.powerEvents a).filter StreamEvent.isPower = p.powerEvents a := by
  rw [powerEvents]
  split
  · split
    · split <;> exact ⟨rfl, rfl⟩
    · simp only [powerFailureEvents]
      split_ifs <;> exact ⟨rfl, rfl⟩
  · exact ⟨rfl, rfl⟩

variable [Runtime]

lemma subscribers_applyPower (p : Poller) (t : ℕ) (uuid : String) (task : TelemetryTask)
    (host : String) (parsed : LanElectricityState) (now : ℤ) :
    (p.applyPower t uuid task host parsed now).subscribers =
      (if powerChanged (p.powerByUuid.get uuid)
          (p.nextPower ⟨uuid, task.reason, .ok (host, parsed), now⟩) then
        [.devicePower (p.nextPower ⟨uuid, task.reason, .ok (host, parsed), now⟩)] else []).foldl
        (fun s e => broadcast e s) p.subscribers := by
  have htest : (p.applyPower t uuid task host parsed now).subscribers =
      if powerChanged (p.powerByUuid.get uuid)
          (p.nextPower ⟨uuid, task.reason, .ok (host, parsed), now⟩) then
        broadcast (.devicePower (p.nextPower ⟨uuid, task.reason, .ok (host, parsed), now⟩))
          p.subscribers
      else p.subscribers := by
    simp only [applyPower, powerChanged, nextPower]
    cases p.powerByUuid.get uuid <;> rfl
  rw [htest]
  split <;> rfl

lemma sends_endTick (p : Poller) {q : Poller} (h : Starts p q) (now : ℤ) (a : Act)
    (ha : p.deviceEvents a = []) (ha' : p.powerEvents a = []) :
    Sends p a (q.endTick now).subscribers (q.endTick now).nextSubscriberId := by
  obtain ⟨f, tf, metas, -, -, rfl⟩ := h
  simp only [endTick]
  split
  · exact .broadcasts a [.pollerHealth] ha.symm ha'.symm
  · exact .broadcasts a [] ha.symm ha'.symm

/-- A step broadcasts its events, or it is about one subscriber. -/
theorem sends_step {p p' : Poller} {a : Act} (h : p.step a = some p') :
    Sends p a p'.subscribers p'.nextSubscriberId := by
  cases stretch_of_step h with
  | connect => exact .connect
  | cancel id => exact .cancel id
  | heartbeat id now => exact .push id now
  | tick now =>
      obtain ⟨q, hq, heq⟩ := tickBody_eq p now
      rw [heq]
      exact sends_endTick p hq now _ rfl rfl
  | tickGoesOn now =>
      obtain ⟨q, hq, heq⟩ := tickBody_eq p now
      rw [heq]
      exact sends_endTick p hq now _ rfl rfl
  | pollNowStarts i now q =>
      obtain ⟨_, _, _, ⟨f, tf, metas, -, -, rfl⟩, -, heq⟩ := startPollNow_eq p i q now
      rw [heq]
      exact .broadcasts _ [] rfl rfl
  | workerGoesOn i w now q queue workers c r =>
      obtain ⟨_, _, _, ⟨f, tf, metas, -, -, rfl⟩, -, heq⟩ :=
        collectAndTake_eq p i q queue workers w r now
      rw [heq]
      exact .broadcasts _ [] rfl rfl
  | pollAwaits t reply now random uuid task prog ht hprog hret =>
      refine .broadcasts _ [] ?_ rfl
      rw [deviceEvents, completion_awaits ht hprog hret]
      rfl
  | pollReads t reply now random uuid task reading ht hprog =>
      rw [subscribers_applyReading]
      refine .broadcasts _ _ ?_ (filter_readingEvents _ _).2
      rw [(filter_readingEvents _ _).1, deviceEvents, completion_ends ht hprog]
      rfl
  | pollFails t reply now random uuid task e ht hprog =>
      obtain ⟨resolving, recoveries, metas, heq⟩ :=
        applyFailure_eq p t uuid task e.message now random
      rw [heq]
      refine .broadcasts _ (failureEvents (p.stateByUuid.get uuid) _) ?_
        (filter_failureEvents _ _).2
      rw [(filter_failureEvents _ _).1, deviceEvents, completion_ends ht hprog]
      rfl
  | telemetryAwaits t reply now uuid task prog ht hprog hret =>
      refine .broadcasts _ [] rfl ?_
      rw [powerEvents, measurement_awaits ht hprog hret]
      rfl
  | telemetrySkips t reply now uuid task ht hprog =>
      refine .broadcasts _ [] rfl ?_
      rw [powerEvents, measurement_skips ht hprog]
      rfl
  | telemetryReads t reply now uuid task host parsed ht hprog =>
      have hevents : (p.applyPower t uuid task host parsed now).subscribers =
          (p.powerEvents (.telemetryGoesOn t reply now)).foldl
            (fun s e => broadcast e s) p.subscribers := by
        rw [subscribers_applyPower, powerEvents, measurement_reads ht hprog]
      rw [hevents]
      exact .broadcasts _ _ (filter_powerEvents p _).1 (filter_powerEvents p _).2
  | telemetryFails t reply now uuid task e ht hprog =>
      have hevents : (p.failPower t uuid task e.message now).subscribers =
          (p.powerEvents (.telemetryGoesOn t reply now)).foldl
            (fun s e => broadcast e s) p.subscribers := by
        rw [powerEvents, measurement_fails ht hprog]
        rfl
      rw [hevents]
      exact .broadcasts _ _ (filter_powerEvents p _).1 (filter_powerEvents p _).2
  | _ => exact .broadcasts _ [] rfl rfl

/-- Every subscriber that stays is sent the events of a step, and no others about devices or
measurements. -/
theorem step_sent {p p' : Poller} {a : Act} (h : p.step a = some p') {id : ℕ}
    {sent : List StreamEvent} (hsent : p.subscribers.get id = some sent) (hcancel : a ≠ .cancel id)
    (hnew : id ≠ p.nextSubscriberId) : ∃ new,
    p'.subscribers.get id = some (sent ++ new) ∧
      new.filter StreamEvent.isDevice = p.deviceEvents a ∧
        new.filter StreamEvent.isPower = p.powerEvents a := by
  have hsends := sends_step h
  generalize p'.subscribers = subscribers', p'.nextSubscriberId = next' at hsends ⊢
  cases hsends with
  | broadcasts _ es hes hpower => exact ⟨es, by rw [get_broadcasts, hsent]; rfl, hes, hpower⟩
  | push id' now =>
      refine ⟨_, by rw [get_pushToSubscriber, hsent]; rfl, ?_⟩
      split <;> exact ⟨rfl, rfl⟩
  | connect =>
      exact ⟨[], by rw [OrdMap.get_set_of_ne _ hnew.symm, hsent, List.append_nil], rfl, rfl⟩
  | cancel id' =>
      have hne : id' ≠ id := fun hid => hcancel (hid ▸ rfl)
      exact ⟨[], by rw [OrdMap.get_erase, if_neg hne, hsent, List.append_nil], rfl, rfl⟩

/-- Identifiers of subscribers are not used twice. -/
def FreshIds (p : Poller) : Prop := ∀ id, p.nextSubscriberId ≤ id → p.subscribers.get id = none

omit [Runtime] in
lemma freshIds_init (file : FileText) : (init file).FreshIds := fun _ _ => rfl

lemma FreshIds.step {p p' : Poller} {a : Act} (hp : p.FreshIds) (h : p.step a = some p') :
    p'.FreshIds := by
  intro id
  have hsends := sends_step h
  generalize p'.subscribers = subscribers', p'.nextSubscriberId = next' at hsends ⊢
  cases hsends with
  | broadcasts _ es hes hpower =>
      intro hid
      rw [get_broadcasts, hp id hid]
      rfl
  | push id' now =>
      intro hid
      rw [get_pushToSubscriber, hp id hid]
      rfl
  | connect =>
      intro hid
      have hlt : p.nextSubscriberId < id := hid
      rw [OrdMap.get_set_of_ne _ hlt.ne, hp id hlt.le]
  | cancel id' =>
      intro hid
      rw [OrdMap.get_erase, hp id hid, ite_self]

end Poller

/-! ### What is seen of a device -/

/-- What is seen of a device in a map of device states. -/
def view (states : OrdMap String DeviceStateDto) (uuid : String) : Option (DeviceReading × Bool) :=
  (states.get uuid).map DeviceStateDto.visible

/-- What an entry makes of what is seen of a device. -/
def seeState (uuid : String) (v : Option (DeviceReading × Bool)) (s : DeviceStateDto) :
    Option (DeviceReading × Bool) :=
  if s.uuid = uuid then some s.visible else v

/-- What an event makes of what is seen of a device. -/
def seeAt (uuid : String) (v : Option (DeviceReading × Bool)) :
    StreamEvent → Option (DeviceReading × Bool)
  | .snapshot states => states.foldl (seeState uuid) v
  | .deviceState s => seeState uuid v s
  | .deviceStale s => seeState uuid v s
  | _ => v

lemma seeState_eq (uuid : String) :
    seeState uuid = Replica.overwrite DeviceStateDto.uuid DeviceStateDto.visible uuid := rfl

lemma view_set {states : OrdMap String DeviceStateDto} {s : DeviceStateDto} {key : String}
    (hs : s.uuid = key) (uuid : String) :
    view (states.set key s) uuid = seeState uuid (view states uuid) s := by
  subst hs
  exact Replica.shown_set states s

/-- A device that is seen stays seen. -/
lemma isSome_seeAt {uuid : String} {v : Option (DeviceReading × Bool)} (e : StreamEvent)
    (hv : v.isSome) : (seeAt uuid v e).isSome := by
  cases e with
  | snapshot states => exact Replica.isSome_foldl_overwrite states hv
  | deviceState s => exact Replica.isSome_overwrite hv
  | deviceStale s => exact Replica.isSome_overwrite hv
  | _ => exact hv

lemma isSome_pending {uuid : String} {v : Option (DeviceReading × Bool)} (sent : List StreamEvent)
    (n : ℕ) (hv : v.isSome) : (Replica.pending (seeAt uuid) v sent n).isSome :=
  List.foldlRecOn (motive := fun v => v.isSome = true) (sent.drop n) (seeAt uuid) hv
    fun _ hv e _ => isSome_seeAt e hv

namespace Poller

/-- The snapshot shows the store. -/
lemma seeAt_greeting [Runtime] {p : Poller} (hp : p.Keyed) {uuid : String}
    {v : Option (DeviceReading × Bool)} (hv : v.isSome → (view p.stateByUuid uuid).isSome) :
    p.greeting.foldl (seeAt uuid) v = view p.stateByUuid uuid := by
  obtain ⟨sorted, readings, hperm, hgreeting⟩ : ∃ sorted readings,
      sorted.Perm p.stateByUuid.values ∧
        p.greeting = [.snapshot sorted, .powerSnapshot readings, .pollerHealth] :=
    ⟨_, _, List.perm_insertionSort _ _, rfl⟩
  rw [hgreeting]
  show sorted.foldl (seeState uuid) v = _
  rw [seeState_eq]
  exact Replica.foldl_overwrite_snapshot hp.state hperm hv

/-! ### What the events of a step say -/

/-- A material change is shown by the events of a poll. -/
lemma foldl_events_of_changed {p : Poller} {c : Completion}
    (h : hasMaterialStateChange (p.stateByUuid.get c.uuid) (p.nextState c) = true) (uuid : String)
    (v : Option (DeviceReading × Bool)) :
    (p.completionEvents c).foldl (seeAt uuid) v = seeState uuid v (p.nextState c) := by
  rcases events_of_changed h with hevents | hevents
  · rw [hevents]
    rfl
  · rw [hevents]
    exact Replica.overwrite_overwrite (p.nextState c)

/-- **The events of a step.** They make of what is seen of the store before the step what is
seen after it. -/
theorem view_step [Runtime] {p p' : Poller} {a : Act} (h : p.step a = some p') (uuid : String) :
    view p'.stateByUuid uuid = (p.deviceEvents a).foldl (seeAt uuid) (view p.stateByUuid uuid) := by
  rw [view, step_stateByUuid h uuid, deviceEvents]
  cases p.completion a with
  | none => rfl
  | some c =>
      dsimp only
      cases hchanged : hasMaterialStateChange (p.stateByUuid.get c.uuid) (p.nextState c) with
      | true =>
          rw [foldl_events_of_changed hchanged, stored_of_changed hchanged, seeState,
            nextState_uuid]
          split <;> rfl
      | false =>
          obtain ⟨s, hs, hvisible⟩ := eq_some_of_unchanged hchanged
          rw [events_of_unchanged hchanged]
          rw [hs] at hchanged
          rw [stored_of_unchanged hs hchanged]
          split
          next huuid =>
            subst huuid
            rw [List.foldl_nil, view, hs]
            split <;> rfl
          next => rfl

end Poller

end Merossity
