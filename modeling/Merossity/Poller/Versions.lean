import Merossity.Lib.Versions
import Merossity.Poller.Power
import Merossity.Poller.SingleFlight
import Merossity.Poller.Store

/-!
The versions of states and measurements.

* `Logged` is the poller with a log of the events about devices that it broadcasts, and of the
  measurements that it writes.
* `versions_increase`: whatever the clock says, the versions of the `device_state` events of a
  device increase, and so do those of its measurements; a `device_stale` event follows the
  `device_state` event about the same state; and no version of the store decreases.
-/

namespace Merossity

open Js Machine

namespace Poller

/-! ### Measurements -/

/-- The device and the time of a measurement that is written in a step. -/
def powerWrite (p : Poller) : Act → Option (String × ℤ)
  | .telemetryGoesOn t reply now => match p.telemetryInFlight.running t with
    | some (uuid, task) => match p.resume reply task.prog with
      | some (.ret (.ok none)) => none
      | some (.ret _) => some (uuid, now)
      | _ => none
    | none => none
  | _ => none

/-- The measurements that are written in a step, which leads to `p'`. -/
def powerWrites (p p' : Poller) (a : Act) : List DevicePowerDto :=
  ((p.powerWrite a).bind fun w => p'.powerByUuid.get w.1).toList

/-- It is that of the telemetry poll that ends. -/
lemma powerWrite_eq (p : Poller) (a : Act) :
    p.powerWrite a = (p.measurement a).map fun m => (m.uuid, m.now) := by
  cases a with
  | telemetryGoesOn t reply now =>
      cases ht : p.telemetryInFlight.running t with
      | none => simp only [powerWrite, measurement, ht, Option.map_none]
      | some run =>
          obtain ⟨uuid, task⟩ := run
          cases hprog : p.resume reply task.prog with
          | none => simp only [powerWrite, measurement, ht, hprog, Option.map_none]
          | some prog =>
              simp only [powerWrite, measurement, ht, hprog]
              rcases prog with (e | _ | read) | ⟨c, k⟩ <;> rfl
  | _ => rfl

/-- What a step writes of the measurements. -/
theorem step_powerByUuid [Runtime] {p p' : Poller} {a : Act} (h : p.step a = some p') :
    match p.powerWrite a with
    | some (uuid, now) => ∃ next : DevicePowerDto,
        p'.powerByUuid = p.powerByUuid.set uuid next ∧ next.uuid = uuid ∧
          next.updatedAt = nextTelemetryUpdatedAt (p.powerByUuid.get uuid) now
    | none => p'.powerByUuid = p.powerByUuid := by
  have hpower := powerByUuid_step h
  rw [powerWrite_eq]
  cases hm : p.measurement a with
  | none =>
      rw [hm] at hpower
      exact hpower
  | some m =>
      rw [hm] at hpower
      exact ⟨p.nextPower m, hpower, nextPower_uuid p m, nextPower_updatedAt p m⟩

/-! ### Versions -/

/-- The version of a device in the store. -/
def stateVersion (p : Poller) (uuid : String) : Option ℤ :=
  (p.stateByUuid.get uuid).map DeviceStateDto.updatedAt

/-- The version of the measurement of a device. -/
def powerVersion (p : Poller) (uuid : String) : Option ℤ :=
  (p.powerByUuid.get uuid).map DevicePowerDto.updatedAt

lemma lt_nextUpdatedAt {prev : Option DeviceStateDto} {s : DeviceStateDto} (now : ℤ)
    (h : prev = some s) : s.updatedAt < nextUpdatedAt prev now := by
  subst h
  have hle : s.updatedAt + 1 ≤ nextUpdatedAt (some s) now := le_max_right _ _
  omega

lemma lt_nextTelemetryUpdatedAt {prev : Option DevicePowerDto} {r : DevicePowerDto} (now : ℤ)
    (h : prev = some r) : r.updatedAt < nextTelemetryUpdatedAt prev now := by
  subst h
  have hle : r.updatedAt + 1 ≤ nextTelemetryUpdatedAt (some r) now := le_max_right _ _
  omega

/-- What a poll stores has at least the version that was there. -/
lemma le_stored (p : Poller) (c : Completion) {s : DeviceStateDto}
    (hs : p.stateByUuid.get c.uuid = some s) : s.updatedAt ≤ (p.stored c).updatedAt := by
  cases hchanged : hasMaterialStateChange (p.stateByUuid.get c.uuid) (p.nextState c) with
  | true =>
      rw [stored_of_changed hchanged, nextState_updatedAt]
      exact (lt_nextUpdatedAt c.now hs).le
  | false =>
      rw [hs] at hchanged
      rw [stored_of_unchanged hs hchanged]
      split <;> rfl

/-- No version of the store decreases in a step. -/
lemma grows_stateVersion [Runtime] {p p' : Poller} {a : Act} (h : p.step a = some p') :
    Versions.Grows p.stateVersion p'.stateVersion := by
  intro uuid v hv
  obtain ⟨s, hs, rfl⟩ := Option.map_eq_some_iff.mp hv
  rw [stateVersion, step_stateByUuid h uuid]
  split
  next c _ =>
    split
    next hkey => exact ⟨_, rfl, le_stored p c (hkey ▸ hs)⟩
    next => exact ⟨_, hv, le_rfl⟩
  next => exact ⟨_, hv, le_rfl⟩

lemma grows_powerVersion [Runtime] {p p' : Poller} {a : Act} (h : p.step a = some p') :
    Versions.Grows p.powerVersion p'.powerVersion := by
  intro uuid v hv
  obtain ⟨r, hr, rfl⟩ := Option.map_eq_some_iff.mp hv
  have hstep := step_powerByUuid h
  rw [powerVersion]
  split at hstep
  next key now _ =>
    obtain ⟨next, hset, -, hversion⟩ := hstep
    rw [hset, OrdMap.get_set]
    split
    next hkey =>
      subst hkey
      exact ⟨_, rfl, hversion ▸ (lt_nextTelemetryUpdatedAt now hr).le⟩
    next => exact ⟨_, hv, le_rfl⟩
  next =>
    rw [hstep]
    exact ⟨_, hv, le_rfl⟩

end Poller

/-! ### The log -/

/-- The poller, with the events about devices that it has broadcast and the measurements that it
has written. -/
structure Logged where
  poller : Poller
  events : List StreamEvent
  power : List DevicePowerDto

/-- The device and the version that a `device_state` event announces. -/
def announced : StreamEvent → Option (String × ℤ)
  | .deviceState s => some (s.uuid, s.updatedAt)
  | _ => none

/-- Every `device_stale` event follows the `device_state` event about the same state. -/
def Announced (events : List StreamEvent) : Prop :=
  ∀ (i : ℕ) s, events[i]? = some (.deviceStale s) →
    ∃ j, i = j + 1 ∧ events[j]? = some (.deviceState s)

lemma Announced.append {es es' : List StreamEvent} (h : Announced es) (h' : Announced es') :
    Announced (es ++ es') := by
  intro i s hi
  rw [List.getElem?_append] at hi
  split at hi
  next hlt =>
    obtain ⟨j, rfl, hj⟩ := h i s hi
    exact ⟨j, rfl, (List.getElem?_append_left (by omega)).trans hj⟩
  next hge =>
    obtain ⟨j, hj, hes'⟩ := h' _ s hi
    refine ⟨es.length + j, by omega, ?_⟩
    rw [List.getElem?_append_right (by omega), Nat.add_sub_cancel_left]
    exact hes'

lemma announced_nil : Announced [] := fun i s h => by simp at h

lemma announced_events (p : Poller) (c : Completion) : Announced (p.completionEvents c) := by
  cases hchanged : hasMaterialStateChange (p.stateByUuid.get c.uuid) (p.nextState c) with
  | false =>
      rw [Poller.events_of_unchanged hchanged]
      exact announced_nil
  | true =>
      intro i s hi
      rcases Poller.events_of_changed hchanged with hevents | hevents
      · rw [hevents] at hi
        match i, hi with
        | 0, hi => cases hi
      · rw [hevents] at hi ⊢
        match i, hi with
        | 0, hi => cases hi
        | 1, hi =>
            cases hi
            exact ⟨0, rfl, rfl⟩

namespace Logged

def init (file : FileText) : Logged := ⟨.init file, [], []⟩

def step [Runtime] (s : Logged) (a : Act) : Option Logged :=
  (s.poller.step a).map fun p => ⟨p, s.events ++ s.poller.deviceEvents a,
    s.power ++ s.poller.powerWrites p a⟩

/-- The versions that were announced, in order. -/
def stateVersions (s : Logged) : List (String × ℤ) := s.events.filterMap announced

/-- The versions of the measurements that were written, in order. -/
def powerVersions (s : Logged) : List (String × ℤ) := s.power.map fun r => (r.uuid, r.updatedAt)

structure Inv (s : Logged) : Prop where
  states : Versions.Inv s.poller.stateVersion s.stateVersions
  power : Versions.Inv s.poller.powerVersion s.powerVersions
  stale : Announced s.events

lemma inv_init (file : FileText) : (init file).Inv :=
  ⟨Versions.inv_nil _, Versions.inv_nil _, announced_nil⟩

variable [Runtime]

/-- The log of the states grows by a version that is stored, or it does not. -/
lemma states_step {p p' : Poller} {a : Act} {log : List (String × ℤ)}
    (hlog : Versions.Inv p.stateVersion log) (h : p.step a = some p') :
    Versions.Inv p'.stateVersion (log ++ (p.deviceEvents a).filterMap announced) := by
  have hgrows := Poller.grows_stateVersion h
  have hstore := Poller.step_stateByUuid h
  rw [Poller.deviceEvents]
  cases hc : p.completion a with
  | none =>
      rw [List.filterMap_nil, List.append_nil]
      exact hlog.mono hgrows
  | some c =>
      dsimp only
      cases hchanged : hasMaterialStateChange (p.stateByUuid.get c.uuid) (p.nextState c) with
      | false =>
          rw [Poller.events_of_unchanged hchanged, List.filterMap_nil, List.append_nil]
          exact hlog.mono hgrows
      | true =>
          have hversions : (p.completionEvents c).filterMap announced =
              [(c.uuid, nextUpdatedAt (p.stateByUuid.get c.uuid) c.now)] := by
            rcases Poller.events_of_changed hchanged with hevents | hevents <;>
              simp [hevents, announced]
          rw [hversions]
          refine hlog.write hgrows (fun v hv => ?_) ?_
          · obtain ⟨s, hs, rfl⟩ := Option.map_eq_some_iff.mp hv
            exact Poller.lt_nextUpdatedAt c.now hs
          · rw [Poller.stateVersion, hstore, hc]
            simp [Poller.stored_of_changed hchanged]

/-- The log of the measurements grows by what is written. -/
lemma power_step {p p' : Poller} {a : Act} {log : List (String × ℤ)}
    (hlog : Versions.Inv p.powerVersion log) (h : p.step a = some p') :
    Versions.Inv p'.powerVersion
      (log ++ (p.powerWrites p' a).map fun r => (r.uuid, r.updatedAt)) := by
  have hgrows := Poller.grows_powerVersion h
  have hstep := Poller.step_powerByUuid h
  rw [Poller.powerWrites]
  cases hw : p.powerWrite a with
  | none =>
      rw [Option.bind_none, Option.toList_none, List.map_nil, List.append_nil]
      exact hlog.mono hgrows
  | some w =>
      rw [hw] at hstep
      obtain ⟨next, hset, huuid, hversion⟩ := hstep
      have hget : p'.powerByUuid.get w.1 = some next := by rw [hset, OrdMap.get_set_self]
      rw [Option.bind_some, hget]
      refine hlog.write hgrows (fun v hv => ?_) ?_
      · obtain ⟨r, hr, rfl⟩ := Option.map_eq_some_iff.mp hv
        rw [hversion]
        exact Poller.lt_nextTelemetryUpdatedAt w.2 (huuid ▸ hr)
      · rw [Poller.powerVersion, huuid, hget]
        rfl

lemma Inv.step {s s' : Logged} {a : Act} (hs : s.Inv) (h : s.step a = some s') : s'.Inv := by
  obtain ⟨p, hp, rfl⟩ := Option.map_eq_some_iff.mp h
  refine ⟨?_, ?_, hs.stale.append ?_⟩
  · rw [stateVersions, List.filterMap_append]
    exact states_step hs.states hp
  · rw [powerVersions, List.map_append]
    exact power_step hs.power hp
  · rw [Poller.deviceEvents]
    split
    · exact announced_events _ _
    · exact announced_nil

lemma grows_of_reaches {s s' : Logged} (h : Reaches step Always s s') :
    Versions.Grows s.poller.stateVersion s'.poller.stateVersion :=
  h.invariant (I := fun t => Versions.Grows s.poller.stateVersion t.poller.stateVersion)
    (.refl _) fun _ _ _ hgrows _ hstep => by
    obtain ⟨p, hp, rfl⟩ := Option.map_eq_some_iff.mp hstep
    exact hgrows.trans (Poller.grows_stateVersion hp)

end Logged

/-- **Versions increase.** In every run, whatever the clock says: the versions of the
`device_state` events of a device increase, and so do those of the measurements that are written;
a `device_stale` event follows the `device_state` event about the same state; and the version of
a device in the store never decreases. -/
theorem versions_increase [Runtime] (file : FileText) (s s' : Logged)
    (h : Reaches Logged.step Always (Logged.init file) s) (h' : Reaches Logged.step Always s s') :
    (∀ uuid, (Versions.ofKey uuid s.stateVersions).Pairwise (· < ·)) ∧
    (∀ uuid, (Versions.ofKey uuid s.powerVersions).Pairwise (· < ·)) ∧
    Announced s.events ∧
    ∀ uuid e, s.poller.stateByUuid.get uuid = some e →
      ∃ e', s'.poller.stateByUuid.get uuid = some e' ∧ e.updatedAt ≤ e'.updatedAt := by
  have hinv : s.Inv := h.invariant (Logged.inv_init file) fun _ _ _ hs _ hstep => hs.step hstep
  refine ⟨hinv.states.increasing, hinv.power.increasing, hinv.stale, fun uuid e he => ?_⟩
  obtain ⟨v, hv, hle⟩ := Logged.grows_of_reaches h' uuid e.updatedAt
    (by rw [Poller.stateVersion, he]; rfl)
  obtain ⟨e', he', rfl⟩ := Option.map_eq_some_iff.mp hv
  exact ⟨e', he', hle⟩

/-- Two polls of a plug, the second one after the clock was set back. -/
def clockSetBack : List Act :=
  backgroundPoll ++ [.pollGoesOn 0 (deviceSends (plugReply 1)) 6010 0, .pollReturns 0,
    .pollNow (refreshOptions "u"), .pollNowSyncs 0 10, .pollNowStarts 0 10,
    .pollGoesOn 1 silence 10 0, .pollGoesOn 1 silence 10 0,
    .pollGoesOn 1 (deviceSends (plugReply 0)) 10 0]

/-- The versions of that run. -/
theorem versions_increase_plug : let _ := plainRuntime; ∃ s,
    run Logged.step clockSetBack (Logged.init plugConfig) = some s ∧
    s.stateVersions = [("u", 6010), ("u", 6011)] ∧
      (Versions.ofKey "u" s.stateVersions).Pairwise (· < ·) := by
  let _ := plainRuntime
  have hrun : (run Logged.step clockSetBack (Logged.init plugConfig)).map
      Logged.stateVersions = some [("u", 6010), ("u", 6011)] := by decide +kernel
  obtain ⟨s, hs, hversions⟩ := Option.map_eq_some_iff.mp hrun
  exact ⟨s, hs, hversions, (versions_increase plugConfig s s
    (reaches_run clockSetBack (along_always _ _) hs) .refl).1 "u"⟩

end Merossity
