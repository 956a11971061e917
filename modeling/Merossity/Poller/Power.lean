import Merossity.Poller.Steps

/-!
What a telemetry poll that ends does to the measurements.

* `measurement` is the telemetry poll that ends in a step, `nextPower` the entry that it makes, and
  `powerEvents` are the `device_power` and `device_power_stale` events that it broadcasts.
* `powerByUuid_step`: only a telemetry poll that ends changes the measurements, and only at its
  device.
* `shown_of_unchanged`: an entry that is not broadcast shows what was shown before, unless the
  device `movesUnnoticed`: the test of a change does not compare the host and the channel.
-/

namespace Merossity

open Js

/-- A telemetry poll that ends with a measurement, or fails. -/
structure Measurement where
  uuid : String
  reason : PowerSource
  outcome : Except JsError (String × LanElectricityState)
  now : ℤ

namespace Poller

/-- The telemetry poll that ends in a step. A device without a meter has no measurement. -/
def measurement (p : Poller) : Act → Option Measurement
  | .telemetryGoesOn t reply now => match p.telemetryInFlight.running t with
    | some (uuid, task) => match p.resume reply task.prog with
      | some (.ret (.ok (some read))) => some ⟨uuid, task.reason, .ok read, now⟩
      | some (.ret (.error e)) => some ⟨uuid, task.reason, .error e, now⟩
      | _ => none
    | none => none
  | _ => none

/-- The entry that a telemetry poll makes: `next` and `staleNext`. -/
def nextPower (p : Poller) (m : Measurement) : DevicePowerDto :=
  let prev := p.powerByUuid.get m.uuid
  match m.outcome with
  | .ok (host, parsed) =>
      { uuid := m.uuid, host, channel := parsed.channel
        voltageV := parsed.voltageV, currentA := parsed.currentA, powerW := parsed.powerW
        voltageDv := parsed.voltageDv, currentMa := parsed.currentMa, powerMw := parsed.powerMw
        updatedAt := nextTelemetryUpdatedAt prev m.now
        source := m.reason, stale := false, error := none }
  | .error e =>
      { uuid := m.uuid
        host := (prev.map DevicePowerDto.host).getD
          (((p.knownHosts.get m.uuid).map KnownHost.host).getD "")
        channel := (prev.map DevicePowerDto.channel).getD 0
        voltageV := prev.bind DevicePowerDto.voltageV
        currentA := prev.bind DevicePowerDto.currentA
        powerW := prev.bind DevicePowerDto.powerW
        voltageDv := prev.bind DevicePowerDto.voltageDv
        currentMa := prev.bind DevicePowerDto.currentMa
        powerMw := prev.bind DevicePowerDto.powerMw
        updatedAt := nextTelemetryUpdatedAt prev m.now
        source := m.reason, stale := true, error := some e.message }

/-- The two tests of a change, after a measurement and after a failure. -/
def powerChanged (prev : Option DevicePowerDto) (next : DevicePowerDto) : Bool :=
  match prev with
  | none => true
  | some prev =>
      if next.stale then prev.stale ≠ next.stale || prev.error ≠ next.error ||
        prev.powerW ≠ next.powerW
      else prev.stale ≠ next.stale || prev.powerW ≠ next.powerW ||
        prev.voltageV ≠ next.voltageV || prev.currentA ≠ next.currentA

/-- The events about measurements that a step broadcasts. -/
def powerEvents (p : Poller) (a : Act) : List StreamEvent :=
  match p.measurement a with
  | some m => match m.outcome with
    | .ok _ => if powerChanged (p.powerByUuid.get m.uuid) (p.nextPower m) then
        [.devicePower (p.nextPower m)] else []
    | .error _ => powerFailureEvents (p.powerByUuid.get m.uuid) (p.nextPower m)
  | none => []

@[simp] lemma nextPower_uuid (p : Poller) (m : Measurement) : (p.nextPower m).uuid = m.uuid := by
  obtain ⟨uuid, reason, outcome, now⟩ := m
  cases outcome <;> rfl

@[simp] lemma nextPower_updatedAt (p : Poller) (m : Measurement) : (p.nextPower m).updatedAt =
    nextTelemetryUpdatedAt (p.powerByUuid.get m.uuid) m.now := by
  obtain ⟨uuid, reason, outcome, now⟩ := m
  cases outcome <;> rfl

/-! ### What is shown of a measurement -/

/-- What a client keeps of a measurement, apart from its time. -/
structure PowerReading where
  host : String
  channel : ℕ
  voltageV : Option ℚ
  currentA : Option ℚ
  powerW : Option ℚ
  stale : Bool
  error : Option String
  deriving DecidableEq

end Poller

def DevicePowerDto.shown (r : DevicePowerDto) : Poller.PowerReading where
  host := r.host
  channel := r.channel
  voltageV := r.voltageV
  currentA := r.currentA
  powerW := r.powerW
  stale := r.stale
  error := r.error

namespace Poller

/-- A device has moved to another host, or measures another channel, and the measurement has the
values of the last one. -/
def movesUnnoticed (p : Poller) (m : Measurement) : Bool :=
  match m.outcome, p.powerByUuid.get m.uuid with
  | .ok (host, parsed), some prev =>
      !prev.stale && prev.powerW = parsed.powerW && prev.voltageV = parsed.voltageV &&
        prev.currentA = parsed.currentA && (prev.host ≠ host || prev.channel ≠ parsed.channel)
  | _, _ => false

/-- An entry is stored under its uuid, and is stale exactly if it has an error. -/
structure PowerKept (p : Poller) : Prop where
  key : ∀ uuid r, p.powerByUuid.get uuid = some r → r.uuid = uuid
  stale : ∀ uuid r, p.powerByUuid.get uuid = some r → r.stale = r.error.isSome

lemma powerKept_init (file : FileText) : (init file).PowerKept where
  key _ _ h := by cases h
  stale _ _ h := by cases h

/-- The test after a measurement. -/
lemma powerChanged_eq_false_of_fresh {prev next : DevicePowerDto} (hnext : next.stale = false) :
    powerChanged (some prev) next = false ↔ prev.stale = next.stale ∧ prev.powerW = next.powerW ∧
      prev.voltageV = next.voltageV ∧ prev.currentA = next.currentA := by
  simp [powerChanged, hnext, and_assoc]

/-- The test after a failure. -/
lemma powerChanged_eq_false_of_stale {prev next : DevicePowerDto} (hnext : next.stale = true) :
    powerChanged (some prev) next = false ↔ prev.stale = next.stale ∧ prev.error = next.error ∧
      prev.powerW = next.powerW := by
  simp [powerChanged, hnext, and_assoc]

/-- The events of a failure: one that is announced if it is a change, and one that is about the
device becoming stale. -/
lemma powerFailureEvents_eq {prev : Option DevicePowerDto} {next : DevicePowerDto}
    (hnext : next.stale = true) : ∃ became : Bool, powerFailureEvents prev next =
      (if powerChanged prev next then [.devicePower next] else [])
        ++ (if became then [.devicePowerStale next] else []) := by
  cases prev with
  | none => exact ⟨true, rfl⟩
  | some prev =>
      refine ⟨!prev.stale, ?_⟩
      simp only [powerFailureEvents, powerChanged, hnext, if_true]

/-- What is not broadcast is shown already: a failure keeps all but the error, and a measurement
with the same values keeps the rest as well, but for its place. -/
lemma shown_of_unchanged {p : Poller} {m : Measurement} {prev : DevicePowerDto}
    (hp : p.PowerKept) (hprev : p.powerByUuid.get m.uuid = some prev)
    (hplace : p.movesUnnoticed m = false)
    (h : powerChanged (some prev) (p.nextPower m) = false) :
    prev.shown = (p.nextPower m).shown := by
  have hstale := hp.stale m.uuid prev hprev
  obtain ⟨uuid, reason, outcome, now⟩ := m
  rw [DevicePowerDto.shown, DevicePowerDto.shown, PowerReading.mk.injEq]
  cases outcome with
  | ok read =>
      obtain ⟨host, parsed⟩ := read
      obtain ⟨hfresh, hpower, hvoltage, hcurrent⟩ := (powerChanged_eq_false_of_fresh rfl).mp h
      have hstill : prev.host = host ∧ prev.channel = parsed.channel := by
        have hsame : prev.stale = false ∧ prev.powerW = parsed.powerW ∧
            prev.voltageV = parsed.voltageV ∧ prev.currentA = parsed.currentA :=
          ⟨hfresh, hpower, hvoltage, hcurrent⟩
        have hget : p.powerByUuid.get uuid = some prev := hprev
        simpa [movesUnnoticed, hget, hsame] using hplace
      have herror : prev.error = none := by
        rw [show prev.stale = false from hfresh] at hstale
        exact Option.isNone_iff_eq_none.mp (Option.isSome_eq_false_iff.mp hstale.symm)
      exact ⟨hstill.1, hstill.2, hvoltage, hcurrent, hpower, hfresh, herror⟩
  | error e =>
      obtain ⟨hold, herror, hpower⟩ := (powerChanged_eq_false_of_stale rfl).mp h
      have hget : p.powerByUuid.get uuid = some prev := hprev
      simp only [nextPower, hget, Option.map_some, Option.getD_some, Option.bind_some, true_and]
      exact ⟨hold, herror⟩

/-! ### The measurements -/

section

variable {p : Poller} {t : ℕ} {reply : (c : Call) → Reply c} {now : ℤ} {uuid : String}
  {task : TelemetryTask}

lemma measurement_awaits {prog : Prog Call Reply (Except JsError (Option _))}
    (ht : p.telemetryInFlight.running t = some (uuid, task))
    (hprog : p.resume reply task.prog = some prog) (hret : ∀ r, prog ≠ .ret r) :
    p.measurement (.telemetryGoesOn t reply now) = none := by
  cases prog with
  | ret r => exact absurd rfl (hret r)
  | call c k => simp only [measurement, ht, hprog]

lemma measurement_skips (ht : p.telemetryInFlight.running t = some (uuid, task))
    (hprog : p.resume reply task.prog = some (.ret (.ok none))) :
    p.measurement (.telemetryGoesOn t reply now) = none := by
  simp only [measurement, ht, hprog]

lemma measurement_reads {read : String × LanElectricityState}
    (ht : p.telemetryInFlight.running t = some (uuid, task))
    (hprog : p.resume reply task.prog = some (.ret (.ok (some read)))) :
    p.measurement (.telemetryGoesOn t reply now) = some ⟨uuid, task.reason, .ok read, now⟩ := by
  simp only [measurement, ht, hprog]

lemma measurement_fails {e : JsError} (ht : p.telemetryInFlight.running t = some (uuid, task))
    (hprog : p.resume reply task.prog = some (.ret (.error e))) :
    p.measurement (.telemetryGoesOn t reply now) = some ⟨uuid, task.reason, .error e, now⟩ := by
  simp only [measurement, ht, hprog]

/-- A measurement is made by a poll that was under way. -/
lemma exists_running_of_measurement {a : Act} {m : Measurement} (h : p.measurement a = some m) :
    ∃ t task, p.telemetryInFlight.running t = some (m.uuid, task) := by
  cases a with
  | telemetryGoesOn t reply now =>
      simp only [measurement] at h
      split at h
      next uuid task ht =>
        split at h
        next => exact ⟨t, task, Option.some.inj h ▸ ht⟩
        next => exact ⟨t, task, Option.some.inj h ▸ ht⟩
        next => cases h
      next => cases h
  | _ => cases h

end

variable [Runtime]

/-- What a step writes of the measurements. -/
theorem powerByUuid_step {p p' : Poller} {a : Act} (h : p.step a = some p') :
    p'.powerByUuid = match p.measurement a with
      | some m => p.powerByUuid.set m.uuid (p.nextPower m)
      | none => p.powerByUuid := by
  cases stretch_of_step h with
  | tick now => exact (loops_tickBody p now).powerByUuid
  | tickGoesOn now => exact (loops_tickBody p now).powerByUuid
  | pollNowStarts i now q => exact (loops_startPollNow p i q now).powerByUuid
  | workerGoesOn i w now q queue workers c r =>
      exact (loops_collectAndTake p i q queue workers w r now).powerByUuid
  | pollFails t reply now random key task e ht hprog =>
      obtain ⟨resolving, recoveries, metas, heq⟩ :=
        applyFailure_eq p t key task e.message now random
      rw [heq]
      rfl
  | telemetryAwaits t reply now uuid task prog ht hprog hret =>
      rw [measurement_awaits ht hprog hret]
  | telemetrySkips t reply now uuid task ht hprog =>
      rw [measurement_skips ht hprog]
      rfl
  | telemetryReads t reply now uuid task host parsed ht hprog =>
      rw [measurement_reads ht hprog]
      rfl
  | telemetryFails t reply now uuid task e ht hprog =>
      rw [measurement_fails ht hprog]
      rfl
  | _ => rfl

lemma PowerKept.step {p p' : Poller} {a : Act} (hp : p.PowerKept) (h : p.step a = some p') :
    p'.PowerKept := by
  have hpower := powerByUuid_step h
  have hset : ∀ (P : String → DevicePowerDto → Prop),
      (∀ uuid r, p.powerByUuid.get uuid = some r → P uuid r) →
        (∀ m, p.measurement a = some m → P m.uuid (p.nextPower m)) →
          ∀ uuid r, p'.powerByUuid.get uuid = some r → P uuid r := by
    intro P hold hnew uuid r hr
    rw [hpower] at hr
    split at hr
    next m hm =>
      rw [OrdMap.get_set] at hr
      split at hr
      next hkey => exact hkey ▸ Option.some.inj hr ▸ hnew m hm
      next => exact hold uuid r hr
    next => exact hold uuid r hr
  refine ⟨hset _ hp.key fun m _ => nextPower_uuid p m, hset _ hp.stale fun m _ => ?_⟩
  obtain ⟨uuid, reason, outcome, now⟩ := m
  cases outcome <;> rfl

end Poller

end Merossity
