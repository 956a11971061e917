import Merossity.Api.ConfigHandlers
import Merossity.Api.Digest

/-!
The data of the state poller, and its pure functions: the upper half of `api/state-poller.ts`.

* `DeviceReading` is what a poll reads off a reply of the device; a `DeviceStateDto` is a
  reading with what the poller adds to it.
* `hasMaterialStateChange_eq_false`: two states of a device are told apart by their readings
  and by `stale`, and by nothing else.
* `readDevice` and `readPower` are the asynchronous parts of a poll, up to the point from
  which it runs without a further `await`.
* Times are in milliseconds. The text of a time (`nowIso`) is the time itself.
-/

namespace Merossity

open Js

/-! ### Device states -/

inductive DeviceKind where
  | togglex
  | light
  | mixed
  deriving DecidableEq

def DeviceKind.text : DeviceKind → String
  | .togglex => "togglex"
  | .light => "light"
  | .mixed => "mixed"

inductive PollReason where
  | poller
  | manual
  deriving DecidableEq

/-- The part of a device state that is read off a reply of the device, with the host that
replied. -/
structure DeviceReading where
  host : String
  kind : DeviceKind
  channel : ℕ
  onoff : Bool
  channels : List LanToggleXState
  lights : List LanLightState
  light : Option LanLightState
  timerxDigest : List LanScheduleDigestEntry
  triggerxDigest : List LanScheduleDigestEntry
  deriving DecidableEq

structure DeviceStateDto extends DeviceReading where
  uuid : String
  updatedAt : ℤ
  source : PollReason
  stale : Bool
  error : Option String
  deriving DecidableEq

inductive PowerSource where
  | telemetryPoller
  | telemetryManual
  deriving DecidableEq

structure DevicePowerDto where
  uuid : String
  host : String
  channel : ℕ
  voltageV : Option ℚ
  currentA : Option ℚ
  powerW : Option ℚ
  voltageDv : Option ℤ
  currentMa : Option ℤ
  powerMw : Option ℤ
  updatedAt : ℤ
  source : PowerSource
  stale : Bool
  error : Option String

structure PollErrorDto where
  uuid : String
  code : String
  message : String
  «at» : ℤ

structure PollMeta where
  nextDueAt : ℤ
  failureCount : ℕ
  lastSuccessAt : Option ℤ
  lastChangeAt : Option ℤ
  lastResolveAttemptAt : Option ℤ
  boostUntilAt : Option ℤ
  telemetryNextDueAt : ℤ
  telemetryFailureCount : ℕ
  telemetryLastSuccessAt : Option ℤ

/-- The outcome of a poll. -/
inductive PollResult where
  | state (s : DeviceStateDto)
  | error (e : PollErrorDto)

structure KnownHost where
  host : String
  mac : Option String

/-- What is pushed to a subscriber of the event stream, the numbers of `poller_health` apart. -/
inductive StreamEvent where
  | heartbeat («at» : ℤ)
  | snapshot (states : List DeviceStateDto)
  | powerSnapshot (readings : List DevicePowerDto)
  | pollerHealth
  | deviceState (s : DeviceStateDto)
  | deviceStale (s : DeviceStateDto)
  | devicePower (r : DevicePowerDto)
  | devicePowerStale (r : DevicePowerDto)

/-! ### Intervals -/

def DEFAULT_POLL_TIMEOUT_MS : ℚ := 2500
def POLL_MAX_CONCURRENCY : ℕ := 6
def STABLE_INTERVAL_MS : ℤ := 45000
def HOT_INTERVAL_MS : ℤ := 12000
def BOOST_INTERVAL_MS : ℤ := 8000
def TELEMETRY_MAX_CONCURRENCY : ℕ := 4
def HOT_WINDOW_MS : ℤ := 2 * 60000
def BOOST_WINDOW_MS : ℤ := 30000
def SYNC_HOSTS_EVERY_MS : ℤ := 5000
def RESOLVE_COOLDOWN_MS : ℤ := 5 * 60000
def HEALTH_BROADCAST_EVERY_MS : ℤ := 5000
def FAILURE_BACKOFF_SEQUENCE_MS : List ℤ := [30000, 60000, 120000, 300000]

/-- `TELEMETRY_INTERVAL_MS`, which is read off the environment. -/
def telemetryIntervalMs [Runtime] : ℤ :=
  match Runtime.env "MEROSS_TELEMETRY_INTERVAL_MS" with
  | none => 10000
  | some text => match numberOfString text with
    | .fin raw => if raw ≤ 0 then 10000 else max 2000 (Number.round raw)
    | _ => 10000

def failureBackoffMs (failureCount : ℕ) : ℤ :=
  if failureCount = 0 then 0
  else FAILURE_BACKOFF_SEQUENCE_MS.getD
    (min (FAILURE_BACKOFF_SEQUENCE_MS.length - 1) (failureCount - 1)) 0

def withJitterMs (baseMs : ℤ) (percent randomValue : ℚ) : ℤ :=
  let boundedPercent := max 0 (min percent 1)
  let delta := Number.rounded (baseMs * boundedPercent)
  let centered := Number.rounded (Number.rounded (max 0 (min randomValue 1) * 2 - 1) * delta)
  max 1000 (Number.round (Number.rounded (baseMs + centered)))

/-- `t && now < t`, of a time in the future. -/
def isAhead (t : Option ℤ) (now : ℤ) : Bool :=
  match t with
  | none => false
  | some t => t ≠ 0 && now < t

/-- `t && now - t < window`, of a time in the past. -/
def isWithin (t : Option ℤ) (now window : ℤ) : Bool :=
  match t with
  | none => false
  | some t => t ≠ 0 && now - t < window

def nextIntervalMs (pm : PollMeta) (now : ℤ) (random : ℚ) : ℤ :=
  if 0 < pm.failureCount then failureBackoffMs pm.failureCount
  else if isAhead pm.boostUntilAt now then
    withJitterMs BOOST_INTERVAL_MS (Number.rounded (1 / 10)) random
  else if isWithin pm.lastChangeAt now HOT_WINDOW_MS then
    withJitterMs HOT_INTERVAL_MS (Number.rounded (15 / 100)) random
  else withJitterMs STABLE_INTERVAL_MS (Number.rounded (15 / 100)) random

def createMeta (now : ℤ) : PollMeta where
  nextDueAt := now
  failureCount := 0
  lastSuccessAt := none
  lastChangeAt := none
  lastResolveAttemptAt := none
  boostUntilAt := none
  telemetryNextDueAt := now
  telemetryFailureCount := 0
  telemetryLastSuccessAt := none

def nextUpdatedAt (prev : Option DeviceStateDto) (now : ℤ) : ℤ :=
  match prev with
  | none => now
  | some prev => max now (prev.updatedAt + 1)

def nextTelemetryUpdatedAt (prev : Option DevicePowerDto) (now : ℤ) : ℤ :=
  match prev with
  | none => now
  | some prev => max now (prev.updatedAt + 1)

/-! ### Material changes -/

/-- Two lists of the same length with the same items. -/
def sameItems {α : Type} (same : α → α → Bool) : List α → List α → Bool
  | [], [] => true
  | a :: as, b :: bs => same a b && sameItems same as bs
  | _, _ => false

lemma sameItems_iff {α : Type} {same : α → α → Bool} (h : ∀ a b, same a b = true ↔ a = b) :
    ∀ as bs : List α, sameItems same as bs = true ↔ as = bs
  | [], [] => by simp [sameItems]
  | [], b :: bs => by simp [sameItems]
  | a :: as, [] => by simp [sameItems]
  | a :: as, b :: bs => by simp [sameItems, h, sameItems_iff h as bs]

/-- `sameChannels`. -/
def sameChannels : List LanToggleXState → List LanToggleXState → Bool :=
  sameItems fun a b => a.channel = b.channel && a.onoff = b.onoff

/-- `sameScheduleDigest`. -/
def sameScheduleDigest : List LanScheduleDigestEntry → List LanScheduleDigestEntry → Bool :=
  sameItems fun a b => a.channel = b.channel && a.id = b.id && a.count = b.count

/-- The comparison of two lights. An attribute that is absent is the same as `null`. -/
def sameLight (a b : LanLightState) : Bool :=
  a.channel = b.channel && a.onoff = b.onoff && a.luminance = b.luminance &&
    a.temperature = b.temperature && a.rgb = b.rgb

/-- The comparison of the primary lights. -/
def samePrimaryLight : Option LanLightState → Option LanLightState → Bool
  | none, none => true
  | some a, some b => sameLight a b
  | _, _ => false

/-- `hasMaterialStateChange`. -/
def hasMaterialStateChange (prev : Option DeviceStateDto) (next : DeviceStateDto) : Bool :=
  match prev with
  | none => true
  | some prev =>
      prev.host ≠ next.host || prev.kind ≠ next.kind || prev.channel ≠ next.channel ||
        prev.onoff ≠ next.onoff || prev.stale ≠ next.stale ||
        !sameChannels prev.channels next.channels ||
        !sameScheduleDigest prev.timerxDigest next.timerxDigest ||
        !sameScheduleDigest prev.triggerxDigest next.triggerxDigest ||
        !sameItems sameLight prev.lights next.lights || !samePrimaryLight prev.light next.light

/-- What a client sees of a state: the reading, and whether it is stale. -/
def DeviceStateDto.visible (s : DeviceStateDto) : DeviceReading × Bool :=
  (s.toDeviceReading, s.stale)

lemma sameChannels_iff (as bs : List LanToggleXState) : sameChannels as bs = true ↔ as = bs := by
  refine sameItems_iff (fun a b => ?_) as bs
  rw [LanToggleXState.mk.injEq]
  simp

lemma sameScheduleDigest_iff (as bs : List LanScheduleDigestEntry) :
    sameScheduleDigest as bs = true ↔ as = bs := by
  refine sameItems_iff (fun a b => ?_) as bs
  rw [LanScheduleDigestEntry.mk.injEq]
  simp [and_assoc]

lemma sameLight_iff (a b : LanLightState) : sameLight a b = true ↔ a = b := by
  rw [LanLightState.mk.injEq]
  simp [sameLight, and_assoc]

lemma samePrimaryLight_iff (a b : Option LanLightState) : samePrimaryLight a b = true ↔ a = b := by
  cases a <;> cases b <;> simp [samePrimaryLight, sameLight_iff]

/-- No material change is to be the same for every client. -/
lemma hasMaterialStateChange_eq_false (prev next : DeviceStateDto) :
    hasMaterialStateChange (some prev) next = false ↔ prev.visible = next.visible := by
  have hlights := sameItems_iff sameLight_iff prev.lights next.lights
  rw [DeviceStateDto.visible, DeviceStateDto.visible, Prod.mk.injEq, DeviceReading.mk.injEq]
  simp only [hasMaterialStateChange, Bool.or_eq_false_iff, Bool.not_eq_false',
    decide_eq_false_iff_not, not_not, sameChannels_iff, sameScheduleDigest_iff, hlights,
    samePrimaryLight_iff]
  tauto

/-! ### Errors -/

/-- `pollCodeFromError`. -/
def pollCodeFromError (message : String) : String :=
  let m := toLowerCase message
  if includes m "missing meross key" then "missing_key"
  else if includes m "no lan host known" then "host_unavailable"
  else if includes m "state unavailable" || includes m "togglex state not found" ||
      includes m "device state not found" then "state_unavailable"
  else "lan_error"

/-! ### Reading a device -/

/-- An entry of `hosts` with a host. The addresses are strings. -/
def knownHostOf (entry : Option Json) : Option KnownHost :=
  match Json.opt entry "host" with
  | some (.str host) =>
      if host = "" then none
      else some { host, mac := ((Json.opt entry "mac").bind Json.str?).filter (· ≠ "") }
  | _ => none

/-- The host that a poll asks, or an error. -/
def requireHost (cfg : Json) (uuid : String) : Async String :=
  match knownHostOf (hostOf cfg uuid) with
  | some known => return known.host
  | none => throwNew "No LAN host known for device uuid. Resolve host first."

/-- `getSystemAll`. -/
def getSystemAll (host key : Json) (timeoutMs : Option Number) : Async Json :=
  postLan "Appliance.System.All" "GET" (.obj []) host key timeoutMs

/-- `getElectricity` of the first channel. -/
def getElectricity (host key : Json) (timeoutMs : Option Number) : Async Json :=
  postLan "Appliance.Control.Electricity" "GET"
    (.obj [("electricity", .obj [("channel", .num (.fin 0))])]) host key timeoutMs

/-- `normalizeChannels`. -/
def normalizeChannels (channels : List LanToggleXState) : List LanToggleXState :=
  sortByChannel LanToggleXState.channel channels

variable [Runtime]

/-- What `pollDevice` reads off a reply. -/
def deviceReading (host : String) (resp : Json) : Except String DeviceReading := do
  let channels := normalizeChannels ((← extractLanToggleX resp).getD [])
  let lights := (← extractLanLight resp).getD []
  if channels.isEmpty && lights.isEmpty then
    throw "Device state not found in Appliance.System.All digest (state unavailable)."
  let light0 := (lights.find? fun l => l.channel = 0).or lights.head?
  let ch0 := (channels.find? fun c => c.channel = 0).or channels.head?
  let primary := (light0.map fun l => (l.channel, l.onoff)).or
    (ch0.map fun c => (c.channel, c.onoff))
  match primary with
  | none => throw "Device state unavailable (no channels)."
  | some (channel, onoff) =>
      let kind := match light0, ch0 with
        | some _, some _ => DeviceKind.mixed
        | some _, none => DeviceKind.light
        | none, _ => DeviceKind.togglex
      let timerxDigest ← extractLanTimerXDigest resp
      let triggerxDigest ← extractLanTriggerXDigest resp
      return { host, kind, channel, onoff, channels, lights, light := light0, timerxDigest,
               triggerxDigest }

/-- The asynchronous part of `pollDevice`. -/
def readDevice (uuid : String) (timeoutMs : Option Number) : Async DeviceReading := do
  let cfg ← readConfig
  let host ← requireHost cfg uuid
  let key ← requireLanKey
  let resp ← getSystemAll (.str host) key (some (timeoutMs.getD (.fin DEFAULT_POLL_TIMEOUT_MS)))
  eval (deviceReading host resp)

/-- A device of the cloud list that has no meter. -/
def hasNoMeter (cloudModel : String) : Bool :=
  cloudModel ≠ "" && !(startsWith cloudModel "MSS" || startsWith cloudModel "MSP" ||
    includes cloudModel "MSS")

/-- The asynchronous part of `pollTelemetry`: the host and its measurement, or nothing for a
device without a meter. -/
def readPower (uuid : String) (timeoutMs : Option Number) :
    Async (Option (String × LanElectricityState)) := do
  let cfg ← readConfig
  let host ← requireHost cfg uuid
  let cloudDevice ← eval (findCloudDevice false cfg uuid)
  let deviceType ← eval (toText (coalesce (Json.opt cloudDevice "deviceType") (some (.str ""))))
  if hasNoMeter (toUpperCase (trim deviceType)) then return none
  else
    let key ← requireLanKey
    let resp ← getElectricity (.str host) key (some (timeoutMs.getD (.fin DEFAULT_POLL_TIMEOUT_MS)))
    match extractLanElectricity resp with
    | some parsed => return some (host, parsed)
    | none => throwNew "Electricity data unavailable (namespace unsupported or empty payload)."

end Merossity
