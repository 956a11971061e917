import Merossity.Lib.Flight
import Merossity.Lib.Machine
import Merossity.Poller.State

/-!
The state poller as a machine: `StatePollerServiceImpl` of `api/state-poller.ts`.

Asynchronous functions interleave only where they await. An `Act` is one stretch of code
between two awaits: a timer fires, a call comes in, or something that was awaited is there.
Within one stretch the clock is read once (`now`), and what the poller awaits from outside
comes with the action (`reply`), except for the configuration file, which is part of the state
and may change at any time (`fileChanges`).

* `inFlight` and `telemetryInFlight` are the two maps of polls under way, with all polls and
  calls so far.
* `PollNow` is a call of `pollNow` with its workers, `Recovery` a run of `tryResolveHost`.
* `step` is the machine.
-/

namespace Merossity

open Js

/-! ### What is under way -/

/-- A state poll: why and when it was started, and what it still has to do before the stretch
that ends it. -/
structure PollTask where
  reason : PollReason
  startedAt : ℤ
  prog : Prog Call Reply (Except JsError DeviceReading)

/-- A telemetry poll. -/
structure TelemetryTask where
  reason : PowerSource
  startedAt : ℤ
  prog : Prog Call Reply (Except JsError (Option (String × LanElectricityState)))

/-- A recovery of a host. -/
structure Recovery where
  uuid : String
  prog : Prog Call Reply (Except JsError (Option (String × Option String)))

/-- The options of `pollNow`. -/
structure PollOptions where
  uuids : Option (List String)
  reason : Option PollReason
  timeoutMs : Option Number

/-- A worker of `pollNow` awaits a call of `pollDevice`, or has ended. -/
inductive Worker where
  | awaiting (call : ℕ)
  | finished

/-- How far a call of `pollNow` has come. -/
inductive PollNowPhase where
  | syncing
  | synced
  | polling (queue : List String) (workers : List Worker)
  | returned (polledAt : ℤ)

/-- A call of `pollNow`, with the states and errors collected so far. -/
structure PollNow where
  options : PollOptions
  phase : PollNowPhase
  states : List DeviceStateDto
  errors : List PollErrorDto

/-- `tickBusy`, and what a busy tick awaits. -/
inductive TickPhase where
  | idle
  | syncing
  | synced

/-- The state of the service. A subscriber is the list of the events pushed to it. -/
structure Poller where
  file : FileText
  stateByUuid : OrdMap String DeviceStateDto
  metaByUuid : OrdMap String PollMeta
  knownHosts : OrdMap String KnownHost
  inFlight : Flight String PollTask PollResult
  powerByUuid : OrdMap String DevicePowerDto
  telemetryInFlight : Flight String TelemetryTask (Option DevicePowerDto)
  resolving : List String
  recoveries : List Recovery
  subscribers : OrdMap ℕ (List StreamEvent)
  lastSyncHostsAt : ℤ
  lastHealthBroadcastAt : ℤ
  tick : TickPhase
  nextSubscriberId : ℕ
  pollNows : List PollNow

/-- What happens next. -/
inductive Act where
  | fileChanges (text : FileText)
  | boostDevice (uuid : String) (now : ℤ)
  | connect
  | cancel (id : ℕ)
  | heartbeat (id : ℕ) (now : ℤ)
  | tick (now : ℤ)
  | tickSyncs (now : ℤ)
  | tickGoesOn (now : ℤ)
  | pollNow (options : PollOptions)
  | pollNowSyncs (i : ℕ) (now : ℤ)
  | pollNowStarts (i : ℕ) (now : ℤ)
  | workerGoesOn (i w : ℕ) (now : ℤ)
  | pollNowReturns (i : ℕ) (now : ℤ)
  | pollGoesOn (t : ℕ) (reply : (c : Call) → Reply c) (now : ℤ) (random : ℚ)
  | pollReturns (c : ℕ)
  | telemetryGoesOn (t : ℕ) (reply : (c : Call) → Reply c) (now : ℤ)
  | telemetryReturns (c : ℕ)
  | recoveryGoesOn (i : ℕ) (reply : (c : Call) → Reply c) (now : ℤ)

/-! ### Metas and subscribers -/

/-- `ensureMeta`. -/
def ensureMeta (metas : OrdMap String PollMeta) (uuid : String) (now : ℤ) :
    OrdMap String PollMeta :=
  if metas.has uuid then metas else metas.set uuid (createMeta now)

/-- A change of a meta that is there. -/
def modifyMeta (metas : OrdMap String PollMeta) (uuid : String) (f : PollMeta → PollMeta) :
    OrdMap String PollMeta :=
  match metas.get uuid with
  | some pm => metas.set uuid (f pm)
  | none => metas

/-- `boostDevice`. -/
def boostMeta (metas : OrdMap String PollMeta) (uuid : String) (now : ℤ) :
    OrdMap String PollMeta :=
  if uuid = "" then metas
  else modifyMeta (ensureMeta metas uuid now) uuid fun pm =>
    { pm with boostUntilAt := some (now + BOOST_WINDOW_MS), nextDueAt := now }

/-- `broadcast`. -/
def broadcast (e : StreamEvent) (subscribers : OrdMap ℕ (List StreamEvent)) :
    OrdMap ℕ (List StreamEvent) :=
  subscribers.mapValues (· ++ [e])

/-- `pushToSubscriber`. -/
def pushToSubscriber (id : ℕ) (e : StreamEvent) (subscribers : OrdMap ℕ (List StreamEvent)) :
    OrdMap ℕ (List StreamEvent) :=
  match subscribers.get id with
  | some sent => subscribers.set id (sent ++ [e])
  | none => subscribers

namespace Poller

/-- The service when it is constructed. -/
def init (file : FileText) : Poller where
  file := file
  stateByUuid := OrdMap.empty
  metaByUuid := OrdMap.empty
  knownHosts := OrdMap.empty
  inFlight := Flight.empty
  powerByUuid := OrdMap.empty
  telemetryInFlight := Flight.empty
  resolving := []
  recoveries := []
  subscribers := OrdMap.empty
  lastSyncHostsAt := 0
  lastHealthBroadcastAt := 0
  tick := .idle
  nextSubscriberId := 1
  pollNows := []

/-- The reply to a call: a read sees the file as it is. -/
def answer (p : Poller) (reply : (c : Call) → Reply c) : (c : Call) → Reply c
  | .readFile => p.file
  | c => reply c

/-- A program goes on with the reply to its call. -/
def resume {α : Type} (p : Poller) (reply : (c : Call) → Reply c) :
    Prog Call Reply α → Option (Prog Call Reply α)
  | .call c k => some (k (p.answer reply c))
  | .ret _ => none

/-- `syncKnownHosts`, when the configuration has been read. -/
def syncKnownHosts (p : Poller) (now : ℤ) : Poller :=
  let hosts := (sectionFields (loadMerossConfig p.file) .hosts).filterMap fun e =>
    (knownHostOf (some e.2)).map fun known => (e.1, known)
  { p with
    lastSyncHostsAt := now
    knownHosts := hosts.foldl (fun m e => m.set e.1 e.2) OrdMap.empty
    metaByUuid := hosts.foldl (fun m e => ensureMeta m e.1 now) p.metaByUuid }

/-! ### State polls -/

/-- `tryResolveHost` up to its first `await`. -/
def startRecovery (p : Poller) (uuid : String) (now : ℤ) : Poller :=
  let metas := ensureMeta p.metaByUuid uuid now
  let last := (metas.get uuid).bind PollMeta.lastResolveAttemptAt
  let recent := isWithin last now RESOLVE_COOLDOWN_MS
  if p.resolving.contains uuid then p
  else if recent then { p with metaByUuid := metas }
  else
    { p with
      resolving := p.resolving ++ [uuid]
      recoveries := p.recoveries ++ [⟨uuid, (tryResolveHost uuid).run⟩]
      metaByUuid := modifyMeta metas uuid fun pm => { pm with lastResolveAttemptAt := some now } }

/-- `pollDevice` up to its first `await`: the call joins the poll that is registered, or
starts one. -/
def pollDevice [Runtime] (p : Poller) (uuid : String) (reason : PollReason)
    (timeoutMs : Option Number) (now : ℤ) : Poller :=
  { p with
    inFlight := p.inFlight.enter uuid ⟨reason, now, (readDevice uuid timeoutMs).run⟩
    metaByUuid := if p.inFlight.entries.has uuid then p.metaByUuid
      else ensureMeta p.metaByUuid uuid now }

/-- The state that a successful poll has read. -/
def readState (p : Poller) (uuid : String) (reason : PollReason) (reading : DeviceReading)
    (now : ℤ) : DeviceStateDto :=
  { reading with
    uuid
    updatedAt := nextUpdatedAt (p.stateByUuid.get uuid) now
    source := reason
    stale := false
    error := none }

/-- The reading of a device of which there is none yet. -/
def unknownReading (p : Poller) (uuid : String) : DeviceReading where
  host := ((p.knownHosts.get uuid).map KnownHost.host).getD ""
  kind := .togglex
  channel := 0
  onoff := false
  channels := []
  lights := []
  light := none
  timerxDigest := []
  triggerxDigest := []

/-- `staleNext`, the state that a failed poll makes of the last one. -/
def staleState (p : Poller) (uuid : String) (reason : PollReason) (message : String) (now : ℤ) :
    DeviceStateDto :=
  { ((p.stateByUuid.get uuid).map DeviceStateDto.toDeviceReading).getD (p.unknownReading uuid) with
    uuid
    updatedAt := nextUpdatedAt (p.stateByUuid.get uuid) now
    source := reason
    stale := true
    error := some message }

/-- What is stored after a successful poll: the state that was read, and without a material
change the last one. -/
def storedState (prev : Option DeviceStateDto) (next : DeviceStateDto) : DeviceStateDto :=
  if hasMaterialStateChange prev next then next
  else match prev with
    | none => next
    | some prev => { prev with source := next.source }

/-- The stretch that ends a successful poll. -/
def applyReading (p : Poller) (t : ℕ) (uuid : String) (task : PollTask) (reading : DeviceReading)
    (now : ℤ) (random : ℚ) : Poller :=
  let prev := p.stateByUuid.get uuid
  let next := p.readState uuid task.reason reading now
  let changed := hasMaterialStateChange prev next
  { p with
    stateByUuid := p.stateByUuid.set uuid (storedState prev next)
    subscribers := if changed then broadcast (.deviceState next) p.subscribers else p.subscribers
    metaByUuid := modifyMeta p.metaByUuid uuid fun pm =>
      let pm := { pm with
        lastChangeAt := if changed then some task.startedAt else pm.lastChangeAt
        failureCount := 0
        lastSuccessAt := some task.startedAt }
      { pm with nextDueAt := task.startedAt + nextIntervalMs pm task.startedAt random }
    inFlight := p.inFlight.advance t (.settled (.state (storedState prev next))) }

/-- A device goes from not stale to stale. -/
def becameStale (prev : Option DeviceStateDto) : Bool :=
  match prev with
  | none => true
  | some prev => !prev.stale

/-- The events of a failed poll. -/
def failureEvents (prev : Option DeviceStateDto) (staleNext : DeviceStateDto) : List StreamEvent :=
  (if hasMaterialStateChange prev staleNext then [.deviceState staleNext] else [])
    ++ (if becameStale prev then [.deviceStale staleNext] else [])

/-- The stretch that ends a failed poll, apart from the recovery of the host. -/
def noteFailure (p : Poller) (t : ℕ) (uuid : String) (task : PollTask) (message : String)
    (now : ℤ) (random : ℚ) : Poller :=
  let prev := p.stateByUuid.get uuid
  let staleNext := p.staleState uuid task.reason message now
  { p with
    metaByUuid := modifyMeta p.metaByUuid uuid fun pm =>
      let pm := { pm with failureCount := pm.failureCount + 1 }
      { pm with nextDueAt := task.startedAt + nextIntervalMs pm task.startedAt random }
    stateByUuid := if hasMaterialStateChange prev staleNext || prev.isNone then
      p.stateByUuid.set uuid staleNext else p.stateByUuid
    subscribers := (failureEvents prev staleNext).foldl (fun s e => broadcast e s) p.subscribers
    inFlight := p.inFlight.advance t (.settled (.error
      { uuid, code := pollCodeFromError message, message, «at» := now })) }

/-- The stretch that ends a failed poll. -/
def applyFailure (p : Poller) (t : ℕ) (uuid : String) (task : PollTask) (message : String)
    (now : ℤ) (random : ℚ) : Poller :=
  let noted := p.noteFailure t uuid task message now random
  if 3 ≤ ((noted.metaByUuid.get uuid).map PollMeta.failureCount).getD 0 then
    noted.startRecovery uuid now
  else noted

/-- A poll goes on with a reply. -/
def pollGoesOn (p : Poller) (t : ℕ) (reply : (c : Call) → Reply c) (now : ℤ) (random : ℚ) :
    Option Poller :=
  match p.inFlight.running t with
  | some (uuid, task) => match p.resume reply task.prog with
    | some (.ret (.ok reading)) => some (p.applyReading t uuid task reading now random)
    | some (.ret (.error e)) => some (p.applyFailure t uuid task e.message now random)
    | some prog => some { p with inFlight := p.inFlight.advance t (.running { task with prog }) }
    | none => none
  | none => none

/-- A call of `pollDevice` returns; the call that started the poll deletes the entry. -/
def pollReturns (p : Poller) (c : ℕ) : Option Poller :=
  (p.inFlight.leave c).map fun f => { p with inFlight := f }

/-! ### Telemetry polls -/

/-- `pollTelemetry` up to its first `await`. -/
def pollTelemetry [Runtime] (p : Poller) (uuid : String) (reason : PowerSource)
    (timeoutMs : Option Number) (now : ℤ) : Poller :=
  { p with
    telemetryInFlight :=
      p.telemetryInFlight.enter uuid ⟨reason, now, (readPower uuid timeoutMs).run⟩
    metaByUuid := if p.telemetryInFlight.entries.has uuid then p.metaByUuid
      else ensureMeta p.metaByUuid uuid now }

/-- `scheduleNext`. -/
def scheduleNext [Runtime] (startedAt : ℤ) (pm : PollMeta) : PollMeta :=
  let backoff :=
    if 0 < pm.telemetryFailureCount then failureBackoffMs pm.telemetryFailureCount else 0
  { pm with telemetryNextDueAt := startedAt + max telemetryIntervalMs backoff }

/-- The stretch that ends the poll of a device without a meter. -/
def skipPower [Runtime] (p : Poller) (t : ℕ) (uuid : String) (task : TelemetryTask) : Poller :=
  { p with
    metaByUuid := modifyMeta p.metaByUuid uuid fun pm =>
      { pm with telemetryNextDueAt := task.startedAt + max 60000 telemetryIntervalMs }
    telemetryInFlight := p.telemetryInFlight.advance t (.settled none) }

/-- The stretch that ends a successful telemetry poll. -/
def applyPower [Runtime] (p : Poller) (t : ℕ) (uuid : String) (task : TelemetryTask) (host : String)
    (parsed : LanElectricityState) (now : ℤ) : Poller :=
  let prev := p.powerByUuid.get uuid
  let next : DevicePowerDto :=
    { uuid, host, channel := parsed.channel
      voltageV := parsed.voltageV, currentA := parsed.currentA, powerW := parsed.powerW
      voltageDv := parsed.voltageDv, currentMa := parsed.currentMa, powerMw := parsed.powerMw
      updatedAt := nextTelemetryUpdatedAt prev now
      source := task.reason, stale := false, error := none }
  let changed := match prev with
    | none => true
    | some prev => prev.stale ≠ next.stale || prev.powerW ≠ next.powerW ||
        prev.voltageV ≠ next.voltageV || prev.currentA ≠ next.currentA
  { p with
    powerByUuid := p.powerByUuid.set uuid next
    subscribers := if changed then broadcast (.devicePower next) p.subscribers else p.subscribers
    metaByUuid := modifyMeta p.metaByUuid uuid fun pm => scheduleNext task.startedAt
      { pm with telemetryFailureCount := 0, telemetryLastSuccessAt := some task.startedAt }
    telemetryInFlight := p.telemetryInFlight.advance t (.settled (some next)) }

/-- The events of a failed telemetry poll. -/
def powerFailureEvents (prev : Option DevicePowerDto) (staleNext : DevicePowerDto) :
    List StreamEvent :=
  let becameStale := match prev with
    | none => true
    | some prev => !prev.stale
  let changed := match prev with
    | none => true
    | some prev => prev.stale ≠ staleNext.stale || prev.error ≠ staleNext.error ||
        prev.powerW ≠ staleNext.powerW
  (if changed then [.devicePower staleNext] else [])
    ++ (if becameStale then [.devicePowerStale staleNext] else [])

/-- The stretch that ends a failed telemetry poll. -/
def failPower [Runtime] (p : Poller) (t : ℕ) (uuid : String) (task : TelemetryTask)
    (message : String) (now : ℤ) : Poller :=
  let prev := p.powerByUuid.get uuid
  let staleNext : DevicePowerDto :=
    { uuid
      host := (prev.map DevicePowerDto.host).getD
        (((p.knownHosts.get uuid).map KnownHost.host).getD "")
      channel := (prev.map DevicePowerDto.channel).getD 0
      voltageV := prev.bind DevicePowerDto.voltageV
      currentA := prev.bind DevicePowerDto.currentA
      powerW := prev.bind DevicePowerDto.powerW
      voltageDv := prev.bind DevicePowerDto.voltageDv
      currentMa := prev.bind DevicePowerDto.currentMa
      powerMw := prev.bind DevicePowerDto.powerMw
      updatedAt := nextTelemetryUpdatedAt prev now
      source := task.reason, stale := true, error := some message }
  { p with
    powerByUuid := p.powerByUuid.set uuid staleNext
    subscribers :=
      (powerFailureEvents prev staleNext).foldl (fun s e => broadcast e s) p.subscribers
    metaByUuid := modifyMeta p.metaByUuid uuid fun pm => scheduleNext task.startedAt
      { pm with telemetryFailureCount := pm.telemetryFailureCount + 1 }
    telemetryInFlight := p.telemetryInFlight.advance t (.settled none) }

/-- A telemetry poll goes on with a reply. -/
def telemetryGoesOn [Runtime] (p : Poller) (t : ℕ) (reply : (c : Call) → Reply c) (now : ℤ) :
    Option Poller :=
  match p.telemetryInFlight.running t with
  | some (uuid, task) => match p.resume reply task.prog with
    | some (.ret (.ok none)) => some (p.skipPower t uuid task)
    | some (.ret (.ok (some (host, parsed)))) => some (p.applyPower t uuid task host parsed now)
    | some (.ret (.error e)) => some (p.failPower t uuid task e.message now)
    | some prog => some { p with
        telemetryInFlight := p.telemetryInFlight.advance t (.running { task with prog }) }
    | none => none
  | none => none

/-- A call of `pollTelemetry` returns. -/
def telemetryReturns (p : Poller) (c : ℕ) : Option Poller :=
  (p.telemetryInFlight.leave c).map fun f => { p with telemetryInFlight := f }

/-! ### Recoveries -/

/-- The end of `tryResolveHost`. -/
def endRecovery (p : Poller) (i : ℕ) (r : Recovery) (found : Option (String × Option String))
    (now : ℤ) : Poller :=
  { p with
    recoveries := p.recoveries.eraseIdx i
    resolving := p.resolving.filter (· ≠ r.uuid)
    knownHosts := match found with
      | some (host, mac) => p.knownHosts.set r.uuid { host, mac := mac.filter (· ≠ "") }
      | none => p.knownHosts
    metaByUuid := match found with
      | some _ => modifyMeta p.metaByUuid r.uuid fun pm =>
          { pm with boostUntilAt := some (now + BOOST_WINDOW_MS), nextDueAt := now }
      | none => p.metaByUuid }

/-- The file when the call of a recovery has returned. -/
def fileAfter (p : Poller) (r : Recovery) : FileText :=
  match r.prog with
  | .call (.endWrite base edit) _ => .json (edit.apply base)
  | _ => p.file

/-- A recovery goes on with a reply. -/
def recoveryGoesOn (p : Poller) (i : ℕ) (reply : (c : Call) → Reply c) (now : ℤ) : Option Poller :=
  match p.recoveries[i]? with
  | some r => match p.resume reply r.prog with
    | some (.ret (.ok found)) =>
        some (endRecovery { p with file := p.fileAfter r } i r found now)
    | some (.ret (.error _)) => some (endRecovery { p with file := p.fileAfter r } i r none now)
    | some prog => some { p with
        file := p.fileAfter r
        recoveries := p.recoveries.set i { r with prog } }
    | none => none
  | none => none

/-! ### Ticks -/

/-- A sort by a time of the meta. -/
def sortByTime (p : Poller) (time : PollMeta → ℤ) (uuids : List String) : List String :=
  let timeOf := fun uuid => ((p.metaByUuid.get uuid).map time).getD 0
  uuids.insertionSort fun a b => timeOf a ≤ timeOf b

/-- The devices that a tick looks at: those with a known host and without a state poll. -/
def candidates (p : Poller) : List (String × PollMeta) :=
  p.metaByUuid.entries.filter fun e => p.knownHosts.has e.1 && !p.inFlight.entries.has e.1

def due (p : Poller) (now : ℤ) : List String :=
  (p.candidates.filter fun e => e.2.nextDueAt ≤ now).map Prod.fst

def dueTelemetry (p : Poller) (now : ℤ) : List String :=
  (p.candidates.filter fun e =>
    !p.telemetryInFlight.entries.has e.1 && e.2.telemetryNextDueAt ≤ now).map Prod.fst

/-- The loop of a tick that starts state polls. -/
def startPolls [Runtime] (now : ℤ) : List String → Poller → Poller
  | [], p => p
  | uuid :: rest, p =>
      if p.inFlight.entries.size < POLL_MAX_CONCURRENCY then
        if uuid = "" then p else startPolls now rest (p.pollDevice uuid .poller none now)
      else p

/-- The loop of a tick that starts telemetry polls. -/
def startTelemetry [Runtime] (now : ℤ) : List String → Poller → Poller
  | [], p => p
  | uuid :: rest, p =>
      if p.telemetryInFlight.entries.size < TELEMETRY_MAX_CONCURRENCY then
        if uuid = "" then p
        else startTelemetry now rest (p.pollTelemetry uuid .telemetryPoller none now)
      else p

/-- The `finally` block of a tick. -/
def endTick (p : Poller) (now : ℤ) : Poller :=
  let healthIsDue := HEALTH_BROADCAST_EVERY_MS < now - p.lastHealthBroadcastAt
  { p with
    lastHealthBroadcastAt := if healthIsDue then now else p.lastHealthBroadcastAt
    subscribers := if healthIsDue then broadcast .pollerHealth p.subscribers else p.subscribers
    tick := .idle }

/-- A tick after its `await`, or without one. -/
def tickBody [Runtime] (p : Poller) (now : ℤ) : Poller :=
  let due := p.sortByTime PollMeta.nextDueAt (p.due now)
  let dueTelemetry := p.sortByTime PollMeta.telemetryNextDueAt (p.dueTelemetry now)
  (startTelemetry now dueTelemetry (startPolls now due p)).endTick now

/-! ### Manual polls -/

/-- `uuids.shift()` of a worker, and the call with which it goes on. -/
def takeNext [Runtime] (p : Poller) (options : PollOptions) (now : ℤ) :
    List String → Poller × List String × Worker
  | [] => (p, [], .finished)
  | uuid :: rest =>
      if uuid = "" then (p, rest, .finished)
      else
        let timeoutMs := (options.timeoutMs.bind fun n => n.finite?).map fun n => .fin (max 500 n)
        (p.pollDevice uuid (options.reason.getD .manual) timeoutMs now, rest,
          .awaiting p.inFlight.calls.length)

/-- The workers start one after the other. -/
def startWorkers [Runtime] (options : PollOptions) (now : ℤ) :
    ℕ → Poller → List String → Poller × List String × List Worker
  | 0, p, queue => (p, queue, [])
  | n + 1, p, queue =>
      let next := p.takeNext options now queue
      let rest := startWorkers options now n next.1 next.2.1
      (rest.1, rest.2.1, next.2.2 :: rest.2.2)

/-- The devices that `pollNow` polls. -/
def requestedUuids (p : Poller) (options : PollOptions) : List String :=
  match options.uuids with
  | some (uuid :: uuids) => (((uuid :: uuids).map trim).filter (· ≠ "")).eraseDups
  | _ => p.knownHosts.keys

def setPollNow (p : Poller) (i : ℕ) (q : PollNow) : Poller :=
  { p with pollNows := p.pollNows.set i q }

/-- The outcome of a poll joins those of a call of `pollNow`. -/
def collect (q : PollNow) : PollResult → PollNow
  | .state s => { q with states := q.states ++ [s] }
  | .error e => { q with errors := q.errors ++ [e] }

/-- `pollNow` after `syncKnownHosts`: it boosts the devices and starts its workers. -/
def startPollNow [Runtime] (p : Poller) (i : ℕ) (q : PollNow) (now : ℤ) : Poller :=
  let uuids := p.requestedUuids q.options
  let metas := uuids.foldl (fun m uuid => boostMeta m uuid now) p.metaByUuid
  let boosted := { p with metaByUuid := metas }
  let count := max 1 (min POLL_MAX_CONCURRENCY (max 1 uuids.length))
  let started := startWorkers q.options now count boosted uuids
  started.1.setPollNow i { q with phase := .polling started.2.1 started.2.2 }

/-- A worker collects the outcome of its call, and goes on. -/
def collectAndTake [Runtime] (p : Poller) (i : ℕ) (q : PollNow) (queue : List String)
    (workers : List Worker) (w : ℕ) (r : PollResult) (now : ℤ) : Poller :=
  let next := p.takeNext q.options now queue
  next.1.setPollNow i
    { collect q r with phase := .polling next.2.1 (workers.set w next.2.2) }

/-- A worker whose call has returned goes on. -/
def workerGoesOn [Runtime] (p : Poller) (i w : ℕ) (now : ℤ) : Option Poller :=
  match p.pollNows[i]? with
  | some q => match q.phase with
    | .polling queue workers => match workers[w]? with
      | some (.awaiting c) => match (p.inFlight.calls[c]?).bind Flight.Call.result with
        | some r => some (p.collectAndTake i q queue workers w r now)
        | none => none
      | _ => none
    | _ => none
  | none => none

/-! ### The machine -/

/-- What a new subscriber is sent. -/
def greeting [Runtime] (p : Poller) : List StreamEvent :=
  let states := p.stateByUuid.values.insertionSort fun a b =>
    Runtime.localeCompare a.uuid b.uuid ≠ .gt
  let readings := p.powerByUuid.values.insertionSort fun a b =>
    Runtime.localeCompare a.uuid b.uuid ≠ .gt
  [.snapshot states, .powerSnapshot readings, .pollerHealth]

/-- The start of the stream of `createStreamResponse`. -/
def connect [Runtime] (p : Poller) : Poller :=
  { p with
    subscribers := p.subscribers.set p.nextSubscriberId p.greeting
    nextSubscriberId := p.nextSubscriberId + 1 }

/-- Every worker has ended. -/
def allFinished (workers : List Worker) : Bool :=
  workers.all fun
    | .finished => true
    | .awaiting _ => false

/-- One stretch of code. -/
def step [Runtime] (p : Poller) : Act → Option Poller
  | .fileChanges text => some { p with file := text }
  | .boostDevice uuid now => some { p with metaByUuid := boostMeta p.metaByUuid uuid now }
  | .connect => some p.connect
  | .cancel id => some { p with subscribers := p.subscribers.erase id }
  | .heartbeat id now =>
      some { p with subscribers := pushToSubscriber id (.heartbeat now) p.subscribers }
  | .tick now => match p.tick with
    | .idle =>
        if SYNC_HOSTS_EVERY_MS < now - p.lastSyncHostsAt then some { p with tick := .syncing }
        else some (p.tickBody now)
    | _ => some p
  | .tickSyncs now => match p.tick with
    | .syncing => some { p.syncKnownHosts now with tick := .synced }
    | _ => none
  | .tickGoesOn now => match p.tick with
    | .synced => some (p.tickBody now)
    | _ => none
  | .pollNow options => some { p with pollNows := p.pollNows ++ [⟨options, .syncing, [], []⟩] }
  | .pollNowSyncs i now => match p.pollNows[i]? with
    | some ⟨options, .syncing, states, errors⟩ =>
        some ((p.syncKnownHosts now).setPollNow i ⟨options, .synced, states, errors⟩)
    | _ => none
  | .pollNowStarts i now => match p.pollNows[i]? with
    | some ⟨options, .synced, states, errors⟩ =>
        some (p.startPollNow i ⟨options, .synced, states, errors⟩ now)
    | _ => none
  | .workerGoesOn i w now => p.workerGoesOn i w now
  | .pollNowReturns i now => match p.pollNows[i]? with
    | some ⟨options, .polling _ workers, states, errors⟩ =>
        if allFinished workers then
          some (p.setPollNow i ⟨options, .returned now, states, errors⟩)
        else none
    | _ => none
  | .pollGoesOn t reply now random => p.pollGoesOn t reply now random
  | .pollReturns c => p.pollReturns c
  | .telemetryGoesOn t reply now => p.telemetryGoesOn t reply now
  | .telemetryReturns c => p.telemetryReturns c
  | .recoveryGoesOn i reply now => p.recoveryGoesOn i reply now

end Poller

end Merossity
