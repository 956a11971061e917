import Merossity.Api.Digest
import Merossity.Lib.Machine

/-!
The state machine of the devices page: `devicesMachine` of `state/devicesMachine.ts`.

* `DevicesContext` is the context. An action of the source is a function on it, under the
  source's name; what an action needs of the event is a parameter of it, evaluated in the
  context that the actions before it have left.
* `Devices` is the machine with its three parallel regions. A state of a region that invokes an
  actor carries the input of the actor.
* `Devices.step` handles an event, or the outcome of an actor, of which only the active one is
  heard.
* A device state has no difference between a light that is `null` and one that is absent; the
  keys of the maps are no names of inherited properties.
-/

namespace Merossity

open Js

/-! ### Device states -/

abbrev LanToggleXChannel : Type := LanToggleXState

abbrev LanLightChannel : Type := LanLightState

structure DeviceState where
  host : String
  kind : Option String := none
  channel : ℕ
  onoff : Bool
  channels : Option (List LanToggleXChannel) := none
  lights : Option (List LanLightChannel) := none
  light : Option LanLightChannel := none
  timerxDigest : Option (List LanScheduleDigestEntry) := none
  triggerxDigest : Option (List LanScheduleDigestEntry) := none
  updatedAt : ℚ
  stale : Bool := false
  source : Option String := none
  error : Option String := none
  deriving DecidableEq

structure StreamDeviceState where
  uuid : String
  host : String
  kind : Option String
  channel : ℕ
  onoff : Bool
  channels : Option (List LanToggleXChannel)
  lights : Option (List LanLightChannel)
  light : Option LanLightChannel
  timerxDigest : Option (List LanScheduleDigestEntry)
  triggerxDigest : Option (List LanScheduleDigestEntry)
  updatedAt : ℚ
  stale : Bool
  source : Option String
  error : Option String
  deriving DecidableEq

structure DevicePower where
  uuid : String
  host : String
  channel : ℕ
  voltageV : Option ℚ
  currentA : Option ℚ
  powerW : Option ℚ
  updatedAt : ℚ
  stale : Bool
  error : Option String

/-- The entry that a state of the stream makes. An empty error is left out. -/
def StreamDeviceState.entry (s : StreamDeviceState) : DeviceState where
  host := s.host
  kind := s.kind
  channel := s.channel
  onoff := s.onoff
  channels := s.channels
  lights := s.lights
  light := s.light
  timerxDigest := s.timerxDigest
  triggerxDigest := s.triggerxDigest
  updatedAt := s.updatedAt
  stale := s.stale
  source := s.source
  error := s.error.filter (· ≠ "")

/-! ### The context -/

/-- An entry of the hosts. -/
structure HostEntry where
  host : String
  updatedAt : String
  mac : Option String

abbrev HostsMap : Type := OrdMap String HostEntry

structure SystemDump where
  uuid : String
  host : String
  data : Json

/-- What `toggleRollback` keeps of the device that is toggled. -/
structure ToggleRollback where
  uuid : String
  previous : Option DeviceState

structure DevicesContext where
  devices : List Json
  hosts : HostsMap
  cidr : String
  deviceStates : OrdMap String DeviceState
  devicePower : OrdMap String DevicePower
  systemDump : Option SystemDump
  activeDeviceUuid : Option String
  toggleRollback : Option ToggleRollback

/-- A call that nobody waits for. -/
inductive Effect where
  | storeCidr (cidr : String)
  | postCidr (cidr : String)
  | postStates (uuid : String)

/-! ### Actions -/

namespace DevicesContext

def setDevices (c : DevicesContext) (list : List Json) : DevicesContext :=
  { c with devices := list }

def setHosts (c : DevicesContext) (hosts : HostsMap) : DevicesContext := { c with hosts }

def setCidr (c : DevicesContext) (cidr : String) : DevicesContext := { c with cidr }

def setCidrIfEmpty (c : DevicesContext) (default : Option String) (currentCidr : String) :
    DevicesContext :=
  if trim currentCidr ≠ "" then c else { c with cidr := default.getD "" }

def persistCidr (c : DevicesContext) : List Effect := [.storeCidr c.cidr]

def setActiveDeviceUuid (c : DevicesContext) (uuid : String) : DevicesContext :=
  { c with activeDeviceUuid := some uuid }

def clearActiveDeviceUuid (c : DevicesContext) : DevicesContext :=
  { c with activeDeviceUuid := none }

/-- The channels of an optimistic state. -/
def optimisticChannels (base : List LanToggleXChannel) (onoff : Bool) : List LanToggleXChannel :=
  if base.any fun c => c.channel = 0 then
    base.map fun c => if c.channel = 0 then { c with onoff } else c
  else { channel := 0, onoff } :: base

/-- The lights of an optimistic state. -/
def optimisticLights (previous : Option DeviceState) (onoff : Bool) :
    Option (List LanLightChannel) :=
  let base := (previous.bind DeviceState.lights).getD []
  let prevLight0 := (previous.bind DeviceState.light).or (base.find? fun l => l.channel = 0)
  let unknown : LanLightChannel :=
    { channel := 0, onoff := (previous.map DeviceState.onoff).getD false, luminance := none
      temperature := none, rgb := none }
  if prevLight0.isSome || !base.isEmpty then
    some (if base.any fun l => l.channel = 0 then
      base.map fun l => if l.channel = 0 then { l with onoff } else l
    else { prevLight0.getD unknown with onoff } :: base)
  else none

/-- The state that a device is shown in while it is toggled. -/
def optimisticState (c : DevicesContext) (uuid : String) (onoff : Bool) (now : ℤ) : DeviceState :=
  let previous := c.deviceStates.get uuid
  let host := ((previous.map DeviceState.host).filter (· ≠ "")).or
    ((c.hosts.get uuid).map HostEntry.host)
  let lights := optimisticLights previous onoff
  { host := host.getD ""
    kind := previous.bind DeviceState.kind
    channel := (previous.map DeviceState.channel).getD 0
    onoff
    channels := some (optimisticChannels ((previous.bind DeviceState.channels).getD []) onoff)
    lights
    light := match lights with
      | some lights => lights.find? fun l => l.channel = 0
      | none => previous.bind DeviceState.light
    timerxDigest := previous.bind DeviceState.timerxDigest
    triggerxDigest := previous.bind DeviceState.triggerxDigest
    updatedAt := now
    stale := false
    source := some "optimistic" }

def prepareOptimisticToggle (c : DevicesContext) (uuid : String) (onoff : Bool) (now : ℤ) :
    DevicesContext :=
  { c with
    toggleRollback := some ⟨uuid, c.deviceStates.get uuid⟩
    deviceStates := c.deviceStates.set uuid (c.optimisticState uuid onoff now) }

def rollbackOptimisticToggle (c : DevicesContext) : DevicesContext :=
  match c.toggleRollback with
  | none => c
  | some rollback =>
      { c with
        deviceStates := match rollback.previous with
          | some previous => c.deviceStates.set rollback.uuid previous
          | none => c.deviceStates.erase rollback.uuid
        toggleRollback := none }

def clearToggleRollback (c : DevicesContext) : DevicesContext := { c with toggleRollback := none }

def setStreamDeviceState (c : DevicesContext) (state : StreamDeviceState) : DevicesContext :=
  { c with deviceStates := c.deviceStates.set state.uuid state.entry }

def mergeSnapshot (c : DevicesContext) (states : List StreamDeviceState) : DevicesContext :=
  { c with deviceStates := states.foldl (fun m s => m.set s.uuid s.entry) c.deviceStates }

def mergePowerSnapshot (c : DevicesContext) (readings : List DevicePower) : DevicesContext :=
  { c with devicePower := readings.foldl (fun m r => m.set r.uuid r) c.devicePower }

def setPowerReading (c : DevicesContext) (reading : DevicePower) : DevicesContext :=
  { c with devicePower := c.devicePower.set reading.uuid reading }

/-- The entry of a device of which there is none. -/
def placeholder : DeviceState := { host := "", channel := 0, onoff := false, updatedAt := 0 }

def setDeviceError (c : DevicesContext) (uuid error : String) : DevicesContext :=
  { c with
    deviceStates := c.deviceStates.set uuid
      { (c.deviceStates.get uuid).getD placeholder with stale := true, error := some error } }

def setSystemDump (c : DevicesContext) (systemDump : Option SystemDump) : DevicesContext :=
  { c with systemDump }

/-! ### Guards -/

def needsCidrSuggest (c : DevicesContext) : Bool := trim c.cidr = ""

def hasHost (c : DevicesContext) (uuid : String) : Bool :=
  match c.hosts.get uuid with
  | some entry => entry.host ≠ ""
  | none => false

end DevicesContext

/-- `persistCidrRemote`. -/
def persistCidrRemote (cidr : String) : List Effect :=
  if trim cidr = "" then [] else [.postCidr (trim cidr)]

/-- `requestDeviceRefresh`. -/
def requestDeviceRefresh (uuid : String) : List Effect :=
  if uuid = "" then [] else [.postStates uuid]

/-! ### The machine -/

inductive DevicesEvent where
  | refresh
  | setCidr (cidr : String)
  | scan
  | deviceResolve (uuid mac title : String)
  | deviceToggle (uuid : String) (onoff : Bool)
  | deviceRefreshState (uuid : String)
  | deviceDiagnostics (uuid : String)
  | monitorStreamConnected
  | monitorStreamDisconnected
  | monitorStateReceived (state : StreamDeviceState)
  | monitorDeviceStale (state : StreamDeviceState)
  | monitorSnapshot (states : List StreamDeviceState)
  | monitorPowerSnapshot (readings : List DevicePower)
  | monitorPowerReceived (reading : DevicePower)
  | monitorRequestRefresh (uuid : String)
  | closeSystemDump

inductive InventoryState where
  | idle
  | refreshingCloud
  | suggestingCidr
  | discoveringHosts (cidr : String)

/-- The input of `toggleDevice`. -/
structure ToggleInput where
  uuid : String
  onoff : Bool
  deriving DecidableEq

inductive OperationsState where
  | idle
  | resolving (uuid mac cidr : String)
  | toggling (input : ToggleInput)
  | fetchingDiagnostics (uuid : String)
  deriving DecidableEq

inductive MonitorState where
  | connecting
  | live
  | degraded

/-- The machine: its regions, its context, and the calls that nobody waits for. -/
structure Devices where
  inventory : InventoryState
  operations : OperationsState
  monitor : MonitorState
  context : DevicesContext
  effects : List Effect

/-- The output of an actor of the inventory. -/
inductive InventoryOutput where
  | refreshed (list : List Json) (hosts : HostsMap)
  | suggested (default : Option String)
  | discovered (hostsAll : HostsMap)

/-- The output of an actor of the operations, apart from what is its input. -/
inductive OperationOutput where
  | resolved (hosts : HostsMap)
  | toggled
  | diagnosed (host : String) (data : Json)

/-- What the machine takes: an event, or the outcome of an actor. -/
inductive DevicesAct where
  | send (event : DevicesEvent) (now : ℤ)
  | inventoryDone (output : InventoryOutput)
  | inventoryError
  | operationDone (output : OperationOutput)
  | operationError (message : String)

namespace Devices

/-- The machine at its start. -/
def init (initialCidr : String) : Devices where
  inventory := .idle
  operations := .idle
  monitor := .connecting
  context :=
    { devices := [], hosts := .empty, cidr := initialCidr, deviceStates := .empty
      devicePower := .empty, systemDump := none, activeDeviceUuid := none
      toggleRollback := none }
  effects := []

/-- A change of the context. -/
def assign (d : Devices) (context : DevicesContext) : Devices := { d with context }

/-- Calls that nobody waits for. -/
def emit (d : Devices) (effects : List Effect) : Devices :=
  { d with effects := d.effects ++ effects }

/-- An event in the region `inventory`. -/
def inventoryOn (d : Devices) : DevicesEvent → Devices
  | .refresh => match d.inventory with
    | .idle => { d with inventory := .refreshingCloud }
    | _ => d
  | .scan => match d.inventory with
    | .idle =>
        if d.context.needsCidrSuggest then { d with inventory := .suggestingCidr }
        else { d with inventory := .discoveringHosts d.context.cidr }
    | _ => d
  | _ => d

/-- An event in the region `operations`. -/
def operationsOn (d : Devices) (now : ℤ) (event : DevicesEvent) : Devices :=
  match d.operations, event with
  | .idle, .deviceResolve uuid mac _ =>
      { d with
        operations := .resolving uuid mac d.context.cidr
        context := d.context.setActiveDeviceUuid uuid }
  | .idle, .deviceToggle uuid onoff =>
      if d.context.hasHost uuid then
        { d with
          operations := .toggling ⟨uuid, onoff⟩
          context := (d.context.setActiveDeviceUuid uuid).prepareOptimisticToggle uuid onoff now }
      else d
  | .idle, .deviceRefreshState uuid => d.emit (requestDeviceRefresh uuid)
  | .idle, .deviceDiagnostics uuid =>
      if d.context.hasHost uuid then
        { d with
          operations := .fetchingDiagnostics uuid
          context := d.context.setActiveDeviceUuid uuid }
      else d
  | _, _ => d

/-- An event in the region `monitor`. -/
def monitorOn (d : Devices) : DevicesEvent → Devices
  | .monitorStreamConnected => match d.monitor with
    | .live => d
    | _ => { d with monitor := .live }
  | .monitorStreamDisconnected => match d.monitor with
    | .degraded => d
    | _ => { d with monitor := .degraded }
  | _ => d

/-- An event of the machine itself. -/
def rootOn (d : Devices) : DevicesEvent → Devices
  | .setCidr cidr =>
      let c := d.context.setCidr cidr
      (d.assign c).emit (c.persistCidr ++ persistCidrRemote cidr)
  | .monitorRequestRefresh uuid => d.emit (requestDeviceRefresh uuid)
  | .monitorSnapshot states => d.assign (d.context.mergeSnapshot states)
  | .monitorPowerSnapshot readings => d.assign (d.context.mergePowerSnapshot readings)
  | .monitorStateReceived state => d.assign (d.context.setStreamDeviceState state)
  | .monitorDeviceStale state => d.assign (d.context.setStreamDeviceState state)
  | .monitorPowerReceived reading => d.assign (d.context.setPowerReading reading)
  | .closeSystemDump => d.assign (d.context.setSystemDump none)
  | _ => d

/-- An event: each of the regions, and otherwise the machine itself, handles it. No event is
handled in two places. -/
def send (d : Devices) (event : DevicesEvent) (now : ℤ) : Devices :=
  ((((d.inventoryOn event).operationsOn now event).monitorOn event).rootOn event)

/-- The actor of the inventory is done. -/
def inventoryDone (d : Devices) (output : InventoryOutput) : Option Devices :=
  match d.inventory, output with
  | .refreshingCloud, .refreshed list hosts => some { d with
      inventory := .idle
      context := (d.context.setDevices list).setHosts hosts }
  | .suggestingCidr, .suggested default =>
      let c := d.context.setCidrIfEmpty default d.context.cidr
      some { d with inventory := .discoveringHosts c.cidr, context := c }
  | .discoveringHosts _, .discovered hostsAll => some { d with
      inventory := .idle
      context := d.context.setHosts hostsAll }
  | _, _ => none

/-- The actor of the inventory has failed. -/
def inventoryError (d : Devices) : Option Devices :=
  match d.inventory with
  | .idle => none
  | .suggestingCidr => some { d with inventory := .discoveringHosts d.context.cidr }
  | _ => some { d with inventory := .idle }

/-- The actor of the operation is done. -/
def operationDone (d : Devices) (output : OperationOutput) : Option Devices :=
  match d.operations, output with
  | .resolving _ _ _, .resolved hosts => some { d with
      operations := .idle
      context := (d.context.setHosts hosts).clearActiveDeviceUuid }
  | .toggling input, .toggled => some { d.emit (requestDeviceRefresh input.uuid) with
      operations := .idle
      context := d.context.clearToggleRollback.clearActiveDeviceUuid }
  | .fetchingDiagnostics uuid, .diagnosed host data => some { d with
      operations := .idle
      context := (d.context.setSystemDump (some ⟨uuid, host, data⟩)).clearActiveDeviceUuid }
  | _, _ => none

/-- `context.activeDeviceUuid ?? ''`, the device that a failed toggle is noted for. -/
def failedUuid (c : DevicesContext) : String := c.activeDeviceUuid.getD ""

/-- The actor of the operation has failed. -/
def operationError (d : Devices) (message : String) : Option Devices :=
  match d.operations with
  | .idle => none
  | .toggling _ =>
      let c := d.context.rollbackOptimisticToggle
      some { d with
        operations := .idle
        context :=
          ((c.setDeviceError (failedUuid c) message).clearToggleRollback).clearActiveDeviceUuid }
  | _ => some { d with operations := .idle, context := d.context.clearActiveDeviceUuid }

/-- One step of the machine. -/
def step (d : Devices) : DevicesAct → Option Devices
  | .send event now => some (d.send event now)
  | .inventoryDone output => d.inventoryDone output
  | .inventoryError => d.inventoryError
  | .operationDone output => d.operationDone output
  | .operationError message => d.operationError message

end Devices

/-! ### What a step does -/

/-- The device states that an event brings. -/
def DevicesEvent.states : DevicesEvent → List StreamDeviceState
  | .monitorStateReceived state => [state]
  | .monitorDeviceStale state => [state]
  | .monitorSnapshot states => states
  | _ => []

/-- The device states that the machine is told in a step. -/
def DevicesAct.states : DevicesAct → List StreamDeviceState
  | .send event _ => event.states
  | _ => []

/-- The entries that device states make. -/
def mergeStates (m : OrdMap String DeviceState) (states : List StreamDeviceState) :
    OrdMap String DeviceState :=
  states.foldl (fun m s => m.set s.uuid s.entry) m

/-- The last of some device states that is about a device. -/
def lastState (uuid : String) (states : List StreamDeviceState) : Option StreamDeviceState :=
  (states.filter fun s => s.uuid = uuid).getLast?

lemma lastState_cons (uuid : String) (s : StreamDeviceState) (states : List StreamDeviceState) :
    lastState uuid (s :: states)
      = (lastState uuid states).or (if s.uuid = uuid then some s else none) := by
  rw [lastState, lastState]
  by_cases huuid : s.uuid = uuid
  · rw [List.filter_cons_of_pos (by simpa using huuid), if_pos huuid, List.getLast?_cons]
    cases (states.filter fun s => s.uuid = uuid).getLast? <;> rfl
  · rw [List.filter_cons_of_neg (by simpa using huuid), if_neg huuid, Option.or_none]

lemma get_mergeStates (uuid : String) (states : List StreamDeviceState) :
    ∀ m, (mergeStates m states).get uuid =
      ((lastState uuid states).map StreamDeviceState.entry).or (m.get uuid) := by
  induction states with
  | nil => exact fun _ => rfl
  | cons s states ih =>
      intro m
      have hcons : mergeStates m (s :: states) = mergeStates (m.set s.uuid s.entry) states := rfl
      rw [hcons, ih, OrdMap.get_set, lastState_cons]
      cases lastState uuid states with
      | some s' => rfl
      | none => split <;> rfl

lemma lastState_eq_none {uuid : String} {states : List StreamDeviceState}
    (h : ∀ s ∈ states, s.uuid ≠ uuid) : lastState uuid states = none := by
  rw [lastState, List.filter_eq_nil_iff.mpr fun s hs => by simpa using h s hs]
  rfl

/-- What a step does to the operation under way, to what is kept about it, and to the entries. -/
inductive Moves (d d' : Devices) : DevicesAct → Prop where
  | hears (a : DevicesAct) (hops : d'.operations = d.operations)
      (hactive : d'.context.activeDeviceUuid = d.context.activeDeviceUuid)
      (hrollback : d'.context.toggleRollback = d.context.toggleRollback)
      (hstates : d'.context.deviceStates = mergeStates d.context.deviceStates a.states) :
      Moves d d' a
  | begins (event : DevicesEvent) (now : ℤ) (uuid : String) (hidle : d.operations = .idle)
      (huuid : event = .deviceDiagnostics uuid ∨ ∃ mac title, event = .deviceResolve uuid mac title)
      (hops : d'.operations = .fetchingDiagnostics uuid ∨
        ∃ mac cidr, d'.operations = .resolving uuid mac cidr)
      (hactive : d'.context.activeDeviceUuid = some uuid)
      (hrollback : d'.context.toggleRollback = d.context.toggleRollback)
      (hstates : d'.context.deviceStates = d.context.deviceStates) : Moves d d' (.send event now)
  | toggles (uuid : String) (onoff : Bool) (now : ℤ) (hidle : d.operations = .idle)
      (hhost : d.context.hasHost uuid = true)
      (hops : d'.operations = .toggling ⟨uuid, onoff⟩)
      (hactive : d'.context.activeDeviceUuid = some uuid)
      (hrollback : d'.context.toggleRollback = some ⟨uuid, d.context.deviceStates.get uuid⟩)
      (hstates : d'.context.deviceStates
        = d.context.deviceStates.set uuid (d.context.optimisticState uuid onoff now)) :
      Moves d d' (.send (.deviceToggle uuid onoff) now)
  | ends (a : DevicesAct) (hother : d.operations ≠ .idle ∧ ∀ input, d.operations ≠ .toggling input)
      (ha : a.states = []) (hops : d'.operations = .idle)
      (hactive : d'.context.activeDeviceUuid = none)
      (hrollback : d'.context.toggleRollback = d.context.toggleRollback)
      (hstates : d'.context.deviceStates = d.context.deviceStates) : Moves d d' a
  | toggled (input : ToggleInput) (htoggling : d.operations = .toggling input)
      (hops : d'.operations = .idle) (hactive : d'.context.activeDeviceUuid = none)
      (hrollback : d'.context.toggleRollback = none)
      (hstates : d'.context.deviceStates = d.context.deviceStates) :
      Moves d d' (.operationDone .toggled)
  | fails (input : ToggleInput) (message : String) (htoggling : d.operations = .toggling input)
      (hops : d'.operations = .idle) (hactive : d'.context.activeDeviceUuid = none)
      (hrollback : d'.context.toggleRollback = none)
      (hstates : d'.context.deviceStates = (d.context.rollbackOptimisticToggle.setDeviceError
        (Devices.failedUuid d.context.rollbackOptimisticToggle) message).deviceStates) :
      Moves d d' (.operationError message)

namespace Devices

lemma inventoryOn_eq (d : Devices) (event : DevicesEvent) :
    ∃ inventory, d.inventoryOn event = { d with inventory } := by
  cases event with
  | refresh =>
      simp only [inventoryOn]
      split <;> exact ⟨_, rfl⟩
  | scan =>
      simp only [inventoryOn]
      split
      · split <;> exact ⟨_, rfl⟩
      · exact ⟨_, rfl⟩
  | _ => exact ⟨_, rfl⟩

lemma monitorOn_eq (d : Devices) (event : DevicesEvent) :
    ∃ monitor, d.monitorOn event = { d with monitor } := by
  cases event with
  | monitorStreamConnected =>
      simp only [monitorOn]
      split <;> exact ⟨_, rfl⟩
  | monitorStreamDisconnected =>
      simp only [monitorOn]
      split <;> exact ⟨_, rfl⟩
  | _ => exact ⟨_, rfl⟩

/-- The operations handle the four events of the buttons of a device, and only when idle. -/
lemma operationsOn_eq (d : Devices) (now : ℤ) (event : DevicesEvent)
    (h : d.operations = .idle → match event with
      | .deviceResolve .. => False
      | .deviceToggle .. => False
      | .deviceRefreshState .. => False
      | .deviceDiagnostics .. => False
      | _ => True) : d.operationsOn now event = d := by
  cases hops : d.operations with
  | idle =>
      have hevent := h hops
      cases event <;> first | exact hevent.elim | simp only [operationsOn, hops]
  | _ => simp only [operationsOn, hops]

/-- An event that the operations do not handle. -/
lemma moves_send_other {d : Devices} {event : DevicesEvent} {now : ℤ}
    (h : ∀ inventory, operationsOn { d with inventory } now event = { d with inventory }) :
    Moves d (d.send event now) (.send event now) := by
  obtain ⟨inventory, hinventory⟩ := inventoryOn_eq d event
  obtain ⟨monitor, hmonitor⟩ := monitorOn_eq { d with inventory } event
  rw [send, hinventory, h, hmonitor]
  refine .hears _ ?_ ?_ ?_ ?_ <;> cases event <;> rfl

/-- What an event does. -/
lemma moves_send (d : Devices) (event : DevicesEvent) (now : ℤ) :
    Moves d (d.send event now) (.send event now) := by
  by_cases hidle : d.operations = .idle
  · have hsame : ∀ {e : DevicesEvent}, d.send e now = d → e.states = [] →
        Moves d (d.send e now) (.send e now) := by
      intro e he hstates
      refine .hears _ ?_ ?_ ?_ ?_ <;> rw [he]
      rw [DevicesAct.states, hstates]
      rfl
    cases event with
    | deviceResolve uuid mac title =>
        have hsend : d.send (.deviceResolve uuid mac title) now = { d with
            operations := .resolving uuid mac d.context.cidr
            context := d.context.setActiveDeviceUuid uuid } := by
          simp only [send, inventoryOn, operationsOn, hidle, monitorOn, rootOn]
        rw [hsend]
        exact .begins _ now uuid hidle (Or.inr ⟨_, _, rfl⟩) (Or.inr ⟨_, _, rfl⟩) rfl rfl rfl
    | deviceToggle uuid onoff =>
        by_cases hhost : d.context.hasHost uuid = true
        · have hsend : d.send (.deviceToggle uuid onoff) now = { d with
              operations := .toggling ⟨uuid, onoff⟩
              context := (d.context.setActiveDeviceUuid uuid).prepareOptimisticToggle
                uuid onoff now } := by
            simp only [send, inventoryOn, operationsOn, hidle, hhost, if_true, monitorOn, rootOn]
          rw [hsend]
          exact .toggles uuid onoff now hidle hhost rfl rfl rfl rfl
        · refine hsame ?_ rfl
          simp only [send, inventoryOn, operationsOn, hidle, hhost, monitorOn, rootOn]
          rfl
    | deviceRefreshState uuid =>
        have hsend : d.send (.deviceRefreshState uuid) now
            = d.emit (requestDeviceRefresh uuid) := by
          simp only [send, inventoryOn, operationsOn, hidle, monitorOn, rootOn]
        rw [hsend]
        exact .hears _ rfl rfl rfl rfl
    | deviceDiagnostics uuid =>
        by_cases hhost : d.context.hasHost uuid = true
        · have hsend : d.send (.deviceDiagnostics uuid) now = { d with
              operations := .fetchingDiagnostics uuid
              context := d.context.setActiveDeviceUuid uuid } := by
            simp only [send, inventoryOn, operationsOn, hidle, hhost, if_true, monitorOn, rootOn]
          rw [hsend]
          exact .begins _ now uuid hidle (Or.inl rfl) (Or.inl rfl) rfl rfl rfl
        · refine hsame ?_ rfl
          simp only [send, inventoryOn, operationsOn, hidle, hhost, monitorOn, rootOn]
          rfl
    | _ => exact moves_send_other fun inventory => operationsOn_eq _ _ _ fun _ => trivial
  · exact moves_send_other fun inventory => operationsOn_eq _ _ _ fun h => absurd h hidle

/-- What a step does. -/
theorem moves_of_step {d d' : Devices} {a : DevicesAct} (h : d.step a = some d') :
    Moves d d' a := by
  cases a with
  | send event now =>
      obtain rfl := Option.some.inj h
      exact moves_send d event now
  | inventoryDone output =>
      simp only [step, inventoryDone] at h
      split at h <;> cases h
      · exact .hears _ rfl rfl rfl rfl
      · refine .hears _ rfl ?_ ?_ ?_ <;> simp only [DevicesContext.setCidrIfEmpty] <;>
          split <;> rfl
      · exact .hears _ rfl rfl rfl rfl
  | inventoryError =>
      simp only [step, inventoryError] at h
      split at h <;> cases h <;> exact .hears _ rfl rfl rfl rfl
  | operationDone output =>
      simp only [step, operationDone] at h
      cases hops : d.operations with
      | idle => simp [hops] at h
      | resolving uuid mac cidr =>
          cases output with
          | resolved hosts =>
              simp only [hops] at h
              obtain rfl := Option.some.inj h
              exact .ends _ (by simp [hops]) rfl rfl rfl rfl rfl
          | _ => simp [hops] at h
      | toggling input =>
          cases output with
          | toggled =>
              simp only [hops] at h
              obtain rfl := Option.some.inj h
              exact .toggled input hops rfl rfl rfl rfl
          | _ => simp [hops] at h
      | fetchingDiagnostics uuid =>
          cases output with
          | diagnosed host data =>
              simp only [hops] at h
              obtain rfl := Option.some.inj h
              exact .ends _ (by simp [hops]) rfl rfl rfl rfl rfl
          | _ => simp [hops] at h
  | operationError message =>
      simp only [step, operationError] at h
      split at h
      next => cases h
      next input hops =>
        obtain rfl := Option.some.inj h
        exact .fails input message hops rfl rfl rfl rfl
      next hidle htoggling =>
        obtain rfl := Option.some.inj h
        exact .ends _ ⟨hidle, htoggling⟩ rfl rfl rfl rfl rfl

end Devices

end Merossity
