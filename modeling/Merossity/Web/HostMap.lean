import Merossity.Web.DevicesMachine

/-!
The hosts of the devices page and the requests that fail: the actors `refreshFromCloud`,
`discoverHosts` and `resolveHost` of `state/devicesMachine.ts`.

* An actor is a function of the outcomes of its requests. `Devices.settle` is the machine with the
  actors: where an actor is active, its requests may end in any way, and it tells the machine its
  output, or that it has failed.
* Two of the actors fail with their request for the hosts. `refreshFromCloud` replaces it by a map
  without entries, and the machine takes that map (`keepsHosts_iff`).
* `hosts_survive_iff`: along a run no host is lost to a failed request exactly when no refresh ends
  that way while there is a host.
-/

namespace Merossity

open Js Machine

/-! ### Actors -/

/-- The outcome of a request. -/
abbrev RequestOutcome (α : Type) : Type := Except String α

/-- `refreshFromCloud`: both requests are made at once, and the second one has a default. -/
def refreshFromCloud (devices : RequestOutcome (List Json)) (hosts : RequestOutcome HostsMap) :
    RequestOutcome InventoryOutput := do
  let list ← devices
  return .refreshed list (match hosts with
    | .ok hosts => hosts
    | .error _ => .empty)

/-- `suggestCidr`. -/
def suggestCidr (suggestion : RequestOutcome (Option String)) : RequestOutcome InventoryOutput :=
  suggestion.map .suggested

/-- `discoverHosts`. -/
def discoverHosts (found : RequestOutcome Unit) (hosts : RequestOutcome HostsMap) :
    RequestOutcome InventoryOutput := do
  found
  return .discovered (← hosts)

/-- `resolveHost`. -/
def resolveHost (resolved : RequestOutcome Unit) (hosts : RequestOutcome HostsMap) :
    RequestOutcome OperationOutput := do
  resolved
  return .resolved (← hosts)

/-- `toggleDevice`. -/
def toggleDevice (sent : RequestOutcome Unit) : RequestOutcome OperationOutput :=
  sent.map fun _ => .toggled

/-- `fetchDiagnostics`. -/
def fetchDiagnostics (dump : RequestOutcome (String × Json)) : RequestOutcome OperationOutput :=
  dump.map fun dump => .diagnosed dump.1 dump.2

/-- What the page takes: an event, or the outcomes of the requests of an actor. -/
inductive PageAct where
  | send (event : DevicesEvent) (now : ℤ)
  | refresh (devices : RequestOutcome (List Json)) (hosts : RequestOutcome HostsMap)
  | suggest (suggestion : RequestOutcome (Option String))
  | discover (found : RequestOutcome Unit) (hosts : RequestOutcome HostsMap)
  | resolve (resolved : RequestOutcome Unit) (hosts : RequestOutcome HostsMap)
  | toggle (sent : RequestOutcome Unit)
  | diagnose (dump : RequestOutcome (String × Json))

namespace Devices

/-- An actor of the inventory tells the machine how it has ended. -/
def inventorySettles (d : Devices) : RequestOutcome InventoryOutput → Option Devices
  | .ok output => d.step (.inventoryDone output)
  | .error _ => d.step .inventoryError

/-- An actor of the operations tells the machine how it has ended. -/
def operationSettles (d : Devices) : RequestOutcome OperationOutput → Option Devices
  | .ok output => d.step (.operationDone output)
  | .error message => d.step (.operationError message)

/-- One step of the machine with its actors, of which the active one is heard. -/
def settle (d : Devices) : PageAct → Option Devices
  | .send event now => d.step (.send event now)
  | .refresh devices hosts => match d.inventory with
    | .refreshingCloud => d.inventorySettles (refreshFromCloud devices hosts)
    | _ => none
  | .suggest suggestion => match d.inventory with
    | .suggestingCidr => d.inventorySettles (suggestCidr suggestion)
    | _ => none
  | .discover found hosts => match d.inventory with
    | .discoveringHosts _ => d.inventorySettles (discoverHosts found hosts)
    | _ => none
  | .resolve resolved hosts => match d.operations with
    | .resolving _ _ _ => d.operationSettles (resolveHost resolved hosts)
    | _ => none
  | .toggle sent => match d.operations with
    | .toggling _ => d.operationSettles (toggleDevice sent)
    | _ => none
  | .diagnose dump => match d.operations with
    | .fetchingDiagnostics _ => d.operationSettles (fetchDiagnostics dump)
    | _ => none

end Devices

/-! ### Requests that fail -/

namespace PageAct

/-- The request for the hosts has failed. It is made after the other one, if that one succeeds, but
for a refresh. -/
def HostsFail : PageAct → Prop
  | .refresh _ (.error _) => True
  | .discover (.ok _) (.error _) => True
  | .resolve (.ok _) (.error _) => True
  | _ => False

/-- A request has failed. -/
def SomeFail : PageAct → Prop
  | .send _ _ => False
  | .refresh (.ok _) (.ok _) => False
  | .suggest (.ok _) => False
  | .discover (.ok _) (.ok _) => False
  | .resolve (.ok _) (.ok _) => False
  | .toggle (.ok _) => False
  | .diagnose (.ok _) => False
  | _ => True

/-- How the actor of a step has ended. -/
def outcome : PageAct → Option (RequestOutcome InventoryOutput ⊕ RequestOutcome OperationOutput)
  | .send _ _ => none
  | .refresh devices hosts => some (.inl (refreshFromCloud devices hosts))
  | .suggest suggestion => some (.inl (suggestCidr suggestion))
  | .discover found hosts => some (.inl (discoverHosts found hosts))
  | .resolve resolved hosts => some (.inr (resolveHost resolved hosts))
  | .toggle sent => some (.inr (toggleDevice sent))
  | .diagnose dump => some (.inr (fetchDiagnostics dump))

lemma someFail_of_hostsFail {a : PageAct} (h : a.HostsFail) : a.SomeFail := by
  unfold HostsFail at h
  split at h
  next devices message => cases devices <;> trivial
  next => trivial
  next => trivial
  next => exact absurd h id

end PageAct

namespace Devices

/-- A step keeps the hosts if the request for them fails, and the device of no other failed request
loses its host either. -/
def KeepsHosts (d : Devices) (a : PageAct) : Prop :=
  ∀ d', d.settle a = some d' →
    (a.HostsFail → d'.context.hosts = d.context.hosts)
      ∧ (a.SomeFail → ∀ uuid, d.context.hasHost uuid = true → d'.context.hasHost uuid = true)

/-- No refresh whose devices are there ends without the hosts, unless there are none. -/
def HostsFetched (d : Devices) : PageAct → Prop
  | .refresh (.ok _) (.error _) => d.inventory = .refreshingCloud → d.context.hosts = .empty
  | _ => True

lemma hosts_of_inventoryError {d d' : Devices} (h : d.inventoryError = some d') :
    d'.context.hosts = d.context.hosts := by
  rw [inventoryError] at h
  split at h
  next => cases h
  next =>
    obtain rfl := Option.some.inj h
    rfl
  next =>
    obtain rfl := Option.some.inj h
    rfl

lemma hosts_rollbackOptimisticToggle (c : DevicesContext) :
    c.rollbackOptimisticToggle.hosts = c.hosts := by
  rw [DevicesContext.rollbackOptimisticToggle]
  split <;> rfl

lemma hosts_of_operationError {d d' : Devices} {message : String}
    (h : d.operationError message = some d') : d'.context.hosts = d.context.hosts := by
  rw [operationError] at h
  split at h
  next => cases h
  next =>
    obtain rfl := Option.some.inj h
    exact hosts_rollbackOptimisticToggle d.context
  next =>
    obtain rfl := Option.some.inj h
    rfl

/-- What leaves the hosts as they are keeps them. -/
lemma keepsHosts_of_eq {d : Devices} {a : PageAct}
    (h : ∀ d', d.settle a = some d' → d'.context.hosts = d.context.hosts) : d.KeepsHosts a := by
  intro d' hstep
  have heq := h d' hstep
  refine ⟨fun _ => heq, fun _ uuid huuid => ?_⟩
  rw [DevicesContext.hasHost, heq]
  exact huuid

/-- The inversion of `settle`. -/
lemma settle_eq_some {d d' : Devices} {a : PageAct} (h : d.settle a = some d') :
    (∀ o, a.outcome = some (.inl o) → d.inventorySettles o = some d') ∧
      ∀ o, a.outcome = some (.inr o) → d.operationSettles o = some d' := by
  cases a with
  | send event now => exact ⟨by rintro o ⟨⟩, by rintro o ⟨⟩⟩
  | refresh | suggest | discover =>
      simp only [settle] at h
      split at h
      next => exact ⟨by rintro o ⟨⟩; exact h, by rintro o ⟨⟩⟩
      next => cases h
  | resolve | toggle | diagnose =>
      simp only [settle] at h
      split at h
      next => exact ⟨by rintro o ⟨⟩, by rintro o ⟨⟩; exact h⟩
      next => cases h

/-- When a request fails the actor fails, or it is a refresh that has a default for it. -/
lemma outcome_of_someFail {a : PageAct} (hfail : a.SomeFail)
    (hrefresh : ∀ devices message, a ≠ .refresh (.ok devices) (.error message)) :
    ∃ message, a.outcome = some (.inl (.error message)) ∨
      a.outcome = some (.inr (.error message)) := by
  cases a with
  | send event now => exact absurd hfail id
  | refresh devices hosts =>
      rcases devices with message | devices
      · exact ⟨message, Or.inl rfl⟩
      · rcases hosts with message | hosts
        · exact absurd rfl (hrefresh devices message)
        · exact absurd hfail id
  | suggest suggestion =>
      rcases suggestion with message | suggestion
      · exact ⟨message, Or.inl rfl⟩
      · exact absurd hfail id
  | discover found hosts =>
      rcases found with message | found
      · exact ⟨message, Or.inl rfl⟩
      · rcases hosts with message | hosts
        · exact ⟨message, Or.inl rfl⟩
        · exact absurd hfail id
  | resolve resolved hosts =>
      rcases resolved with message | resolved
      · exact ⟨message, Or.inr rfl⟩
      · rcases hosts with message | hosts
        · exact ⟨message, Or.inr rfl⟩
        · exact absurd hfail id
  | toggle sent =>
      rcases sent with message | sent
      · exact ⟨message, Or.inr rfl⟩
      · exact absurd hfail id
  | diagnose dump =>
      rcases dump with message | dump
      · exact ⟨message, Or.inr rfl⟩
      · exact absurd hfail id

/-- An actor that fails keeps the hosts. -/
lemma hosts_of_someFail {d d' : Devices} {a : PageAct} (hfail : a.SomeFail)
    (hrefresh : ∀ devices message, a ≠ .refresh (.ok devices) (.error message))
    (h : d.settle a = some d') : d'.context.hosts = d.context.hosts := by
  obtain ⟨hinventory, hoperations⟩ := settle_eq_some h
  obtain ⟨message, hout | hout⟩ := outcome_of_someFail hfail hrefresh
  · exact hosts_of_inventoryError (hinventory _ hout)
  · exact hosts_of_operationError (hoperations _ hout)

/-- A refresh that ends without the hosts leaves none. -/
lemma settle_refresh {d : Devices} (hinventory : d.inventory = .refreshingCloud)
    (devices : List Json) (message : String) :
    ∃ d', d.settle (.refresh (.ok devices) (.error message)) = some d'
      ∧ d'.context.hosts = .empty := by
  refine ⟨{ d with
    inventory := .idle
    context := (d.context.setDevices devices).setHosts .empty }, ?_, rfl⟩
  simp only [settle, hinventory]
  show d.inventoryDone (.refreshed devices .empty) = _
  simp only [inventoryDone, hinventory]

/-- **One step** keeps the hosts exactly when it is no refresh that ends without them. -/
lemma keepsHosts_iff (d : Devices) (a : PageAct) : d.KeepsHosts a ↔ d.HostsFetched a := by
  by_cases hrefresh : ∃ devices message, a = .refresh (.ok devices) (.error message)
  · obtain ⟨devices, message, rfl⟩ := hrefresh
    constructor
    · intro h hinventory
      obtain ⟨d', hstep, hempty⟩ := settle_refresh hinventory devices message
      rw [← (h d' hstep).1 trivial, hempty]
    · intro h
      refine keepsHosts_of_eq fun d' hstep => ?_
      by_cases hinventory : d.inventory = .refreshingCloud
      · obtain ⟨d'', hstep', hempty⟩ := settle_refresh hinventory devices message
        obtain rfl := Option.some.inj (hstep.symm.trans hstep')
        rw [hempty, h hinventory]
      · simp only [settle] at hstep
        cases hstep
  · have hne : ∀ devices message, a ≠ .refresh (.ok devices) (.error message) :=
      fun devices message h => hrefresh ⟨devices, message, h⟩
    have hfetched : d.HostsFetched a := by
      unfold HostsFetched
      split
      next devices message => exact absurd rfl (hne devices message)
      next => trivial
    refine ⟨fun _ => hfetched, fun _ d' hstep => ?_⟩
    have hkeeps : a.SomeFail → d'.context.hosts = d.context.hosts :=
      fun hfail => hosts_of_someFail hfail hne hstep
    refine ⟨fun hfail => hkeeps (PageAct.someFail_of_hostsFail hfail), fun hfail uuid huuid => ?_⟩
    rw [DevicesContext.hasHost, hkeeps hfail]
    exact huuid

/-- **Hosts and failed requests**: along a run, a request for the hosts that fails leaves the hosts
as they are, and no failed request takes the host of a device, exactly when no refresh ends without
the hosts while there are some. -/
theorem hosts_survive_iff (initialCidr : String) (acts : List PageAct) :
    Along settle KeepsHosts acts (init initialCidr) ↔
      Along settle HostsFetched acts (init initialCidr) :=
  along_congr keepsHosts_iff acts (init initialCidr)

end Devices

/-- The hosts with one plug. -/
def plugHosts : HostsMap := OrdMap.empty.set "plug" ⟨"10.0.0.9", "", none⟩

/-- The page has the host of a plug, and is refreshed. The devices come in, and the hosts do not. -/
theorem refresh_loses_hosts :
    ¬ Along Devices.settle Devices.KeepsHosts
      [.send .refresh 0, .refresh (.ok []) (.ok plugHosts), .send .refresh 0,
        .refresh (.ok []) (.error "offline")] (Devices.init "") := by
  rintro ⟨-, -, -, h, -⟩
  have hlost := (h _ rfl).2 trivial "plug" rfl
  exact absurd hlost (by decide)

end Merossity
