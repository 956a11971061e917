import Merossity.Web.DevicesMachine

/-!
What the machine of the devices page keeps about the operation under way.

* `Held` relates the operation to `activeDeviceUuid` and `toggleRollback`; every step keeps it.
* `bookkeeping`: in every state that is reached by events with non-empty uuids and by outcomes of
  the actors, the two are set exactly while an operation needs them, and a failed toggle writes
  only the entry of its device.
-/

namespace Merossity

open Js Machine

/-- The uuids of an event are not empty. -/
def DevicesEvent.Named : DevicesEvent → Prop
  | .deviceResolve uuid _ _ => uuid ≠ ""
  | .deviceToggle uuid _ => uuid ≠ ""
  | .deviceRefreshState uuid => uuid ≠ ""
  | .deviceDiagnostics uuid => uuid ≠ ""
  | .monitorStateReceived state => state.uuid ≠ ""
  | .monitorDeviceStale state => state.uuid ≠ ""
  | .monitorSnapshot states => ∀ s ∈ states, s.uuid ≠ ""
  | .monitorPowerSnapshot readings => ∀ r ∈ readings, r.uuid ≠ ""
  | .monitorPowerReceived reading => reading.uuid ≠ ""
  | .monitorRequestRefresh uuid => uuid ≠ ""
  | _ => True

/-- Events have non-empty uuids; the outcomes of the actors are arbitrary. -/
def Named (_ : Devices) : DevicesAct → Prop
  | .send event _ => event.Named
  | _ => True

/-- What is kept about an operation: the device that it is about, and of a toggle the entry before
it. -/
inductive Held : OperationsState → Option String → Option ToggleRollback → Prop where
  | idle : Held .idle none none
  | resolving (uuid mac cidr : String) : Held (.resolving uuid mac cidr) (some uuid) none
  | toggling (input : ToggleInput) (previous : Option DeviceState) :
      Held (.toggling input) (some input.uuid) (some ⟨input.uuid, previous⟩)
  | fetchingDiagnostics (uuid : String) : Held (.fetchingDiagnostics uuid) (some uuid) none

namespace Held

variable {operations : OperationsState} {active : Option String}
  {rollback : Option ToggleRollback}

lemma isSome_rollback (h : Held operations active rollback) :
    rollback.isSome = true ↔ ∃ input, operations = .toggling input := by
  cases h with
  | toggling input previous => exact iff_of_true rfl ⟨input, rfl⟩
  | _ =>
      refine iff_of_false Bool.false_ne_true ?_
      rintro ⟨input, hk⟩
      cases hk

lemma isSome_active (h : Held operations active rollback) : active.isSome = true ↔
    (∃ uuid mac cidr, operations = .resolving uuid mac cidr) ∨
      (∃ input, operations = .toggling input) ∨
        ∃ uuid, operations = .fetchingDiagnostics uuid := by
  cases h with
  | idle =>
      refine iff_of_false Bool.false_ne_true ?_
      rintro (⟨_, _, _, hk⟩ | ⟨_, hk⟩ | ⟨_, hk⟩) <;> cases hk
  | resolving uuid mac cidr => exact iff_of_true rfl (Or.inl ⟨uuid, mac, cidr, rfl⟩)
  | toggling input previous => exact iff_of_true rfl (Or.inr (Or.inl ⟨input, rfl⟩))
  | fetchingDiagnostics uuid => exact iff_of_true rfl (Or.inr (Or.inr ⟨uuid, rfl⟩))

end Held

namespace Devices

/-- What is kept about the operation of a machine. -/
def Holds (d : Devices) : Prop :=
  Held d.operations d.context.activeDeviceUuid d.context.toggleRollback

lemma Holds.idle {d : Devices} (h : d.Holds) (hidle : d.operations = .idle) :
    d.context.activeDeviceUuid = none ∧ d.context.toggleRollback = none := by
  rw [Holds, hidle] at h
  generalize d.context.activeDeviceUuid = active, d.context.toggleRollback = rollback at h
  cases h
  exact ⟨rfl, rfl⟩

lemma Holds.toggling {d : Devices} (h : d.Holds) {input : ToggleInput}
    (htoggling : d.operations = .toggling input) : d.context.activeDeviceUuid = some input.uuid ∧
      ∃ previous, d.context.toggleRollback = some ⟨input.uuid, previous⟩ := by
  rw [Holds, htoggling] at h
  generalize d.context.activeDeviceUuid = active, d.context.toggleRollback = rollback at h
  cases h with
  | toggling _ previous => exact ⟨rfl, previous, rfl⟩

/-- Only a toggle keeps an entry. -/
lemma Holds.rollback_none {d : Devices} (h : d.Holds)
    (hother : ∀ input, d.operations ≠ .toggling input) : d.context.toggleRollback = none := by
  rw [Holds] at h
  generalize d.context.activeDeviceUuid = active, d.context.toggleRollback = rollback,
    d.operations = operations at h hother
  cases h with
  | toggling input previous => exact absurd rfl (hother input)
  | _ => rfl

lemma Holds.step {d d' : Devices} {a : DevicesAct} (h : d.Holds) (hstep : d.step a = some d') :
    d'.Holds := by
  cases moves_of_step hstep with
  | hears _ hops hactive hrollback _ =>
      rw [Holds, hops, hactive, hrollback]
      exact h
  | begins event now uuid hidle _ hops hactive hrollback _ =>
      rw [Holds, hactive, hrollback, (h.idle hidle).2]
      rcases hops with hops | ⟨mac, cidr, hops⟩
      · rw [hops]
        exact .fetchingDiagnostics uuid
      · rw [hops]
        exact .resolving uuid mac cidr
  | toggles uuid onoff now hidle _ hops hactive hrollback _ =>
      rw [Holds, hops, hactive, hrollback]
      exact .toggling ⟨uuid, onoff⟩ _
  | ends _ hother _ hops hactive hrollback _ =>
      rw [Holds, hops, hactive, hrollback, h.rollback_none hother.2]
      exact .idle
  | toggled input _ hops hactive hrollback _ =>
      rw [Holds, hops, hactive, hrollback]
      exact .idle
  | fails input message _ hops hactive hrollback _ =>
      rw [Holds, hops, hactive, hrollback]
      exact .idle

/-- The entries after a failed toggle: that of its device is the one before the toggle, with the
error, and the others are as they were. -/
lemma Holds.failed {d : Devices} (h : d.Holds) {input : ToggleInput}
    (htoggling : d.operations = .toggling input) {previous : Option DeviceState}
    (hprevious : d.context.toggleRollback = some ⟨input.uuid, previous⟩) (message uuid : String) :
    (d.context.rollbackOptimisticToggle.setDeviceError
      (failedUuid d.context.rollbackOptimisticToggle) message).deviceStates.get uuid
      = if input.uuid = uuid then some { previous.getD DevicesContext.placeholder with
          stale := true, error := some message }
        else d.context.deviceStates.get uuid := by
  have hactive : failedUuid d.context.rollbackOptimisticToggle = input.uuid := by
    rw [failedUuid, DevicesContext.rollbackOptimisticToggle, hprevious]
    dsimp only
    rw [(h.toggling htoggling).1, Option.getD_some]
  rw [hactive, DevicesContext.setDeviceError, DevicesContext.rollbackOptimisticToggle, hprevious]
  dsimp only
  rw [OrdMap.get_set]
  split
  · cases previous with
    | none => rw [OrdMap.get_erase, if_pos rfl]
    | some previous => rw [OrdMap.get_set_self]
  next hne =>
    cases previous with
    | none => rw [OrdMap.get_erase, if_neg hne]
    | some previous => rw [OrdMap.get_set_of_ne _ hne]

end Devices

/-- What the machine keeps about the operation under way. -/
structure Bookkeeping (d : Devices) : Prop where
  rollback : d.context.toggleRollback.isSome = true ↔ ∃ input, d.operations = .toggling input
  active : d.context.activeDeviceUuid.isSome = true ↔
    (∃ uuid mac cidr, d.operations = .resolving uuid mac cidr) ∨
      (∃ input, d.operations = .toggling input) ∨ ∃ uuid, d.operations = .fetchingDiagnostics uuid
  toggling : ∀ input, d.operations = .toggling input →
    d.context.toggleRollback.map ToggleRollback.uuid = some input.uuid ∧
      d.context.activeDeviceUuid = some input.uuid
  failure : ∀ input message d', d.operations = .toggling input →
    d.step (.operationError message) = some d' →
      ((d'.context.deviceStates.get input.uuid).bind DeviceState.error = some message) ∧
        ∀ uuid, uuid ≠ input.uuid →
          d'.context.deviceStates.get uuid = d.context.deviceStates.get uuid
  unnamed : d.context.deviceStates.get "" = none

/-- The invariant. -/
structure Devices.Kept (d : Devices) : Prop where
  holds : d.Holds
  named : ∀ input, d.operations = .toggling input → input.uuid ≠ ""
  unnamed : d.context.deviceStates.get "" = none

namespace Devices.Kept

lemma init (initialCidr : String) : (Devices.init initialCidr).Kept :=
  ⟨Held.idle, fun _ h => (by cases h), rfl⟩

lemma step {d d' : Devices} {a : DevicesAct} (h : d.Kept) (ha : Named d a)
    (hstep : d.step a = some d') : d'.Kept := by
  have hholds := h.holds.step hstep
  cases moves_of_step hstep with
  | hears _ hops hactive hrollback hstates =>
      refine ⟨hholds, hops ▸ h.named, ?_⟩
      have hnamed : ∀ s ∈ a.states, s.uuid ≠ "" := by
        cases a with
        | send event now =>
            cases event <;> first
              | exact List.forall_mem_singleton.mpr ha
              | exact ha
              | exact fun s hs => absurd hs List.not_mem_nil
        | _ => exact fun s hs => absurd hs List.not_mem_nil
      rw [hstates, get_mergeStates, lastState_eq_none hnamed, h.unnamed]
      rfl
  | begins event now uuid hidle huuid hops hactive hrollback hstates =>
      refine ⟨hholds, fun input htoggling => ?_, by rw [hstates, h.unnamed]⟩
      rcases hops with hops | ⟨mac, cidr, hops⟩
      · rw [hops] at htoggling
        cases htoggling
      · rw [hops] at htoggling
        cases htoggling
  | toggles uuid onoff now hidle _ hops hactive hrollback hstates =>
      have huuid : uuid ≠ "" := ha
      refine ⟨hholds, fun input htoggling => ?_, ?_⟩
      · obtain rfl := OperationsState.toggling.inj (hops.symm.trans htoggling)
        exact huuid
      · rw [hstates, OrdMap.get_set_of_ne _ huuid, h.unnamed]
  | ends _ hother _ hops hactive hrollback hstates =>
      refine ⟨hholds, fun input htoggling => ?_, by rw [hstates, h.unnamed]⟩
      rw [hops] at htoggling
      cases htoggling
  | toggled input htoggling hops hactive hrollback hstates =>
      refine ⟨hholds, fun input htoggling => ?_, by rw [hstates, h.unnamed]⟩
      rw [hops] at htoggling
      cases htoggling
  | fails input message htoggling hops hactive hrollback hstates =>
      refine ⟨hholds, fun input htoggling => ?_, ?_⟩
      · rw [hops] at htoggling
        cases htoggling
      · obtain ⟨-, previous, hprevious⟩ := h.holds.toggling htoggling
        rw [hstates, h.holds.failed htoggling hprevious message, if_neg (h.named input htoggling),
          h.unnamed]

lemma keeps {d : Devices} (h : d.Kept) : Bookkeeping d := by
  have hholds := h.holds
  refine ⟨hholds.isSome_rollback, hholds.isSome_active, fun input htoggling => ?_,
    fun input message d' htoggling hstep => ?_, h.unnamed⟩
  · obtain ⟨hactive, previous, hprevious⟩ := hholds.toggling htoggling
    exact ⟨by rw [hprevious]; rfl, hactive⟩
  · obtain ⟨-, previous, hprevious⟩ := hholds.toggling htoggling
    simp only [Devices.step, Devices.operationError, htoggling] at hstep
    obtain rfl := Option.some.inj hstep
    have hget := hholds.failed htoggling hprevious message
    refine ⟨?_, fun uuid huuid => ?_⟩
    · exact congrArg (Option.bind · DeviceState.error) ((hget input.uuid).trans (if_pos rfl))
    · exact (hget uuid).trans (if_neg huuid.symm)

end Devices.Kept

/-- **Bookkeeping.** In every state that is reached by events with non-empty uuids, and by
outcomes of the actors in any order, what is kept about the operation is what it needs. -/
theorem bookkeeping (initialCidr : String) (d : Devices)
    (h : Reaches Devices.step Named (Devices.init initialCidr) d) : Bookkeeping d := by
  have hkept : d.Kept := h.invariant (I := Devices.Kept) (.init initialCidr)
    fun _ _ _ hd ha hstep => hd.step ha hstep
  exact hkept.keeps

/-- A configuration of one plug, which is toggled, while the stream sends a snapshot. -/
def failedToggle : List DevicesAct :=
  [.send .refresh 0,
    .inventoryDone
      (.refreshed [] (OrdMap.empty.set "plug" ⟨"10.0.0.2", "2024-01-01T00:00:00Z", none⟩)),
    .send (.deviceToggle "plug" true) 1000, .send .monitorStreamConnected 1010,
    .send (.monitorSnapshot []) 1020, .operationError "POST /config failed: 500"]

/-- The plug is shown with the error. -/
theorem bookkeeping_plug : ∃ d, run Devices.step failedToggle (Devices.init "") = some d ∧
    (d.context.deviceStates.get "plug").bind DeviceState.error = some "POST /config failed: 500" ∧
      Bookkeeping d := by
  have hend : (run Devices.step failedToggle (Devices.init "")).map
      (fun d => (d.context.deviceStates.get "plug").bind DeviceState.error)
      = some (some "POST /config failed: 500") := by
    decide +kernel
  obtain ⟨d, hd, herror⟩ := Option.map_eq_some_iff.mp hend
  refine ⟨d, hd, herror, bookkeeping "" d (reaches_run failedToggle ?_ hd)⟩
  refine ⟨trivial, trivial, ?_, trivial, ?_, trivial, trivial⟩
  · exact (by decide : "plug" ≠ "")
  · exact fun s hs => absurd hs List.not_mem_nil

end Merossity
