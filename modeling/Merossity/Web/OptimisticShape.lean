import Merossity.Web.DevicesMachine

/-!
The shape of an optimistic state, for `prepareOptimisticToggle` of `state/devicesMachine.ts`.

* `DeviceState.WellShaped`: channels and lights are sorted without repetition, and the distinguished
  light is one of the lights. `KeepsShape` says what a toggle should keep of a state, and
  `KeepsPrimary` that it also keeps what the distinguished light shows.
* The action switches what is on channel 0. `keepsShape_iff` says when this keeps the shape: there
  are no lights, or there is a distinguished one and one on channel 0.
-/

namespace Merossity

/-! ### Shapes -/

/-- Sorted by channel, no channel twice. -/
def SortedOnce {α : Type} (channel : α → ℕ) (l : List α) : Prop :=
  l.Pairwise fun a b => channel a < channel b

/-- What a light shows besides `onoff`. -/
def LanLightState.attributes (l : LanLightState) : LanLightState := { l with onoff := false }

/-- The channels of a state, none if there is no state. -/
def channelsOf (s : Option DeviceState) : List LanToggleXChannel :=
  (s.bind DeviceState.channels).getD []

/-- The lights of a state, none if there is no state. -/
def lightsOf (s : Option DeviceState) : List LanLightChannel := (s.bind DeviceState.lights).getD []

structure DeviceState.WellShaped (s : DeviceState) : Prop where
  channels : SortedOnce LanToggleXState.channel (channelsOf s)
  lights : SortedOnce LanLightState.channel (lightsOf s)
  light : ∀ l, s.light = some l → l ∈ lightsOf s

/-- What a toggle keeps of the state before it. -/
structure KeepsShape (previous : Option DeviceState) (onoff : Bool) (s : DeviceState) : Prop where
  shaped : s.WellShaped
  null : s.light = none ↔ previous.bind DeviceState.light = none
  switched : s.onoff = onoff
  lightSwitched : ∀ l, s.light = some l → l.onoff = onoff
  lightChannels : ∀ n, (∃ l ∈ lightsOf s, l.channel = n) ↔ ∃ l ∈ lightsOf previous, l.channel = n
  lights : (lightsOf s).map LanLightState.attributes
    = (lightsOf previous).map LanLightState.attributes
  channels : (channelsOf s).filter (fun c => c.channel ≠ 0)
    = (channelsOf previous).filter (fun c => c.channel ≠ 0)
  timerxDigest : s.timerxDigest = previous.bind DeviceState.timerxDigest
  triggerxDigest : s.triggerxDigest = previous.bind DeviceState.triggerxDigest

/-- The distinguished light shows what it did, apart from `onoff`. -/
def KeepsPrimary (previous : Option DeviceState) (s : DeviceState) : Prop :=
  s.light.map LanLightState.attributes
    = (previous.bind DeviceState.light).map LanLightState.attributes

namespace DevicesContext

/-! ### Channels -/

/-- A list stays sorted under a function that keeps the channels. -/
lemma sortedOnce_map {α : Type} {channel : α → ℕ} {f : α → α} (hf : ∀ a, channel (f a) = channel a)
    {l : List α} (h : SortedOnce channel l) : SortedOnce channel (l.map f) := by
  rw [SortedOnce, List.pairwise_map]
  exact h.imp fun {a b} hlt => by rwa [hf, hf]

lemma sortedOnce_optimisticChannels {base : List LanToggleXChannel} (onoff : Bool)
    (h : SortedOnce LanToggleXState.channel base) :
    SortedOnce LanToggleXState.channel (optimisticChannels base onoff) := by
  rw [optimisticChannels]
  split
  next =>
    refine sortedOnce_map (fun c => ?_) h
    split <;> rfl
  next hnone =>
    refine List.Pairwise.cons (fun c hc => Nat.pos_of_ne_zero fun hzero => hnone ?_) h
    exact List.any_eq_true.mpr ⟨c, hc, by simpa using hzero⟩

lemma filter_map_onoff (base : List LanToggleXChannel) (onoff : Bool) :
    (base.map fun c => if c.channel = 0 then { c with onoff } else c).filter
        (fun c => c.channel ≠ 0)
      = base.filter (fun c => c.channel ≠ 0) := by
  induction base with
  | nil => rfl
  | cons c base ih =>
      rw [List.map_cons, List.filter_cons, List.filter_cons, ih]
      by_cases hzero : c.channel = 0 <;> simp [hzero]

/-- The channels other than 0 stay as they are. -/
lemma filter_optimisticChannels (base : List LanToggleXChannel) (onoff : Bool) :
    (optimisticChannels base onoff).filter (fun c => c.channel ≠ 0)
      = base.filter (fun c => c.channel ≠ 0) := by
  rw [optimisticChannels]
  split
  next => exact filter_map_onoff base onoff
  next => rw [List.filter_cons_of_neg (by simp)]

/-! ### Lights -/

/-- The light of the lights that is switched. -/
def switch (onoff : Bool) (l : LanLightChannel) : LanLightChannel :=
  if l.channel = 0 then { l with onoff } else l

@[simp] lemma switch_channel (onoff : Bool) (l : LanLightChannel) :
    (switch onoff l).channel = l.channel := by
  rw [switch]
  split <;> rfl

@[simp] lemma switch_attributes (onoff : Bool) (l : LanLightChannel) :
    (switch onoff l).attributes = l.attributes := by
  rw [switch]
  split <;> rfl

variable {previous : Option DeviceState}

/-- Without lights there are none afterwards. -/
lemma optimisticLights_of_nil (onoff : Bool) (hlights : lightsOf previous = [])
    (hlight : previous.bind DeviceState.light = none) : optimisticLights previous onoff = none := by
  rw [lightsOf] at hlights
  simp [optimisticLights, hlights, hlight]

/-- With a light on channel 0 it is switched. -/
lemma optimisticLights_of_zero (onoff : Bool) (hzero : ∃ l ∈ lightsOf previous, l.channel = 0) :
    optimisticLights previous onoff = some ((lightsOf previous).map (switch onoff)) := by
  obtain ⟨l, hl, hchannel⟩ := hzero
  have hany : (lightsOf previous).any (fun l => l.channel = 0) = true :=
    List.any_eq_true.mpr ⟨l, hl, by simpa using hchannel⟩
  have hne : (lightsOf previous).isEmpty = false := List.isEmpty_eq_false_iff_exists_mem.mpr ⟨l, hl⟩
  rw [lightsOf] at hany hne
  simp only [optimisticLights, hany, hne, lightsOf]
  simp only [Bool.not_false, Bool.or_true, if_true]
  rfl

/-- Without one, a light is added. -/
lemma optimisticLights_of_ne_zero (onoff : Bool) (hlights : lightsOf previous ≠ [])
    (hzero : ¬∃ l ∈ lightsOf previous, l.channel = 0) :
    ∃ l, optimisticLights previous onoff = some (l :: lightsOf previous) := by
  have hany : (lightsOf previous).any (fun l => l.channel = 0) = false := by
    rw [List.any_eq_false]
    intro l hl hchannel
    exact hzero ⟨l, hl, by simpa using hchannel⟩
  have hne : (lightsOf previous).isEmpty = false := List.isEmpty_eq_false_iff.mpr hlights
  rw [lightsOf] at hany hne
  simp only [optimisticLights, hany, hne, lightsOf]
  simp

lemma find_switch (onoff : Bool) (base : List LanLightChannel) :
    (base.map (switch onoff)).find? (fun l => l.channel = 0)
      = (base.find? fun l => l.channel = 0).map (switch onoff) := by
  rw [List.find?_map]
  congr 2
  funext l
  simp

/-- The light on channel 0 that is switched shows what is asked for. -/
lemma switch_of_find {onoff : Bool} {base : List LanLightChannel} {l : LanLightChannel}
    (h : (base.find? fun l => l.channel = 0) = some l) : (switch onoff l).onoff = onoff := by
  have hzero : l.channel = 0 := by simpa using List.find?_some h
  rw [switch, if_pos hzero]

/-! ### The optimistic state -/

section

variable {previous : Option DeviceState} (hshaped : ∀ s, previous = some s → s.WellShaped)

include hshaped

lemma sortedOnce_channelsOf : SortedOnce LanToggleXState.channel (channelsOf previous) := by
  cases previous with
  | none => exact .nil
  | some s => exact (hshaped s rfl).channels

lemma sortedOnce_lightsOf : SortedOnce LanLightState.channel (lightsOf previous) := by
  cases previous with
  | none => exact .nil
  | some s => exact (hshaped s rfl).lights

lemma mem_lightsOf {l : LanLightChannel} (h : previous.bind DeviceState.light = some l) :
    l ∈ lightsOf previous := by
  obtain ⟨s, rfl, hl⟩ := Option.bind_eq_some_iff.mp h
  exact (hshaped s rfl).light l hl

end

variable (c : DevicesContext) (uuid : String) (onoff : Bool) (now : ℤ)
  (hshaped : ∀ s, c.deviceStates.get uuid = some s → s.WellShaped)

include hshaped

/-- Without lights there is none to be switched. -/
lemma keepsShape_of_nil (hlights : lightsOf (c.deviceStates.get uuid) = []) :
    KeepsShape (c.deviceStates.get uuid) onoff (c.optimisticState uuid onoff now)
      ∧ KeepsPrimary (c.deviceStates.get uuid) (c.optimisticState uuid onoff now) := by
  have hlight : (c.deviceStates.get uuid).bind DeviceState.light = none := by
    rw [Option.eq_none_iff_forall_ne_some]
    intro l hl
    have hmem := mem_lightsOf hshaped hl
    rw [hlights] at hmem
    exact absurd hmem List.not_mem_nil
  have hnext := optimisticLights_of_nil onoff hlights hlight
  have hnone : (c.optimisticState uuid onoff now).light = none := by
    simp only [optimisticState, hnext, hlight]
  have hnil : lightsOf (some (c.optimisticState uuid onoff now)) = [] := by
    simp only [lightsOf, optimisticState, hnext, Option.bind_some, Option.getD_none]
  refine ⟨⟨⟨?_, ?_, ?_⟩, ?_, rfl, ?_, ?_, ?_, ?_, rfl, rfl⟩, ?_⟩
  · exact sortedOnce_optimisticChannels onoff (sortedOnce_channelsOf hshaped)
  · rw [hnil]
    exact .nil
  · intro l hl
    rw [hnone] at hl
    cases hl
  · rw [hnone, hlight]
  · intro l hl
    rw [hnone] at hl
    cases hl
  · rw [hnil, hlights]
    exact fun _ => Iff.rfl
  · rw [hnil, hlights]
  · exact filter_optimisticChannels _ onoff
  · rw [KeepsPrimary, hnone, hlight]

omit hshaped in
/-- With a light on channel 0, that light is the distinguished one. -/
lemma optimisticState_of_zero
    (hzero : ∃ l ∈ lightsOf (c.deviceStates.get uuid), l.channel = 0) :
    lightsOf (some (c.optimisticState uuid onoff now))
        = (lightsOf (c.deviceStates.get uuid)).map (switch onoff)
      ∧ (c.optimisticState uuid onoff now).light
        = ((lightsOf (c.deviceStates.get uuid)).find? fun l => l.channel = 0).map
            (switch onoff) := by
  have hnext := optimisticLights_of_zero onoff hzero
  constructor
  · simp only [lightsOf, optimisticState, Option.bind_some] at hnext ⊢
    rw [hnext, Option.getD_some]
  · simp only [optimisticState, hnext]
    exact find_switch onoff _

omit hshaped in
lemma exists_find_zero (hzero : ∃ l ∈ lightsOf (c.deviceStates.get uuid), l.channel = 0) :
    ∃ l, ((lightsOf (c.deviceStates.get uuid)).find? fun l => l.channel = 0) = some l := by
  rw [← Option.isSome_iff_exists, List.find?_isSome]
  simpa using hzero

/-- A light on channel 0 is switched where it is. -/
lemma keepsShape_of_zero (hlight : (c.deviceStates.get uuid).bind DeviceState.light ≠ none)
    (hzero : ∃ l ∈ lightsOf (c.deviceStates.get uuid), l.channel = 0) :
    KeepsShape (c.deviceStates.get uuid) onoff (c.optimisticState uuid onoff now) := by
  obtain ⟨hlights, hnext⟩ := c.optimisticState_of_zero uuid onoff now hzero
  obtain ⟨l, hl⟩ := c.exists_find_zero uuid hzero
  rw [hl, Option.map_some] at hnext
  refine ⟨⟨?_, ?_, ?_⟩, ?_, rfl, ?_, ?_, ?_, ?_, rfl, rfl⟩
  · exact sortedOnce_optimisticChannels onoff (sortedOnce_channelsOf hshaped)
  · rw [hlights]
    exact sortedOnce_map (switch_channel onoff) (sortedOnce_lightsOf hshaped)
  · rintro _ hsome
    obtain rfl := Option.some.inj (hnext.symm.trans hsome)
    rw [hlights]
    exact List.mem_map_of_mem (List.mem_of_find?_eq_some hl)
  · rw [hnext]
    exact ⟨fun h => (by cases h), fun h => absurd h hlight⟩
  · rintro _ hsome
    obtain rfl := Option.some.inj (hnext.symm.trans hsome)
    exact switch_of_find hl
  · intro n
    rw [hlights]
    simp
  · rw [hlights, List.map_map]
    exact List.map_congr_left fun l _ => switch_attributes onoff l
  · exact filter_optimisticChannels _ onoff

/-- Two lights on one channel are one. -/
lemma eq_of_channel_eq {l l' : LanLightChannel} (h : l ∈ lightsOf (c.deviceStates.get uuid))
    (h' : l' ∈ lightsOf (c.deviceStates.get uuid)) (heq : l.channel = l'.channel) : l = l' := by
  have hsorted := List.pairwise_map.mpr (sortedOnce_lightsOf hshaped)
  have hnodup : ((lightsOf (c.deviceStates.get uuid)).map LanLightState.channel).Nodup :=
    hsorted.imp fun hlt => hlt.ne
  exact List.inj_on_of_nodup_map hnodup h h' heq

omit hshaped in
/-- A toggle that keeps the shape finds no lights, or a distinguished one and one on channel 0. -/
lemma of_keepsShape
    (h : KeepsShape (c.deviceStates.get uuid) onoff (c.optimisticState uuid onoff now)) :
    lightsOf (c.deviceStates.get uuid) = []
      ∨ (c.deviceStates.get uuid).bind DeviceState.light ≠ none
        ∧ ∃ l ∈ lightsOf (c.deviceStates.get uuid), l.channel = 0 := by
  by_cases hlights : lightsOf (c.deviceStates.get uuid) = []
  · exact Or.inl hlights
  by_cases hzero : ∃ l ∈ lightsOf (c.deviceStates.get uuid), l.channel = 0
  · refine Or.inr ⟨fun hnone => ?_, hzero⟩
    obtain ⟨-, hnext⟩ := c.optimisticState_of_zero uuid onoff now hzero
    obtain ⟨l, hl⟩ := c.exists_find_zero uuid hzero
    rw [hl, h.null.mpr hnone] at hnext
    cases hnext
  · -- the light that is added is one too many
    obtain ⟨l, hl⟩ := optimisticLights_of_ne_zero onoff hlights hzero
    have hadded : lightsOf (some (c.optimisticState uuid onoff now))
        = l :: lightsOf (c.deviceStates.get uuid) := by
      simp only [lightsOf, optimisticState, Option.bind_some] at hl ⊢
      rw [hl, Option.getD_some]
    have hlength := congrArg List.length h.lights
    rw [List.length_map, List.length_map, hadded, List.length_cons] at hlength
    omega

/-- The distinguished light is kept if it is the one on channel 0. -/
lemma keepsPrimary_of_zero {l : LanLightChannel}
    (hl : (c.deviceStates.get uuid).bind DeviceState.light = some l) (hchannel : l.channel = 0) :
    KeepsPrimary (c.deviceStates.get uuid) (c.optimisticState uuid onoff now) := by
  have hmem := mem_lightsOf hshaped hl
  obtain ⟨-, hnext⟩ := c.optimisticState_of_zero uuid onoff now ⟨l, hmem, hchannel⟩
  obtain ⟨l', hl'⟩ := c.exists_find_zero uuid ⟨l, hmem, hchannel⟩
  have hzero : l'.channel = 0 := by simpa using List.find?_some hl'
  obtain rfl := c.eq_of_channel_eq uuid hshaped (List.mem_of_find?_eq_some hl') hmem
    (hzero.trans hchannel.symm)
  rw [KeepsPrimary, hnext, hl', hl]
  exact congrArg some (switch_attributes onoff l')

omit hshaped in
/-- And only then, if there is a light on channel 0. -/
lemma primary_of_keepsPrimary (hzero : ∃ l ∈ lightsOf (c.deviceStates.get uuid), l.channel = 0)
    (h : KeepsPrimary (c.deviceStates.get uuid) (c.optimisticState uuid onoff now)) :
    ∃ l, (c.deviceStates.get uuid).bind DeviceState.light = some l ∧ l.channel = 0 := by
  obtain ⟨-, hnext⟩ := c.optimisticState_of_zero uuid onoff now hzero
  obtain ⟨l', hl'⟩ := c.exists_find_zero uuid hzero
  have hchannel : l'.channel = 0 := by simpa using List.find?_some hl'
  rw [KeepsPrimary, hnext, hl', Option.map_some, Option.map_some, switch_attributes] at h
  obtain ⟨l, hl, heq⟩ := Option.map_eq_some_iff.mp h.symm
  exact ⟨l, hl, (congrArg LanLightState.channel heq).trans hchannel⟩

/-- **The shape of an optimistic state**: it is that of the state before exactly when there are no
lights, or there is a distinguished one and one on channel 0; and the distinguished light stays the
same one exactly when there is none, or it is on channel 0. -/
theorem prepareOptimisticToggle_keepsShape_iff :
    ∃ s, (c.prepareOptimisticToggle uuid onoff now).deviceStates.get uuid = some s
      ∧ (KeepsShape (c.deviceStates.get uuid) onoff s ↔
        lightsOf (c.deviceStates.get uuid) = []
          ∨ (c.deviceStates.get uuid).bind DeviceState.light ≠ none
            ∧ ∃ l ∈ lightsOf (c.deviceStates.get uuid), l.channel = 0)
      ∧ (KeepsShape (c.deviceStates.get uuid) onoff s
          ∧ KeepsPrimary (c.deviceStates.get uuid) s ↔
        lightsOf (c.deviceStates.get uuid) = []
          ∨ ∃ l, (c.deviceStates.get uuid).bind DeviceState.light = some l ∧ l.channel = 0) := by
  refine ⟨c.optimisticState uuid onoff now, by simp [prepareOptimisticToggle], ?_, ?_⟩
  · constructor
    · exact c.of_keepsShape uuid onoff now
    · rintro (hnil | ⟨hlight, hzero⟩)
      · exact (c.keepsShape_of_nil uuid onoff now hshaped hnil).1
      · exact c.keepsShape_of_zero uuid onoff now hshaped hlight hzero
  · constructor
    · rintro ⟨hshape, hprimary⟩
      refine (c.of_keepsShape uuid onoff now hshape).imp_right fun hlights => ?_
      exact c.primary_of_keepsPrimary uuid onoff now hlights.2 hprimary
    · rintro (hnil | ⟨l, hl, hchannel⟩)
      · exact c.keepsShape_of_nil uuid onoff now hshaped hnil
      · have hmem := mem_lightsOf hshaped hl
        have hlight : (c.deviceStates.get uuid).bind DeviceState.light ≠ none := by
          rw [hl]
          exact Option.some_ne_none l
        exact ⟨c.keepsShape_of_zero uuid onoff now hshaped hlight ⟨l, hmem, hchannel⟩,
          c.keepsPrimary_of_zero uuid onoff now hshaped hl hchannel⟩

end DevicesContext

/-- The page shows one bulb, with a light on one channel. -/
def bulbContext (channel : ℕ) : DevicesContext :=
  { (Devices.init "").context with
    deviceStates := OrdMap.empty.set "bulb"
      { host := "10.0.0.9", channel, onoff := false, updatedAt := 1
        lights := some [⟨channel, false, some 50, none, none⟩]
        light := some ⟨channel, false, some 50, none, none⟩ } }

lemma wellShaped_bulb (channel : ℕ) (s : DeviceState)
    (h : (bulbContext channel).deviceStates.get "bulb" = some s) : s.WellShaped := by
  rw [bulbContext, OrdMap.get_set_self, Option.some.injEq] at h
  subst h
  exact ⟨.nil, List.pairwise_singleton _ _,
    fun l hl => List.mem_singleton.mpr (Option.some.inj hl).symm⟩

/-- A bulb with its light on channel 0. -/
theorem keepsShape_bulb : ∃ s,
    ((bulbContext 0).prepareOptimisticToggle "bulb" true 2).deviceStates.get "bulb" = some s
      ∧ KeepsShape ((bulbContext 0).deviceStates.get "bulb") true s := by
  obtain ⟨s, hs, hshape, -⟩ := (bulbContext 0).prepareOptimisticToggle_keepsShape_iff "bulb" true 2
    (wellShaped_bulb 0)
  refine ⟨s, hs, hshape.mpr (Or.inr ⟨?_, ?_⟩)⟩
  · rw [bulbContext, OrdMap.get_set_self]
    exact Option.some_ne_none _
  · rw [bulbContext, OrdMap.get_set_self]
    exact ⟨_, List.mem_singleton_self _, rfl⟩

/-- A bulb with its light on channel 1 gets a second light there. -/
theorem bulb_loses_shape :
    (∀ s, (bulbContext 1).deviceStates.get "bulb" = some s → s.WellShaped) ∧ ∀ s,
      ((bulbContext 1).prepareOptimisticToggle "bulb" true 2).deviceStates.get "bulb" = some s →
        ¬ KeepsShape ((bulbContext 1).deviceStates.get "bulb") true s := by
  refine ⟨wellShaped_bulb 1, fun s hs hshape => ?_⟩
  rw [DevicesContext.prepareOptimisticToggle, OrdMap.get_set_self, Option.some.injEq] at hs
  subst hs
  have hlength := congrArg List.length hshape.lights
  rw [bulbContext, OrdMap.get_set_self] at hlength
  exact absurd hlength (by decide +kernel)

end Merossity
