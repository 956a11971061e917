import Mathlib.Logic.Relation
import Merossity.Poller.State

/-!
The test for a material change, `hasMaterialStateChange` of `api/state-poller.ts`, on states as
their type has them: an attribute of a light may be a number, `null`, or absent.

* `Dto.hasMaterialStateChange` is the function with its loops and early exits.
* `Dto.DeviceStateDto.seen` forgets which attributes are `null` and which are absent.
  `hasMaterialStateChange_seen`: the test cannot see the difference, so it is the test of the states
  that the poller makes.
* `unchanged_iff_same` says which states it does not tell apart: this is an equivalence, so that a
  chain of suppressed updates does not drift.
-/

namespace Merossity.Dto

/-! ### States -/

/-- A property of a light that is optional. -/
inductive Attribute where
  | absent
  | null
  | number (q : ℚ)
  deriving DecidableEq

/-- `v ?? null`. -/
def Attribute.orNull : Attribute → Option ℚ
  | .absent => none
  | .null => none
  | .number q => some q

structure LanLightState where
  channel : ℕ
  onoff : Bool
  luminance : Attribute
  temperature : Attribute
  rgb : Attribute

structure DeviceStateDto where
  uuid : String
  host : String
  kind : DeviceKind
  channel : ℕ
  onoff : Bool
  channels : List LanToggleXState
  lights : List LanLightState
  light : Option LanLightState
  timerxDigest : List LanScheduleDigestEntry
  triggerxDigest : List LanScheduleDigestEntry
  updatedAt : ℤ
  source : PollReason
  stale : Bool
  error : Option String

/-! ### The test -/

/-- `for (let i = 0; i < a.length; i++)`, left at the first two items that differ. -/
def someDiffer {α : Type} (differ : α → α → Bool) (a b : List α) : Bool :=
  (a.zip b).any fun e => differ e.1 e.2

/-- `sameChannels`. -/
def sameChannels (a b : List LanToggleXState) : Bool :=
  if a.length ≠ b.length then false
  else !someDiffer (fun left right => left.channel ≠ right.channel || left.onoff ≠ right.onoff) a b

/-- `sameScheduleDigest`. -/
def sameScheduleDigest (a b : List LanScheduleDigestEntry) : Bool :=
  if a.length ≠ b.length then false
  else !someDiffer (fun left right =>
    left.channel ≠ right.channel || left.id ≠ right.id || left.count ≠ right.count) a b

/-- The comparisons of two lights. -/
def lightsDiffer (a b : LanLightState) : Bool :=
  a.channel ≠ b.channel || a.onoff ≠ b.onoff || a.luminance.orNull ≠ b.luminance.orNull ||
    a.temperature.orNull ≠ b.temperature.orNull || a.rgb.orNull ≠ b.rgb.orNull

/-- `hasMaterialStateChange`. -/
def hasMaterialStateChange (prev : Option DeviceStateDto) (next : DeviceStateDto) : Bool :=
  match prev with
  | none => true
  | some prev =>
      if prev.host ≠ next.host then true
      else if prev.kind ≠ next.kind then true
      else if prev.channel ≠ next.channel then true
      else if prev.onoff ≠ next.onoff then true
      else if prev.stale ≠ next.stale then true
      else if !sameChannels prev.channels next.channels then true
      else if !sameScheduleDigest prev.timerxDigest next.timerxDigest then true
      else if !sameScheduleDigest prev.triggerxDigest next.triggerxDigest then true
      else if prev.lights.length ≠ next.lights.length then true
      else if someDiffer lightsDiffer prev.lights next.lights then true
      else if prev.light.isSome ≠ next.light.isSome then true
      else match prev.light, next.light with
        | some prevLight, some nextLight => lightsDiffer prevLight nextLight
        | _, _ => false

/-! ### What is compared -/

/-- Two lights with the same channel and switch, and the same attributes, an absent one being the
same as `null`. -/
structure SameLight (a b : LanLightState) : Prop where
  channel : a.channel = b.channel
  onoff : a.onoff = b.onoff
  luminance : a.luminance.orNull = b.luminance.orNull
  temperature : a.temperature.orNull = b.temperature.orNull
  rgb : a.rgb.orNull = b.rgb.orNull

/-- Two states that are the same, except for the uuid, the time, the source and the error. -/
structure SameState (prev next : DeviceStateDto) : Prop where
  host : prev.host = next.host
  kind : prev.kind = next.kind
  channel : prev.channel = next.channel
  onoff : prev.onoff = next.onoff
  stale : prev.stale = next.stale
  channels : prev.channels = next.channels
  lights : List.Forall₂ SameLight prev.lights next.lights
  light : Option.Rel SameLight prev.light next.light
  timerxDigest : prev.timerxDigest = next.timerxDigest
  triggerxDigest : prev.triggerxDigest = next.triggerxDigest

/-- The light, with `null` for what is absent. -/
def LanLightState.seen (l : LanLightState) : Merossity.LanLightState where
  channel := l.channel
  onoff := l.onoff
  luminance := l.luminance.orNull
  temperature := l.temperature.orNull
  rgb := l.rgb.orNull

/-- The state, with `null` for what is absent. -/
def DeviceStateDto.seen (s : DeviceStateDto) : Merossity.DeviceStateDto where
  host := s.host
  kind := s.kind
  channel := s.channel
  onoff := s.onoff
  channels := s.channels
  lights := s.lights.map LanLightState.seen
  light := s.light.map LanLightState.seen
  timerxDigest := s.timerxDigest
  triggerxDigest := s.triggerxDigest
  uuid := s.uuid
  updatedAt := s.updatedAt
  source := s.source
  stale := s.stale
  error := s.error

lemma sameLight_iff_seen {a b : LanLightState} : SameLight a b ↔ a.seen = b.seen := by
  rw [LanLightState.seen, LanLightState.seen, Merossity.LanLightState.mk.injEq]
  constructor
  · rintro ⟨hchannel, honoff, hluminance, htemperature, hrgb⟩
    exact ⟨hchannel, honoff, hluminance, htemperature, hrgb⟩
  · rintro ⟨hchannel, honoff, hluminance, htemperature, hrgb⟩
    exact ⟨hchannel, honoff, hluminance, htemperature, hrgb⟩

lemma forall₂_sameLight_iff {as bs : List LanLightState} :
    List.Forall₂ SameLight as bs ↔ as.map LanLightState.seen = bs.map LanLightState.seen := by
  induction as generalizing bs with
  | nil => cases bs <;> simp
  | cons a as ih => cases bs <;> simp [sameLight_iff_seen, ih]

lemma rel_sameLight_iff {a b : Option LanLightState} :
    Option.Rel SameLight a b ↔ a.map LanLightState.seen = b.map LanLightState.seen := by
  cases a <;> cases b <;> simp [sameLight_iff_seen]

/-- The states are the same if a client sees the same. -/
lemma sameState_iff_visible {prev next : DeviceStateDto} :
    SameState prev next ↔ prev.seen.visible = next.seen.visible := by
  rw [DeviceStateDto.seen, DeviceStateDto.seen, Merossity.DeviceStateDto.visible,
    Merossity.DeviceStateDto.visible, Prod.mk.injEq, DeviceReading.mk.injEq,
    ← forall₂_sameLight_iff, ← rel_sameLight_iff]
  constructor
  · rintro ⟨hhost, hkind, hchannel, honoff, hstale, hchannels, hlights, hlight, htimerx, htriggerx⟩
    exact ⟨⟨hhost, hkind, hchannel, honoff, hchannels, hlights, hlight, htimerx, htriggerx⟩, hstale⟩
  · rintro ⟨⟨hhost, hkind, hchannel, honoff, hchannels, hlights, hlight, htimerx, htriggerx⟩,
      hstale⟩
    exact ⟨hhost, hkind, hchannel, honoff, hstale, hchannels, hlights, hlight, htimerx, htriggerx⟩

/-! ### The loops -/

/-- Lists of the same length of which no two items differ are the same item by item. -/
lemma someDiffer_eq_false_iff {α : Type} {differ : α → α → Bool} {R : α → α → Prop}
    (h : ∀ a b, differ a b = false ↔ R a b) (as bs : List α) :
    as.length = bs.length ∧ someDiffer differ as bs = false ↔ List.Forall₂ R as bs := by
  induction as generalizing bs with
  | nil => cases bs <;> simp [someDiffer]
  | cons a as ih =>
      cases bs with
      | nil => simp
      | cons b bs =>
          rw [List.forall₂_cons, ← ih bs, ← h a b]
          simp only [someDiffer, List.zip_cons_cons, List.any_cons, Bool.or_eq_false_iff,
            List.length_cons, Nat.add_right_cancel_iff]
          tauto

/-- Two lists that are compared by a loop after their lengths. -/
lemma loop_eq_true_iff {α : Type} {differ : α → α → Bool}
    (h : ∀ a b, differ a b = false ↔ a = b) (as bs : List α) :
    (if as.length ≠ bs.length then false else !someDiffer differ as bs) = true ↔ as = bs := by
  have hlists := someDiffer_eq_false_iff h as bs
  rw [List.forall₂_eq_eq_eq] at hlists
  rw [← hlists]
  split
  next hlen => simp [hlen]
  next hlen => simp [not_not.mp hlen]

lemma sameChannels_eq_true_iff (a b : List LanToggleXState) : sameChannels a b = true ↔ a = b := by
  refine loop_eq_true_iff (fun a b => ?_) a b
  rw [LanToggleXState.mk.injEq]
  simp

lemma sameScheduleDigest_eq_true_iff (a b : List LanScheduleDigestEntry) :
    sameScheduleDigest a b = true ↔ a = b := by
  refine loop_eq_true_iff (fun a b => ?_) a b
  rw [LanScheduleDigestEntry.mk.injEq]
  simp [and_assoc]

lemma lightsDiffer_eq_false_iff (a b : LanLightState) :
    lightsDiffer a b = false ↔ SameLight a b := by
  rw [sameLight_iff_seen, LanLightState.seen, LanLightState.seen,
    Merossity.LanLightState.mk.injEq]
  simp [lightsDiffer, and_assoc]

/-- The primary lights, as they are compared last. -/
lemma primaryLights_eq_false_iff (a b : Option LanLightState) :
    (a.isSome = b.isSome ∧ (match a, b with
      | some a, some b => lightsDiffer a b
      | _, _ => false) = false) ↔ Option.Rel SameLight a b := by
  cases a <;> cases b <;> simp [lightsDiffer_eq_false_iff]

/-- No change is material exactly if the states are the same. -/
lemma hasMaterialStateChange_eq_false_iff (prev next : DeviceStateDto) :
    hasMaterialStateChange (some prev) next = false ↔ SameState prev next := by
  have hguard : ∀ (c : Prop) [Decidable c] (rest : Bool),
      (if c then true else rest) = false ↔ ¬ c ∧ rest = false := by
    intro c _ rest
    by_cases hc : c <;> simp [hc]
  unfold hasMaterialStateChange
  simp only [hguard]
  constructor
  · rintro ⟨hhost, hkind, hchannel, honoff, hstale, hchannels, htimerx, htriggerx, hlen, hdiffer,
      hsome, hlight⟩
    refine ⟨not_not.mp hhost, not_not.mp hkind, not_not.mp hchannel, not_not.mp honoff,
      not_not.mp hstale, ?_, ?_, ?_, ?_, ?_⟩
    · exact (sameChannels_eq_true_iff _ _).mp (by simpa using hchannels)
    · exact (someDiffer_eq_false_iff lightsDiffer_eq_false_iff _ _).mp
        ⟨not_not.mp hlen, by simpa using hdiffer⟩
    · exact (primaryLights_eq_false_iff _ _).mp ⟨not_not.mp hsome, hlight⟩
    · exact (sameScheduleDigest_eq_true_iff _ _).mp (by simpa using htimerx)
    · exact (sameScheduleDigest_eq_true_iff _ _).mp (by simpa using htriggerx)
  · rintro ⟨hhost, hkind, hchannel, honoff, hstale, hchannels, hlights, hlight, htimerx, htriggerx⟩
    obtain ⟨hlen, hdiffer⟩ :=
      (someDiffer_eq_false_iff lightsDiffer_eq_false_iff _ _).mpr hlights
    obtain ⟨hsome, hprimary⟩ := (primaryLights_eq_false_iff _ _).mpr hlight
    refine ⟨not_not.mpr hhost, not_not.mpr hkind, not_not.mpr hchannel, not_not.mpr honoff,
      not_not.mpr hstale, ?_, ?_, ?_, not_not.mpr hlen, by simp [hdiffer], not_not.mpr hsome,
      hprimary⟩
    · simp [(sameChannels_eq_true_iff _ _).mpr hchannels]
    · simp [(sameScheduleDigest_eq_true_iff _ _).mpr htimerx]
    · simp [(sameScheduleDigest_eq_true_iff _ _).mpr htriggerx]

/-- The test cannot tell `null` from what is absent: it is the test of the states that the poller
makes. -/
theorem hasMaterialStateChange_seen (prev : Option DeviceStateDto) (next : DeviceStateDto) :
    hasMaterialStateChange prev next
      = Merossity.hasMaterialStateChange (prev.map DeviceStateDto.seen) next.seen := by
  cases prev with
  | none => rfl
  | some prev =>
      have hsame : SameState prev next ↔ prev.seen.visible = next.seen.visible :=
        sameState_iff_visible
      rw [← hasMaterialStateChange_eq_false_iff,
        ← Merossity.hasMaterialStateChange_eq_false] at hsame
      rw [Option.map_some, Bool.eq_iff_iff, ← not_iff_not]
      simpa only [Bool.not_eq_true] using hsame

/-! ### Suppressed updates -/

/-- The update from one state to the other is suppressed. -/
def Unchanged (prev next : DeviceStateDto) : Prop := hasMaterialStateChange (some prev) next = false

lemma equivalence_unchanged : Equivalence Unchanged where
  refl s := (hasMaterialStateChange_eq_false_iff s s).mpr (sameState_iff_visible.mpr rfl)
  symm h := by
    rw [Unchanged, hasMaterialStateChange_eq_false_iff, sameState_iff_visible] at h ⊢
    exact h.symm
  trans h h' := by
    rw [Unchanged, hasMaterialStateChange_eq_false_iff, sameState_iff_visible] at h h' ⊢
    exact h.trans h'

/-- A chain of suppressed updates ends at a state that is the same as the first one. -/
lemma unchanged_of_chain {first last : DeviceStateDto}
    (h : Relation.ReflTransGen Unchanged first last) : Unchanged first last := by
  induction h with
  | refl => exact equivalence_unchanged.refl first
  | tail _ hstep ih => exact equivalence_unchanged.trans ih hstep

/-- **Material changes** are the changes of what is compared: the test is false exactly if the two
states are the same, which is an equivalence, and updates that are suppressed one after the other
never add up to a change. -/
theorem unchanged_iff_same :
    (∀ prev next, Unchanged prev next ↔ SameState prev next) ∧ Equivalence Unchanged
      ∧ ∀ first last, Relation.ReflTransGen Unchanged first last → SameState first last :=
  ⟨hasMaterialStateChange_eq_false_iff, equivalence_unchanged, fun first last h =>
    (hasMaterialStateChange_eq_false_iff first last).mp (unchanged_of_chain h)⟩

end Merossity.Dto
