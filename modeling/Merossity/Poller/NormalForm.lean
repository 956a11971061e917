import Merossity.Poller.Outcomes

/-!
The normal form of the states that the poller makes.

* `DeviceReading.Normal`: the channels, the lights and the digests of schedules are sorted, and the
  identifiers of schedules are trimmed and not empty. `normal_of_reading`: what is read off a reply
  is normal, whatever the reply.
* `DeviceStateDto.Normal` is that, and a time after the epoch. `CanMake.normal`: the states in the
  store are normal, and so is every state that a poll makes.
-/

namespace Merossity

open Js Machine

section

variable [Runtime]

/-! ### Readings -/

/-- A list that is sorted by channel. -/
def SortedBy {α : Type} (channel : α → ℕ) (l : List α) : Prop :=
  l.Pairwise fun a b => channel a ≤ channel b

omit [Runtime] in
lemma sortedBy_sortByChannel {α : Type} (channel : α → ℕ) (l : List α) :
    SortedBy channel (sortByChannel channel l) := by
  have htotal : Std.Total fun a b : α => channel a ≤ channel b :=
    ⟨fun a b => le_total (channel a) (channel b)⟩
  have htrans : IsTrans α fun a b => channel a ≤ channel b := ⟨fun _ _ _ => le_trans⟩
  exact List.pairwise_insertionSort _ l

omit [Runtime] in
/-- A sorted list stays as it is. -/
lemma SortedBy.sort_eq {α : Type} {channel : α → ℕ} {l : List α} (h : SortedBy channel l) :
    sortByChannel channel l = l :=
  List.Pairwise.insertionSort_eq h

/-- A digest of schedules that is sorted, with identifiers that are trimmed and not empty. -/
structure NormalDigest (l : List LanScheduleDigestEntry) : Prop where
  sorted : l.Pairwise scheduleLe
  ids : ∀ e ∈ l, trim e.id = e.id ∧ e.id ≠ ""

/-- What the parsers of the page leave as it is. -/
structure DeviceReading.Normal (r : DeviceReading) : Prop where
  channels : SortedBy LanToggleXState.channel r.channels
  lights : SortedBy LanLightState.channel r.lights
  timerx : NormalDigest r.timerxDigest
  triggerx : NormalDigest r.triggerxDigest

omit [Runtime] in
lemma mem_decodeItems {α : Type} {decode : Json → Except String (Option α)} {items : List Json} :
    ∀ {out}, decodeItems decode items = .ok out →
      ∀ a ∈ out, ∃ item, decode item = .ok (some a) := by
  induction items with
  | nil =>
      intro out h a ha
      obtain rfl := Except.ok.inj h
      cases ha
  | cons item items ih =>
      intro out h a ha
      rw [decodeItems] at h
      obtain ⟨first, hfirst, h⟩ := bind_eq_ok h
      obtain ⟨rest, hrest, h⟩ := bind_eq_ok h
      obtain rfl := Except.ok.inj h
      rcases List.mem_append.mp ha with ha | ha
      · exact ⟨item, by rw [hfirst, Option.mem_toList.mp ha]⟩
      · exact ih hrest a ha

omit [Runtime] in
/-- The lights of a digest are sorted. -/
lemma sortedBy_extractLanLight {resp : Json} {lights : List LanLightState}
    (h : extractLanLight resp = .ok (some lights)) : SortedBy LanLightState.channel lights := by
  rw [extractLanLight] at h
  obtain ⟨out, -, h⟩ := bind_eq_ok h
  obtain ⟨l, -, rfl⟩ := Option.map_eq_some_iff.mp (Except.ok.inj h)
  exact sortedBy_sortByChannel _ l

variable [LocaleOrder]

lemma normalDigest_extract {resp : Json} {kind : String} {l : List LanScheduleDigestEntry}
    (h : extractLanScheduleDigest resp kind = .ok l) : NormalDigest l := by
  rw [extractLanScheduleDigest] at h
  split at h
  next c hc =>
    obtain ⟨out, hout, h⟩ := bind_eq_ok h
    obtain rfl := Except.ok.inj h
    refine ⟨List.pairwise_insertionSort _ out, fun e he => ?_⟩
    obtain ⟨item, hitem⟩ := mem_decodeItems hout e ((List.mem_insertionSort _).mp he)
    rw [scheduleItem] at hitem
    obtain ⟨channel, -, hitem⟩ := bind_eq_ok hitem
    obtain ⟨id, -, hitem⟩ := bind_eq_ok hitem
    obtain ⟨n, -, he⟩ := Option.bind_eq_some_iff.mp (Except.ok.inj hitem)
    split at he
    next => cases he
    next hid =>
      obtain rfl := Option.some.inj he
      exact ⟨trim_trim id, hid⟩
  next =>
    obtain rfl := Except.ok.inj h
    exact ⟨.nil, fun e he => absurd he List.not_mem_nil⟩

/-- What is read off a reply is normal, whatever the reply. -/
theorem normal_of_reading {host : String} {resp : Json} {r : DeviceReading}
    (h : deviceReading host resp = .ok r) : r.Normal := by
  rw [deviceReading] at h
  obtain ⟨toggles, -, h⟩ := bind_eq_ok h
  obtain ⟨lights, hlights, h⟩ := bind_eq_ok h
  dsimp only at h
  split at h
  next => cases h
  next =>
    split at h
    next => cases h
    next channel onoff _ =>
      obtain ⟨timerx, htimerx, h⟩ := bind_eq_ok h
      obtain ⟨triggerx, htriggerx, h⟩ := bind_eq_ok h
      obtain rfl := Except.ok.inj h
      refine ⟨sortedBy_sortByChannel _ _, ?_, normalDigest_extract htimerx,
        normalDigest_extract htriggerx⟩
      cases lights with
      | some lights => exact sortedBy_extractLanLight hlights
      | none => exact .nil

/-! ### States -/

/-- A state of which the reading is normal, and the time is after the epoch. -/
structure DeviceStateDto.Normal (s : DeviceStateDto) : Prop where
  reading : s.toDeviceReading.Normal
  updatedAt : 0 < s.updatedAt

namespace Poller

/-- The clock shows a time after the epoch when a poll goes on. -/
def clocked : Act → Bool
  | .pollGoesOn _ _ now _ => 0 < now
  | _ => true

/-- Steps by a clock that is set. -/
def Clocked (_ : Poller) (a : Act) : Prop := clocked a = true

omit [LocaleOrder] in
lemma normal_unknownReading (p : Poller) (uuid : String) : (p.unknownReading uuid).Normal where
  channels := .nil
  lights := .nil
  timerx := ⟨.nil, fun _ he => absurd he List.not_mem_nil⟩
  triggerx := ⟨.nil, fun _ he => absurd he List.not_mem_nil⟩

omit [Runtime] [LocaleOrder] in
lemma nextUpdatedAt_pos (prev : Option DeviceStateDto) {now : ℤ} (h : 0 < now) :
    0 < nextUpdatedAt prev now := by
  cases prev with
  | none => exact h
  | some prev => exact lt_max_of_lt_left h

/-- The state that a poll makes is normal if the store is. -/
lemma Reachable.normal_nextState {file : FileText} {p : Poller} {a : Act} {c : Completion}
    (hp : p.Reachable file)
    (hstore : ∀ uuid s, p.stateByUuid.get uuid = some s → s.Normal) (ha : p.Clocked a)
    (hc : p.completion a = some c) : (p.nextState c).Normal := by
  obtain ⟨reply, random, task, rfl, -⟩ := completion_eq_some hc
  refine ⟨?_, by rw [nextState_updatedAt]; exact nextUpdatedAt_pos _ (of_decide_eq_true ha)⟩
  rw [nextState]
  split
  next reading hok =>
    obtain ⟨host, resp, -, hreading⟩ := hp.delivered_of_completion hc hok
    exact normal_of_reading hreading
  next e herror =>
    show (((p.stateByUuid.get c.uuid).map DeviceStateDto.toDeviceReading).getD
      (p.unknownReading c.uuid)).Normal
    cases hs : p.stateByUuid.get c.uuid with
    | some s => exact (hstore c.uuid s hs).reading
    | none => exact normal_unknownReading p c.uuid

omit [LocaleOrder] in
/-- What a poll stores is what it makes, or what was there, but for the reason. -/
lemma normal_stored {p : Poller} {c : Completion} (hnext : (p.nextState c).Normal)
    (hstore : ∀ uuid s, p.stateByUuid.get uuid = some s → s.Normal) : (p.stored c).Normal := by
  cases hchanged : hasMaterialStateChange (p.stateByUuid.get c.uuid) (p.nextState c) with
  | true =>
      rw [stored_of_changed hchanged]
      exact hnext
  | false =>
      obtain ⟨s, hs, -⟩ := eq_some_of_unchanged hchanged
      have hnormal := hstore c.uuid s hs
      rw [hs] at hchanged
      rw [stored_of_unchanged hs hchanged]
      split
      · exact ⟨hnormal.reading, hnormal.updatedAt⟩
      · exact hnormal

/-- A state is one that the poller makes: it is in the store, or a poll that ends makes it. -/
def Makes (p : Poller) (s : DeviceStateDto) : Prop :=
  (∃ uuid, p.stateByUuid.get uuid = some s) ∨
    ∃ a c, p.Clocked a ∧ p.completion a = some c ∧ p.nextState c = s

/-- A state is one that a poller can make, in a run by a clock that is set. -/
def CanMake (s : DeviceStateDto) : Prop :=
  ∃ file p, Reaches Poller.step Clocked (init file) p ∧ p.Makes s

/-- **Normal form.** In every run by a clock that is set, every state that the poller makes is
normal. -/
theorem CanMake.normal {s : DeviceStateDto} (h : CanMake s) : s.Normal := by
  obtain ⟨file, p, h, hs⟩ := h
  have hstore : p.Reachable file ∧ ∀ uuid s, p.stateByUuid.get uuid = some s → s.Normal := by
    refine h.invariant (I := fun p => p.Reachable file ∧
      ∀ uuid s, p.stateByUuid.get uuid = some s → s.Normal) ⟨.refl, fun _ _ hs => by cases hs⟩ ?_
    rintro p a p' ⟨hp, hstore⟩ ha hstep
    refine ⟨hp.tail a trivial hstep, fun uuid s hs => ?_⟩
    rw [step_stateByUuid hstep uuid] at hs
    split at hs
    next c hc =>
      split at hs
      next =>
        obtain rfl := Option.some.inj hs
        exact normal_stored (hp.normal_nextState hstore ha hc) hstore
      next => exact hstore uuid s hs
    next => exact hstore uuid s hs
  rcases hs with ⟨uuid, hs⟩ | ⟨a, c, ha, hc, rfl⟩
  · exact hstore.2 uuid s hs
  · exact hstore.1.normal_nextState hstore.2 ha hc

end Poller

end

end Merossity
