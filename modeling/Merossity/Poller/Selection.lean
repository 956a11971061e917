import Merossity.Lib.Sorting
import Merossity.Poller.Limits

/-!
Which polls a tick starts.

* `dueUuids` are the devices that are due: known, without a state poll, and with a time that has
  come. A tick takes them in the order of their times (`stableSort_due`).
* `keys_startPolls`: the loop takes as many as there is room for, up to a device without a uuid,
  which ends it.
* `startsDuePolls_iff`: a tick starts the polls that it should exactly if no such device is due, or
  the room is used up by those that come before it.
-/

namespace Merossity

open Js Machine

namespace Poller

/-! ### Devices that are due -/

/-- The time from which on a poll of the device is due. -/
def dueAt (p : Poller) (uuid : String) : ℤ :=
  ((p.metaByUuid.get uuid).map PollMeta.nextDueAt).getD 0

/-- No state poll of the device is under way, and its time has come. -/
def isDue (p : Poller) (now : ℤ) (uuid : String) : Bool :=
  p.knownHosts.has uuid && !p.inFlight.entries.has uuid &&
    match p.metaByUuid.get uuid with
    | some pm => pm.nextDueAt ≤ now
    | none => false

/-- The known devices that are due. -/
def dueUuids (p : Poller) (now : ℤ) : List String := p.knownHosts.keys.filter (p.isDue now)

/-- The number of polls that may be started. -/
def pollRoom (p : Poller) : ℕ := POLL_MAX_CONCURRENCY - p.inFlight.entries.size

/-- The devices of the polls that a step starts. -/
def startedPolls (p p' : Poller) : List String :=
  (p'.inFlight.tasks.drop p.inFlight.tasks.length).map Flight.Task.key

lemma due_eq (p : Poller) (now : ℤ) : p.due now = p.metaByUuid.keys.filter (p.isDue now) := by
  rw [due, candidates, OrdMap.keys, List.filter_filter, List.filter_map]
  refine congrArg (List.map Prod.fst) (List.filter_congr fun e he => ?_)
  have hget : p.metaByUuid.get e.1 = some e.2 := Assoc.get_of_mem p.metaByUuid.nodup he
  simp only [Function.comp, isDue, hget]
  cases p.knownHosts.has e.1 <;> cases p.inFlight.entries.has e.1 <;> simp

lemma nodup_due (p : Poller) (now : ℤ) : (p.due now).Nodup := by
  rw [due_eq]
  exact p.metaByUuid.nodup.filter _

lemma has_of_isDue {p : Poller} {now : ℤ} {uuid : String} (h : p.isDue now uuid = true) :
    p.knownHosts.has uuid = true ∧ p.inFlight.entries.has uuid = false
      ∧ p.metaByUuid.has uuid = true := by
  rw [isDue, Bool.and_eq_true, Bool.and_eq_true] at h
  obtain ⟨⟨hknown, hfree⟩, htime⟩ := h
  refine ⟨hknown, by simpa using hfree, ?_⟩
  cases hget : p.metaByUuid.get uuid with
  | none =>
      rw [hget] at htime
      cases htime
  | some pm => exact (OrdMap.has_iff _).mpr ⟨pm, hget⟩

lemma mem_due_iff {p : Poller} {now : ℤ} {uuid : String} :
    uuid ∈ p.due now ↔ p.isDue now uuid = true := by
  rw [due_eq, List.mem_filter, OrdMap.mem_keys_iff]
  exact ⟨And.right, fun h => ⟨(has_of_isDue h).2.2, h⟩⟩

lemma mem_dueUuids_iff {p : Poller} {now : ℤ} {uuid : String} :
    uuid ∈ p.dueUuids now ↔ p.isDue now uuid = true := by
  rw [dueUuids, List.mem_filter, OrdMap.mem_keys_iff]
  exact ⟨And.right, fun h => ⟨(has_of_isDue h).1, h⟩⟩

lemma nodup_dueUuids (p : Poller) (now : ℤ) : (p.dueUuids now).Nodup :=
  p.knownHosts.nodup.filter _

lemma due_perm (p : Poller) (now : ℤ) : (p.due now).Perm (p.dueUuids now) := by
  refine (List.perm_ext_iff_of_nodup (p.nodup_due now) (p.nodup_dueUuids now)).mpr ?_
  intro uuid
  rw [mem_due_iff, mem_dueUuids_iff]

/-- A tick sorts the devices that are due by their times. -/
lemma stableSort_due (p : Poller) (now : ℤ) :
    StableSort (fun a b => p.dueAt a ≤ p.dueAt b) (p.sortByTime PollMeta.nextDueAt (p.due now))
      (p.due now) :=
  stableSort_insertionSort (r := fun a b => p.dueAt a ≤ p.dueAt b) (p.due now)

/-! ### The loop -/

end Poller

/-- The loop takes what there is room for, up to an empty uuid. -/
lemma taken_eq (k : ℕ) (uuids : List String) :
    taken k uuids = (uuids.take k).takeWhile (· ≠ "") := by
  induction uuids generalizing k with
  | nil => cases k <;> rfl
  | cons uuid rest ih =>
      cases k with
      | zero => rfl
      | succ k =>
          rw [taken, List.take_succ_cons, List.takeWhile_cons, ← ih k]
          by_cases huuid : uuid = "" <;> simp [huuid]

namespace Poller

variable [Runtime]

/-- The polls that the loop starts. -/
lemma keys_startPolls (now : ℤ) (uuids : List String) :
    ∀ p : Poller, uuids.Nodup → (∀ uuid ∈ uuids, p.inFlight.entries.has uuid = false) →
      (startPolls now uuids p).inFlight.tasks.map Flight.Task.key =
        p.inFlight.tasks.map Flight.Task.key ++ taken p.pollRoom uuids := by
  induction uuids with
  | nil =>
      intro p _ _
      cases hroom : p.pollRoom <;> simp [startPolls, taken]
  | cons uuid rest ih =>
      intro p hnodup hfree
      obtain ⟨hnotin, hnodup⟩ := List.nodup_cons.mp hnodup
      obtain ⟨huuid, hrest⟩ := List.forall_mem_cons.mp hfree
      rw [startPolls]
      split_ifs with hlt hempty
      · obtain ⟨k, hk⟩ : ∃ k, p.pollRoom = k + 1 :=
          Nat.exists_eq_succ_of_ne_zero (by rw [pollRoom]; omega)
        rw [hk, taken, if_pos hempty, List.append_nil]
      · have hget : p.inFlight.entries.get uuid = none := by simpa [OrdMap.has] using huuid
        have hroom : p.pollRoom = (p.pollDevice uuid .poller none now).pollRoom + 1 := by
          rw [pollRoom, pollRoom, size_pollDevice, huuid, if_neg Bool.false_ne_true]
          omega
        have hkeys : (p.pollDevice uuid .poller none now).inFlight.tasks.map Flight.Task.key =
            p.inFlight.tasks.map Flight.Task.key ++ [uuid] := by
          rw [pollDevice, Flight.enter_starts hget, List.map_append]
          rfl
        have hothers : ∀ v ∈ rest,
            (p.pollDevice uuid .poller none now).inFlight.entries.has v = false := by
          intro v hv
          have hne : uuid ≠ v := fun heq => hnotin (heq ▸ hv)
          have hhas : (p.pollDevice uuid .poller none now).inFlight.entries.has v =
              (decide (uuid = v) || p.inFlight.entries.has v) := Flight.has_enter _ _ _ _
          simp [hhas, hne, hrest v hv]
        rw [ih _ hnodup hothers, hkeys, hroom, taken, if_neg hempty, List.append_assoc]
        rfl
      · have hroom : p.pollRoom = 0 := by
          rw [pollRoom]
          omega
        rw [hroom, taken, List.append_nil]

/-- The polls that a tick starts. -/
lemma startedPolls_tickBody (p : Poller) (now : ℤ) :
    p.startedPolls (p.tickBody now) =
      taken p.pollRoom (p.sortByTime PollMeta.nextDueAt (p.due now)) := by
  have hsorted := p.stableSort_due now
  have hkeys := keys_startPolls now (p.sortByTime PollMeta.nextDueAt (p.due now)) p
    (hsorted.perm.nodup_iff.mpr (p.nodup_due now)) fun uuid huuid =>
      (has_of_isDue (mem_due_iff.mp (hsorted.mem_iff.mp huuid))).2.1
  have hbody : (p.tickBody now).inFlight =
      (startPolls now (p.sortByTime PollMeta.nextDueAt (p.due now)) p).inFlight :=
    inFlight_startTelemetry now _ _
  rw [startedPolls, hbody, List.map_drop, hkeys]
  exact List.drop_left' (List.length_map _)

/-! ### A tick -/

/-- The poller ticks at `now`, the hosts having been read before if they had to be. -/
def Ticks (p : Poller) (now : ℤ) (p' : Poller) : Prop :=
  p.step (.tick now) = some p' ∧ p.tick = .idle ∧ p'.tick = .idle
    ∨ p.step (.tickGoesOn now) = some p'

lemma Ticks.eq {p p' : Poller} {now : ℤ} (h : p.Ticks now p') : p' = p.tickBody now := by
  rcases h with ⟨h, hidle, hidle'⟩ | h
  · simp only [step, hidle] at h
    split at h
    · obtain rfl := Option.some.inj h
      cases hidle'
    · exact (Option.some.inj h).symm
  · rw [step] at h
    split at h
    · exact (Option.some.inj h).symm
    · cases h

/-- The polls that a tick starts are those of devices that are due, one each, as many as there is
room for, and no device that is left was due before one that is not. -/
structure StartsDuePolls (p : Poller) (now : ℤ) (p' : Poller) : Prop where
  count : (p.startedPolls p').length = min (p.dueUuids now).length p.pollRoom
  nodup : (p.startedPolls p').Nodup
  due : ∀ uuid ∈ p.startedPolls p', uuid ∈ p.dueUuids now
  earliest : ∀ uuid ∈ p.startedPolls p', ∀ other ∈ p.dueUuids now,
    other ∉ p.startedPolls p' → p.dueAt uuid ≤ p.dueAt other

/-- The devices that are due and come before the one without a uuid: their times are earlier, or the
same and they are known for longer. -/
def aheadOfBlank (p : Poller) (now : ℤ) : List String :=
  (p.dueUuids now).filter (Ahead (fun a b => p.dueAt a ≤ p.dueAt b) p.metaByUuid.keys "")

omit [Runtime] in
/-- The devices in front of the one without a uuid, when they are sorted. -/
lemma length_aheadOfBlank {p : Poller} {now : ℤ} {pre post : List String}
    (h : p.sortByTime PollMeta.nextDueAt (p.due now) = pre ++ "" :: post) :
    pre.length = (p.aheadOfBlank now).length := by
  have hsorted := p.stableSort_due now
  rw [h] at hsorted
  have hnodup := hsorted.perm.nodup_iff.mpr (p.nodup_due now)
  have hblank : p.isDue now "" = true := mem_due_iff.mp (hsorted.mem_iff.mp (by simp))
  have hnodup' : (p.aheadOfBlank now).Nodup := (p.nodup_dueUuids now).filter _
  refine ((List.perm_ext_iff_of_nodup hnodup.of_append_left hnodup').mpr fun uuid => ?_).length_eq
  rw [hsorted.mem_prefix_iff (p.nodup_due now), mem_due_iff, aheadOfBlank, List.mem_filter,
    mem_dueUuids_iff, decide_eq_true_iff]
  refine and_congr_right fun hdue => or_congr_right (and_congr_right fun _ => ?_)
  rw [due_eq]
  constructor
  · exact fun hsub => hsub.trans List.filter_sublist
  · intro hsub
    have hfilter := hsub.filter (p.isDue now)
    simpa only [List.filter_cons, hdue, hblank, if_true, List.filter_nil] using hfilter

omit [Runtime] in
/-- No device without a uuid is among those that there is room for. -/
lemma blank_notMem_iff (p : Poller) (now : ℤ) :
    "" ∉ (p.sortByTime PollMeta.nextDueAt (p.due now)).take p.pollRoom ↔
      p.isDue now "" = false ∨ p.pollRoom ≤ (p.aheadOfBlank now).length := by
  have hsorted := p.stableSort_due now
  by_cases hdue : p.isDue now "" = true
  · obtain ⟨pre, post, heq⟩ := List.append_of_mem (hsorted.mem_iff.mpr (mem_due_iff.mpr hdue))
    have hnodup := hsorted.perm.nodup_iff.mpr (p.nodup_due now)
    rw [heq] at hnodup
    have hpre : "" ∉ pre := fun hmem =>
      (List.nodup_append.mp hnodup).2.2 "" hmem "" List.mem_cons_self rfl
    rw [heq, ← length_aheadOfBlank heq, hdue]
    constructor
    · intro hnot
      right
      by_contra hlt
      refine hnot ?_
      obtain ⟨k, hk⟩ : ∃ k, p.pollRoom - pre.length = k + 1 :=
        Nat.exists_eq_succ_of_ne_zero (by omega)
      rw [List.take_append, hk, List.take_succ_cons]
      exact List.mem_append_right _ List.mem_cons_self
    · rintro (hnone | hle)
      · cases hnone
      · rw [List.take_append_of_le_length hle]
        exact fun hmem => hpre (List.mem_of_mem_take hmem)
  · have hnot : "" ∉ p.sortByTime PollMeta.nextDueAt (p.due now) := fun hmem =>
      hdue (mem_due_iff.mp (hsorted.mem_iff.mp hmem))
    refine ⟨fun _ => .inl (by simpa using hdue), fun _ hmem => hnot (List.mem_of_mem_take hmem)⟩

omit [Runtime] in
lemma length_sortByTime_due (p : Poller) (now : ℤ) :
    (p.sortByTime PollMeta.nextDueAt (p.due now)).length = (p.dueUuids now).length :=
  ((p.stableSort_due now).perm.trans (p.due_perm now)).length_eq

omit [Runtime] in
/-- The front of the queue, as far as there is room for, is what a tick is to start. -/
lemma startsDuePolls_of_take {p p' : Poller} {now : ℤ}
    (h : p.startedPolls p' = (p.sortByTime PollMeta.nextDueAt (p.due now)).take p.pollRoom) :
    p.StartsDuePolls now p' := by
  have hsorted := p.stableSort_due now
  have hdue : ∀ uuid, uuid ∈ p.due now ↔ uuid ∈ p.dueUuids now := fun _ =>
    (p.due_perm now).mem_iff
  refine ⟨?_, ?_, fun uuid huuid => ?_, fun uuid huuid other hother hleft => ?_⟩
  · rw [h, List.length_take, length_sortByTime_due, Nat.min_comm]
  · rw [h]
    exact (hsorted.perm.nodup_iff.mpr (p.nodup_due now)).sublist (List.take_sublist _ _)
  · rw [h] at huuid
    exact (hdue uuid).mp (hsorted.mem_iff.mp (List.mem_of_mem_take huuid))
  · rw [h] at huuid hleft
    exact hsorted.rel_of_taken huuid ((hdue other).mpr hother) hleft

/-- **A tick** starts the polls that are due, the earliest first and as many as there is room for,
exactly if no device without a uuid is due, or those that come before it use up the room. -/
theorem startsDuePolls_iff {p p' : Poller} {now : ℤ} (h : p.Ticks now p') :
    p.StartsDuePolls now p' ↔
      p.isDue now "" = false ∨ p.pollRoom ≤ (p.aheadOfBlank now).length := by
  obtain rfl := h.eq
  have hstarted := p.startedPolls_tickBody now
  rw [taken_eq] at hstarted
  rw [← p.blank_notMem_iff now]
  constructor
  · intro hright hblank
    -- the loop stops at the empty uuid
    have hcount := hright.count
    rw [hstarted, ← length_sortByTime_due, Nat.min_comm, ← List.length_take] at hcount
    have hall := List.takeWhile_eq_self_iff.mp
      ((List.takeWhile_sublist _).eq_of_length hcount) "" hblank
    simp at hall
  · intro hblank
    refine startsDuePolls_of_take (hstarted.trans (List.takeWhile_eq_self_iff.mpr ?_))
    intro uuid huuid
    have hne : uuid ≠ "" := fun heq => hblank (heq ▸ huuid)
    simpa using hne

end Poller

/-- A tick starts the poll of the only device. -/
theorem startsDuePolls_plug : let _ := plainRuntime; ∃ p p',
    run Poller.step [.tick 6000, .tickSyncs 6000] (Poller.init plugConfig) = some p
      ∧ p.Ticks 6000 p' ∧ p.startedPolls p' = ["u"] ∧ p.StartsDuePolls 6000 p' := by
  let _ := plainRuntime
  refine ⟨_, _, rfl, .inr rfl, rfl, (Poller.startsDuePolls_iff (.inr rfl)).mpr (.inl rfl)⟩

/-- A configuration with a host under the empty uuid, and a plug. -/
def blankConfig : FileText :=
  .json (.obj [("hosts", .obj [("", .obj [("host", .str "10.0.0.8")]),
    ("u", .obj [("host", .str "10.0.0.9")])])])

/-- A tick that finds a host under the empty uuid starts no poll of the plug behind it. -/
theorem starved_behind_blank : ¬ ∀ (_ : Runtime) (file : FileText) (p p' : Poller) (now : ℤ),
    p.Reachable file → p.Ticks now p' → p.StartsDuePolls now p' := by
  intro hall
  let _ := plainRuntime
  have hdue := hall plainRuntime blankConfig _ _ 6000
    (reaches_run [.tick 6000, .tickSyncs 6000] (along_always _ _) rfl) (.inr rfl)
  exact absurd hdue.count (by decide +kernel)

end Merossity
