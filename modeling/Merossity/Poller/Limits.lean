import Merossity.Poller.SingleFlight

/-!
How many polls are under way.

* `newPolls` are the devices of which a stretch of `pollNow` starts a poll. `at_most_six`: as
  long as each of these stretches starts polls only where there is room, no more than
  `POLL_MAX_CONCURRENCY` state polls are under way. A tick sees to that itself, `pollNow` does
  not: each of its calls has workers of its own.
* `independent_iff`: in two states that differ in their state polls, a tick starts the same
  telemetry polls if and only if the devices within its reach are without a state poll in both
  states or in none. A tick passes over a device with a state poll under way.
-/

namespace Merossity

open Js Machine

namespace Poller

variable [Runtime]

/-! ### State polls -/

/-- A call of `pollDevice` for the device starts a poll. -/
def isNew (p : Poller) (uuid : String) : Bool := uuid ≠ "" && !p.inFlight.entries.has uuid

/-- The devices of which a stretch of `pollNow` starts a poll. -/
def newPolls (p : Poller) : Act → List String
  | .pollNowStarts i _ => match p.pollNows[i]? with
    | some q => ((p.requestedUuids q.options).take POLL_MAX_CONCURRENCY).filter p.isNew
    | none => []
  | .workerGoesOn i _ _ => match p.pollNows[i]? with
    | some q => match q.phase with
      | .polling queue _ => (queue.take 1).filter p.isNew
      | _ => []
    | none => []
  | _ => []

/-- There is room for the polls that a stretch of `pollNow` starts. -/
def HasRoom (p : Poller) (a : Act) : Prop :=
  p.newPolls a ≠ [] → p.inFlight.entries.size + (p.newPolls a).length ≤ POLL_MAX_CONCURRENCY

lemma size_pollDevice (p : Poller) (uuid : String) (reason : PollReason)
    (timeoutMs : Option Number) (now : ℤ) :
    (p.pollDevice uuid reason timeoutMs now).inFlight.entries.size =
      if p.inFlight.entries.has uuid then p.inFlight.entries.size
      else p.inFlight.entries.size + 1 :=
  Flight.size_enter _ _ _

/-- A poll that is new after a call was new before. -/
lemma isNew_pollDevice {p : Poller} {uuid key : String} {reason : PollReason}
    {timeoutMs : Option Number} {now : ℤ}
    (h : (p.pollDevice uuid reason timeoutMs now).isNew key = true) : p.isNew key = true := by
  rw [isNew, Bool.and_eq_true] at h ⊢
  have hhas : (p.pollDevice uuid reason timeoutMs now).inFlight.entries.has key =
      (decide (uuid = key) || p.inFlight.entries.has key) := Flight.has_enter _ _ _ _
  rw [hhas, Bool.not_or, Bool.and_eq_true] at h
  exact ⟨h.1, h.2.2⟩

lemma size_startPolls_le (now : ℤ) : ∀ (uuids : List String) (p : Poller),
    p.inFlight.entries.size ≤ POLL_MAX_CONCURRENCY →
      (startPolls now uuids p).inFlight.entries.size ≤ POLL_MAX_CONCURRENCY
  | [], p, h => h
  | uuid :: rest, p, h => by
      rw [startPolls]
      split_ifs with hlt hempty
      · exact h
      · refine size_startPolls_le now rest _ ?_
        rw [size_pollDevice]
        split_ifs <;> omega
      · exact h

omit [Runtime] in
lemma inFlight_startTelemetry [Runtime] (now : ℤ) : ∀ (uuids : List String) (p : Poller),
    (startTelemetry now uuids p).inFlight = p.inFlight
  | [], p => rfl
  | uuid :: rest, p => by
      rw [startTelemetry]
      split_ifs
      · rfl
      · exact inFlight_startTelemetry now rest _
      · rfl

lemma size_tickBody_le {p : Poller} (now : ℤ)
    (h : p.inFlight.entries.size ≤ POLL_MAX_CONCURRENCY) :
    (p.tickBody now).inFlight.entries.size ≤ POLL_MAX_CONCURRENCY := by
  have hpolls := size_startPolls_le now (p.sortByTime PollMeta.nextDueAt (p.due now)) p h
  rw [← inFlight_startTelemetry now] at hpolls
  exact hpolls

/-- A worker starts at most one poll. -/
lemma size_takeNext_le (p : Poller) (options : PollOptions) (now : ℤ) (queue : List String) :
    (p.takeNext options now queue).1.inFlight.entries.size ≤
      p.inFlight.entries.size + ((queue.take 1).filter p.isNew).length := by
  cases queue with
  | nil => exact Nat.le_add_right _ _
  | cons uuid rest =>
      rw [takeNext]
      split_ifs with hempty
      · exact Nat.le_add_right _ _
      · rw [size_pollDevice, List.take_succ_cons, List.take_zero, List.filter_cons]
        simp only [isNew, hempty, ne_eq, not_false_eq_true, decide_true, Bool.true_and]
        cases p.inFlight.entries.has uuid <;> simp

lemma isNew_takeNext {p : Poller} {options : PollOptions} {now : ℤ} {queue : List String}
    {key : String} (h : (p.takeNext options now queue).1.isNew key = true) :
    p.isNew key = true := by
  cases queue with
  | nil => exact h
  | cons uuid rest =>
      rw [takeNext] at h
      split_ifs at h
      · exact h
      · exact isNew_pollDevice h

lemma size_startWorkers_le (options : PollOptions) (now : ℤ) : ∀ (n : ℕ) (p : Poller)
    (queue : List String), (startWorkers options now n p queue).1.inFlight.entries.size ≤
      p.inFlight.entries.size + ((queue.take n).filter p.isNew).length
  | 0, p, queue => Nat.le_add_right _ _
  | n + 1, p, queue => by
      have hfirst := size_takeNext_le p options now queue
      have hrest := size_startWorkers_le options now n (p.takeNext options now queue).1
        (p.takeNext options now queue).2.1
      have hle : ((queue.tail.take n).filter (p.takeNext options now queue).1.isNew).length ≤
          ((queue.tail.take n).filter p.isNew).length :=
        (List.monotone_filter_right _ fun _ => isNew_takeNext).length_le
      have hsplit : ((queue.take (n + 1)).filter p.isNew).length =
          ((queue.take 1).filter p.isNew).length +
            ((queue.tail.take n).filter p.isNew).length := by
        rw [← List.length_append, ← List.filter_append]
        cases queue with
        | nil => simp
        | cons uuid rest => simp
      rw [takeNext_rest] at hrest
      rw [startWorkers]
      dsimp only
      rw [takeNext_rest]
      omega

/-- The start of `pollNow` starts the polls of `newPolls`. -/
lemma size_startPollNow_le (p : Poller) (i : ℕ) (q : PollNow) (now : ℤ) :
    (p.startPollNow i q now).inFlight.entries.size ≤ p.inFlight.entries.size +
      (((p.requestedUuids q.options).take POLL_MAX_CONCURRENCY).filter p.isNew).length := by
  have hcount : max 1 (min POLL_MAX_CONCURRENCY (max 1 (p.requestedUuids q.options).length)) ≤
      POLL_MAX_CONCURRENCY := by
    rw [POLL_MAX_CONCURRENCY]
    omega
  have hfewer := List.take_prefix_take_left (l := p.requestedUuids q.options) hcount
  have hle := (hfewer.sublist.filter p.isNew).length_le
  have hstart := size_startWorkers_le q.options now
    (max 1 (min POLL_MAX_CONCURRENCY (max 1 (p.requestedUuids q.options).length)))
    { p with
      metaByUuid := List.foldl (fun m uuid => boostMeta m uuid now) p.metaByUuid
        (p.requestedUuids q.options) } (p.requestedUuids q.options)
  exact hstart.trans (Nat.add_le_add_left hle _)

/-- A step for whose polls there is room keeps to the limit. -/
lemma size_step {p p' : Poller} {a : Act} (h : p.step a = some p') (hroom : p.HasRoom a)
    (hp : p.inFlight.entries.size ≤ POLL_MAX_CONCURRENCY) :
    p'.inFlight.entries.size ≤ POLL_MAX_CONCURRENCY := by
  -- either no poll is new, or there is room
  have hnew : p.inFlight.entries.size + (p.newPolls a).length ≤ POLL_MAX_CONCURRENCY := by
    by_cases hnil : p.newPolls a = []
    · rw [hnil]
      exact hp
    · exact hroom hnil
  cases stretch_of_step h with
  | tick now => exact size_tickBody_le now hp
  | tickGoesOn now => exact size_tickBody_le now hp
  | pollNowStarts i now q hq =>
      have hle := size_startPollNow_le p i q now
      simp only [newPolls, hq] at hnew
      omega
  | workerGoesOn i w now q queue workers c r hq hphase =>
      have hle : (p.collectAndTake i q queue workers w r now).inFlight.entries.size ≤
          p.inFlight.entries.size + ((queue.take 1).filter p.isNew).length :=
        size_takeNext_le p q.options now queue
      simp only [newPolls, hq, hphase] at hnew
      omega
  | pollFails t reply now random uuid task e ht =>
      obtain ⟨resolving, recoveries, metas, heq⟩ :=
        applyFailure_eq p t uuid task e.message now random
      rw [heq]
      exact hp
  | pollReturns c f hf => exact (Flight.size_leave_le hf).trans hp
  | _ => exact hp

end Poller

/-- **The limit.** In every run in which `pollNow` starts polls only where there is room, no more
than `POLL_MAX_CONCURRENCY` state polls are under way. -/
theorem at_most_six [Runtime] (file : FileText) (p : Poller)
    (h : Reaches Poller.step Poller.HasRoom (Poller.init file) p) :
    p.inFlight.entries.size ≤ POLL_MAX_CONCURRENCY :=
  h.invariant (Nat.zero_le _) fun _ _ _ hp hroom hstep => Poller.size_step hstep hroom hp

/-- Two overlapping calls of `pollNow`, for six devices and for one more. -/
def twoRefreshes : List Act :=
  [.pollNow ⟨some ["a", "b", "c", "d", "e", "f"], some .manual, none⟩, .pollNowSyncs 0 10,
    .pollNowStarts 0 10, .pollNow ⟨some ["g"], some .manual, none⟩, .pollNowSyncs 1 20,
    .pollNowStarts 1 20]

/-- They have seven polls under way. -/
theorem seven_polls : ¬ ∀ (_ : Runtime) (file : FileText) (p : Poller), p.Reachable file →
    p.inFlight.entries.size ≤ POLL_MAX_CONCURRENCY := by
  intro hall
  let _ := plainRuntime
  have hrun : (run Poller.step twoRefreshes (Poller.init .missing)).map
      (fun p => p.inFlight.entries.size) = some 7 := by decide +kernel
  obtain ⟨p, hp, hsize⟩ := Option.map_eq_some_iff.mp hrun
  have hle := hall _ _ p (reaches_run twoRefreshes (along_always _ _) hp)
  rw [hsize] at hle
  exact absurd hle (by decide)

/-- The first of the two calls has six polls under way. -/
theorem at_most_six_refresh : let _ := plainRuntime; ∃ p,
    run Poller.step (twoRefreshes.take 3) (Poller.init .missing) = some p ∧
    p.inFlight.entries.keys = ["a", "b", "c", "d", "e", "f"] ∧
      p.inFlight.entries.size ≤ POLL_MAX_CONCURRENCY := by
  let _ := plainRuntime
  have hrun : (run Poller.step (twoRefreshes.take 3) (Poller.init .missing)).map
      (fun p => p.inFlight.entries.keys) = some ["a", "b", "c", "d", "e", "f"] := by
    decide +kernel
  have hpasses : passes Poller.step (fun p a => decide (p.inFlight.entries.size +
      (p.newPolls a).length ≤ POLL_MAX_CONCURRENCY)) (twoRefreshes.take 3)
      (Poller.init .missing) = true := by decide +kernel
  obtain ⟨p, hp, hkeys⟩ := Option.map_eq_some_iff.mp hrun
  have hroom : ∀ (p : Poller) a, decide (p.inFlight.entries.size +
      (p.newPolls a).length ≤ POLL_MAX_CONCURRENCY) = true → p.HasRoom a :=
    fun _ _ htest _ => of_decide_eq_true htest
  exact ⟨p, hp, hkeys, at_most_six .missing p (reaches_run (twoRefreshes.take 3)
    (along_of_passes hroom _ _ hpasses) hp)⟩

/-! ### Telemetry polls -/

section Sorting

variable {α : Type} (key : α → ℤ) (free : α → Bool)

/-- An item that is inserted into a sorted list, and those of the list that are left. -/
lemma filter_orderedInsert (a : α) (l : List α) (hl : l.Pairwise fun a b => key a ≤ key b) :
    (l.orderedInsert (fun a b => key a ≤ key b) a).filter free =
      if free a then (l.filter free).orderedInsert (fun a b => key a ≤ key b) a
      else l.filter free := by
  induction l with
  | nil => cases h : free a <;> simp [h]
  | cons b l ih =>
      obtain ⟨hb, hl⟩ := List.pairwise_cons.mp hl
      rw [List.orderedInsert_cons]
      by_cases hab : key a ≤ key b
      · rw [if_pos hab, List.filter_cons]
        cases ha : free a with
        | false => rfl
        | true =>
            have hall : ∀ c ∈ (b :: l).filter free, key a ≤ key c := by
              intro c hc
              rcases List.mem_cons.mp (List.mem_filter.mp hc).1 with rfl | hc
              · exact hab
              · exact hab.trans (hb c hc)
            cases hrest : (b :: l).filter free with
            | nil => rfl
            | cons c cs =>
                rw [hrest] at hall
                rw [List.orderedInsert_cons, if_pos (hall c List.mem_cons_self)]
      · rw [if_neg hab, List.filter_cons, ih hl]
        cases ha : free a <;> cases hfree : free b <;> simp [hfree, hab]

/-- Sorting commutes with leaving items out. -/
lemma filter_insertionSort (l : List α) :
    (l.filter free).insertionSort (fun a b => key a ≤ key b) =
      (l.insertionSort fun a b => key a ≤ key b).filter free := by
  have hsorted : ∀ l : List α,
      (l.insertionSort fun a b => key a ≤ key b).Pairwise fun a b => key a ≤ key b := by
    intro l
    have : IsTrans α fun a b => key a ≤ key b := ⟨fun _ _ _ => le_trans⟩
    have : Std.Total fun a b : α => key a ≤ key b := ⟨fun a b => le_total (key a) (key b)⟩
    exact List.pairwise_insertionSort _ l
  induction l with
  | nil => rfl
  | cons a l ih =>
      rw [List.insertionSort_cons, filter_orderedInsert key free a _ (hsorted l), ← ih,
        List.filter_cons]
      split <;> rfl

end Sorting

/-- The devices that a loop with room for `k` polls takes from a list: an empty uuid ends it. -/
def taken : ℕ → List String → List String
  | 0, _ => []
  | _ + 1, [] => []
  | k + 1, uuid :: rest => if uuid = "" then [] else uuid :: taken k rest

lemma subset_taken : ∀ (k : ℕ) (uuids : List String), taken k uuids ⊆ uuids
  | 0, _ => List.nil_subset _
  | _ + 1, [] => List.nil_subset _
  | k + 1, uuid :: rest => by
      rw [taken]
      split_ifs
      · exact List.nil_subset _
      · exact List.cons_subset_cons uuid (subset_taken k rest)

/-- Going through a list with room for `k` polls: each device is free in both states, or in none.
An empty uuid that is free ends a loop, and where it is free in one state only, nothing that
follows is free in the other one. -/
def SameWithin (free free' : String → Bool) : ℕ → List String → Prop
  | 0, _ => True
  | _ + 1, [] => True
  | k + 1, uuid :: rest => match free uuid, free' uuid with
    | true, true => uuid = "" ∨ SameWithin free free' k rest
    | false, false => SameWithin free free' (k + 1) rest
    | true, false => uuid = "" ∧ ∀ v ∈ rest, free' v = false
    | false, true => uuid = "" ∧ ∀ v ∈ rest, free v = false

/-- Nothing is taken of a list without an empty uuid only if the list is empty. -/
lemma taken_eq_nil {k : ℕ} {uuids : List String} (hempty : "" ∉ uuids)
    (h : ∀ u, u ∉ taken (k + 1) uuids) : uuids = [] := by
  cases uuids with
  | nil => rfl
  | cons uuid rest =>
      have hne : uuid ≠ "" := fun huuid => hempty (huuid ▸ List.mem_cons_self)
      rw [taken, if_neg hne] at h
      exact absurd List.mem_cons_self (h uuid)

/-- Two loops take the same devices of a list. -/
theorem mem_taken_filter_iff (free free' : String → Bool) (uuids : List String) :
    uuids.Nodup → ∀ k, (∀ u, u ∈ taken k (uuids.filter free) ↔ u ∈ taken k (uuids.filter free')) ↔
      SameWithin free free' k uuids := by
  induction uuids with
  | nil => intro _ k; cases k <;> simp [taken, SameWithin]
  | cons uuid rest ih =>
      intro hnodup k
      obtain ⟨hnotin, hnodup⟩ := List.nodup_cons.mp hnodup
      have hnot : ∀ (f : String → Bool) k, uuid ∉ taken k (rest.filter f) := fun f k hu =>
        hnotin (List.mem_filter.mp (subset_taken k _ hu)).1
      -- an empty uuid, after which the loop in the other state takes nothing
      have hlast : ∀ (f : String → Bool) k, uuid = "" →
          ((∀ u, u ∉ taken (k + 1) (rest.filter f)) ↔ ∀ v ∈ rest, f v = false) := by
        intro f k huuid
        have hempty : "" ∉ rest.filter f := fun hu =>
          hnotin (huuid ▸ (List.mem_filter.mp hu).1)
        refine ⟨fun h v hv => ?_, fun h u hu => ?_⟩
        · have hnil := List.filter_eq_nil_iff.mp (taken_eq_nil hempty h) v hv
          simpa using hnil
        · have hmem := List.mem_filter.mp (subset_taken _ _ hu)
          rw [h u hmem.1] at hmem
          cases hmem.2
      cases k with
      | zero => simp [taken, SameWithin]
      | succ k =>
          rw [List.filter_cons, List.filter_cons, SameWithin]
          cases hf : free uuid <;> cases hf' : free' uuid
          · exact ih hnodup (k + 1)
          · by_cases huuid : uuid = ""
            · simp only [if_true, taken, huuid, Bool.false_eq_true, if_false, true_and]
              rw [← hlast free k huuid]
              simp
            · simp only [if_true, taken, huuid, Bool.false_eq_true, if_false, false_and, iff_false]
              exact fun h => hnot free (k + 1) ((h uuid).mpr List.mem_cons_self)
          · by_cases huuid : uuid = ""
            · simp only [if_true, taken, huuid, Bool.false_eq_true, if_false, true_and]
              rw [← hlast free' k huuid]
              simp
            · simp only [if_true, taken, huuid, Bool.false_eq_true, if_false, false_and, iff_false]
              exact fun h => hnot free' (k + 1) ((h uuid).mp List.mem_cons_self)
          · by_cases huuid : uuid = ""
            · simp [taken, huuid]
            · simp only [if_true, taken, huuid, if_false, false_or, ← ih hnodup k]
              refine forall_congr' fun u => ?_
              rw [List.mem_cons, List.mem_cons]
              by_cases hu : u = uuid
              · subst hu
                simp [hnot]
              · simp [hu]

namespace Poller

/-- No state poll of the device is under way. -/
def isFree (p : Poller) (uuid : String) : Bool := !p.inFlight.entries.has uuid

/-- The devices whose telemetry is due, in order, also those with a state poll under way. -/
def telemetryQueue (p : Poller) (now : ℤ) : List String :=
  p.sortByTime PollMeta.telemetryNextDueAt ((p.metaByUuid.entries.filter fun e =>
    p.knownHosts.has e.1 && !p.telemetryInFlight.entries.has e.1 &&
      e.2.telemetryNextDueAt ≤ now).map Prod.fst)

/-- The room for telemetry polls. -/
def telemetryRoom (p : Poller) : ℕ := TELEMETRY_MAX_CONCURRENCY - p.telemetryInFlight.entries.size

/-- A tick passes over the devices with a state poll under way. -/
lemma sorted_dueTelemetry (p : Poller) (now : ℤ) :
    p.sortByTime PollMeta.telemetryNextDueAt (p.dueTelemetry now) =
      (p.telemetryQueue now).filter p.isFree := by
  rw [telemetryQueue, sortByTime, sortByTime, ← filter_insertionSort, dueTelemetry, candidates,
    List.filter_map, List.filter_filter, List.filter_filter]
  congr 3
  funext e
  simp only [Function.comp, isFree]
  cases p.knownHosts.has e.1 <;> cases p.inFlight.entries.has e.1 <;> simp

lemma nodup_telemetryQueue (p : Poller) (now : ℤ) : (p.telemetryQueue now).Nodup := by
  rw [telemetryQueue, sortByTime, (List.perm_insertionSort _ _).nodup_iff]
  exact p.metaByUuid.nodup.sublist (List.filter_sublist.map _)

lemma has_of_mem_telemetryQueue {p : Poller} {now : ℤ} {uuid : String}
    (h : uuid ∈ p.telemetryQueue now) : p.telemetryInFlight.entries.has uuid = false := by
  rw [telemetryQueue, sortByTime, List.mem_insertionSort] at h
  obtain ⟨e, he, rfl⟩ := List.mem_map.mp h
  have hdue := (List.mem_filter.mp he).2
  rw [Bool.and_eq_true, Bool.and_eq_true] at hdue
  simpa using hdue.1.2

variable [Runtime]

/-- The tick, after its `await` or without one, starts a telemetry poll of the device. -/
def StartsTelemetry (p : Poller) (now : ℤ) (uuid : String) : Prop :=
  p.telemetryInFlight.entries.has uuid = false ∧
    (p.tickBody now).telemetryInFlight.entries.has uuid = true

lemma telemetryInFlight_startPolls (now : ℤ) : ∀ (uuids : List String) (p : Poller),
    (startPolls now uuids p).telemetryInFlight = p.telemetryInFlight
  | [], p => rfl
  | uuid :: rest, p => by
      rw [startPolls]
      split_ifs
      · rfl
      · exact telemetryInFlight_startPolls now rest _
      · rfl

/-- The loop that starts telemetry polls takes what there is room for. -/
lemma has_startTelemetry_iff (now : ℤ) (uuid : String) : ∀ (uuids : List String) (p : Poller),
    uuids.Nodup → (∀ u ∈ uuids, p.telemetryInFlight.entries.has u = false) →
      ((startTelemetry now uuids p).telemetryInFlight.entries.has uuid = true ↔
        p.telemetryInFlight.entries.has uuid = true ∨ uuid ∈ taken p.telemetryRoom uuids)
  | [], p, _, _ => by
      cases hroom : p.telemetryRoom <;> simp [startTelemetry, taken]
  | u :: rest, p, hnodup, hfree => by
      obtain ⟨hnotin, hnodup⟩ := List.nodup_cons.mp hnodup
      rw [startTelemetry]
      split_ifs with hlt hempty
      · have hroom : p.telemetryRoom = p.telemetryRoom - 1 + 1 := by
          rw [telemetryRoom]
          omega
        rw [hroom, taken, if_pos hempty]
        simp
      · have hfree' : p.telemetryInFlight.entries.has u = false := hfree u List.mem_cons_self
        have hhas : ∀ v, (p.pollTelemetry u .telemetryPoller none now).telemetryInFlight.entries.has
            v = (decide (u = v) || p.telemetryInFlight.entries.has v) :=
          fun v => Flight.has_enter _ _ _ _
        have hsize : (p.pollTelemetry u .telemetryPoller none now).telemetryInFlight.entries.size =
            p.telemetryInFlight.entries.size + 1 := by
          refine (Flight.size_enter _ _ _).trans ?_
          rw [hfree']
          rfl
        have hroom : p.telemetryRoom =
            (p.pollTelemetry u .telemetryPoller none now).telemetryRoom + 1 := by
          rw [telemetryRoom, telemetryRoom, hsize]
          omega
        rw [has_startTelemetry_iff now uuid rest _ hnodup, hhas, hroom, taken, if_neg hempty,
          List.mem_cons]
        · simp only [Bool.or_eq_true, decide_eq_true_eq]
          tauto
        · intro v hv
          have hne : u ≠ v := fun huv => hnotin (huv ▸ hv)
          rw [hhas, hfree v (List.mem_cons_of_mem _ hv)]
          simpa using hne
      · have hroom : p.telemetryRoom = 0 := by
          rw [telemetryRoom]
          omega
        rw [hroom, taken]
        simp

/-- What a tick starts. -/
lemma startsTelemetry_iff (p : Poller) (now : ℤ) (uuid : String) :
    p.StartsTelemetry now uuid ↔
      uuid ∈ taken p.telemetryRoom ((p.telemetryQueue now).filter p.isFree) := by
  have hqueue : ∀ u ∈ (p.telemetryQueue now).filter p.isFree,
      p.telemetryInFlight.entries.has u = false :=
    fun u hu => has_of_mem_telemetryQueue (List.mem_filter.mp hu).1
  have hroom : (startPolls now (p.sortByTime PollMeta.nextDueAt (p.due now)) p).telemetryRoom =
      p.telemetryRoom := by
    rw [telemetryRoom, telemetryInFlight_startPolls]
    rfl
  have hstart := has_startTelemetry_iff now uuid ((p.telemetryQueue now).filter p.isFree)
    (startPolls now (p.sortByTime PollMeta.nextDueAt (p.due now)) p)
    ((nodup_telemetryQueue p now).filter _) (by rw [telemetryInFlight_startPolls]; exact hqueue)
  rw [hroom, telemetryInFlight_startPolls, ← sorted_dueTelemetry] at hstart
  have htick : (p.tickBody now).telemetryInFlight.entries.has uuid = true ↔ _ := hstart
  rw [StartsTelemetry, htick, ← sorted_dueTelemetry]
  refine ⟨fun h => h.2.resolve_left (by rw [h.1]; exact Bool.false_ne_true), fun h => ?_⟩
  refine ⟨hqueue uuid ?_, Or.inr h⟩
  rw [sorted_dueTelemetry] at h
  exact subset_taken _ _ h

/-- Two states agree on what telemetry depends on. -/
structure Agree (p q : Poller) : Prop where
  knownHosts : p.knownHosts = q.knownHosts
  telemetryInFlight : p.telemetryInFlight = q.telemetryInFlight
  nextDueAt : p.metaByUuid.mapValues PollMeta.telemetryNextDueAt =
    q.metaByUuid.mapValues PollMeta.telemetryNextDueAt

omit [Runtime] in
/-- The times of the telemetry are all that the queue takes from the metas. -/
lemma telemetryQueue_eq (p : Poller) (now : ℤ) :
    p.telemetryQueue now =
      (((p.metaByUuid.mapValues PollMeta.telemetryNextDueAt).entries.filter fun e =>
        p.knownHosts.has e.1 && !p.telemetryInFlight.entries.has e.1 && e.2 ≤ now).map
          Prod.fst).insertionSort fun a b =>
            ((p.metaByUuid.mapValues PollMeta.telemetryNextDueAt).get a).getD 0 ≤
              ((p.metaByUuid.mapValues PollMeta.telemetryNextDueAt).get b).getD 0 := by
  have hentries : (p.metaByUuid.mapValues PollMeta.telemetryNextDueAt).entries =
      p.metaByUuid.entries.map fun e => (e.1, e.2.telemetryNextDueAt) := rfl
  simp only [OrdMap.get_mapValues, hentries, List.filter_map, List.map_map]
  rfl

omit [Runtime] in
lemma Agree.telemetryQueue {p q : Poller} (h : Agree p q) (now : ℤ) :
    p.telemetryQueue now = q.telemetryQueue now := by
  rw [telemetryQueue_eq, telemetryQueue_eq, h.nextDueAt, h.knownHosts, h.telemetryInFlight]

end Poller

/-- **Telemetry and state polls.** In two states that agree on the hosts, on the telemetry polls
under way and on when telemetry is due, a tick at the same time starts telemetry polls of the
same devices if and only if, among the devices within reach, a state poll is under way in both
states or in none. -/
theorem independent_iff [Runtime] (p q : Poller) (now : ℤ) (h : Poller.Agree p q) :
    (∀ uuid, p.StartsTelemetry now uuid ↔ q.StartsTelemetry now uuid) ↔
      SameWithin p.isFree q.isFree p.telemetryRoom (p.telemetryQueue now) := by
  have hroom : p.telemetryRoom = q.telemetryRoom := by
    rw [Poller.telemetryRoom, Poller.telemetryRoom, h.telemetryInFlight]
  simp only [Poller.startsTelemetry_iff, ← h.telemetryQueue, ← hroom]
  exact mem_taken_filter_iff _ _ _ (Poller.nodup_telemetryQueue p now) _

/-- The poller with a known plug, in which a refresh of the plug has not started its poll. -/
def beforeRefresh [Runtime] : Poller :=
  (run Poller.step [.pollNow (refreshOptions "u"), .pollNowSyncs 0 6000]
    (Poller.init plugConfig)).getD (Poller.init plugConfig)

/-- The same, with the poll under way. -/
def duringRefresh [Runtime] : Poller :=
  (run Poller.step [.pollNow (refreshOptions "u"), .pollNowSyncs 0 6000, .pollNowStarts 0 6000]
    (Poller.init plugConfig)).getD (Poller.init plugConfig)

/-- The telemetry of a plug waits as long as a state poll of it is under way. -/
theorem telemetry_waits : ¬ ∀ (_ : Runtime) (p q : Poller) (now : ℤ), Poller.Agree p q →
    ∀ uuid, p.StartsTelemetry now uuid ↔ q.StartsTelemetry now uuid := by
  intro hall
  let _ := plainRuntime
  have hagree : Poller.Agree beforeRefresh duringRefresh := ⟨rfl, rfl, rfl⟩
  have hbefore : beforeRefresh.StartsTelemetry 6000 "u" := by
    rw [Poller.StartsTelemetry]
    decide +kernel
  have hduring : ¬ duringRefresh.StartsTelemetry 6000 "u" := by
    rw [Poller.StartsTelemetry]
    decide +kernel
  exact hduring ((hall _ _ _ 6000 hagree "u").mp hbefore)

/-- The two states agree on what telemetry depends on. -/
theorem independent_iff_plug : let _ := plainRuntime;
    (∀ uuid, beforeRefresh.StartsTelemetry 6000 uuid ↔
      duringRefresh.StartsTelemetry 6000 uuid) ↔
    SameWithin beforeRefresh.isFree duringRefresh.isFree beforeRefresh.telemetryRoom
      (beforeRefresh.telemetryQueue 6000) := by
  let _ := plainRuntime
  exact independent_iff beforeRefresh duringRefresh 6000 ⟨rfl, rfl, rfl⟩

end Merossity
