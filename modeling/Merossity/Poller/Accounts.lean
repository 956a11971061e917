import Merossity.Lib.WorkerPool
import Merossity.Poller.Readings
import Merossity.Poller.Refreshes

/-!
A call of `pollNow` accounts for every device that it names.

* `Deals` is what the workers take off a queue: each device is still there, or exactly one worker
  awaits a poll of it.
* `PollNow.Accounted` is the invariant of a call: its queue, the devices that its workers await and
  those of its outcomes are together the devices that it names, each of them once.
* `exists_returned`: a call is never stuck, whatever is replied. A poll goes on with every reply
  until it has settled, and then a worker goes on.
* `pollNow_accounts`: a call returns one outcome for each device that it names, and no other.
-/

namespace Merossity

open Js Machine

/-! ### Devices -/

/-- The device of the call that a worker awaits. -/
def Worker.device (f : Flight String PollTask PollResult) : Worker → Option String
  | .awaiting c => (f.calls[c]?).map Flight.Call.key
  | .finished => none

/-- The devices of the states and errors that a call has collected. -/
def PollNow.outcomes (q : PollNow) : List String :=
  q.states.map DeviceStateDto.uuid ++ q.errors.map PollErrorDto.uuid

/-- The devices that a call names, each of them once. -/
def PollOptions.devices (options : PollOptions) : List String := options.named.eraseDups

lemma PollOptions.mem_devices_iff {options : PollOptions} {uuids : List String}
    (huuids : options.uuids = some uuids) {u : String} :
    u ∈ options.devices ↔ u ≠ "" ∧ ∃ v ∈ uuids, trim v = u := by
  rw [PollOptions.devices, List.mem_eraseDups, PollOptions.named, huuids]
  simp only [List.mem_filter, List.mem_map, decide_eq_true_eq]
  exact and_comm

lemma nodup_eraseDups {α : Type} [BEq α] [LawfulBEq α] : ∀ l : List α, l.eraseDups.Nodup
  | [] => List.nodup_nil
  | a :: l => by
      rw [List.eraseDups_cons, List.nodup_cons, List.mem_eraseDups]
      exact ⟨by simp, nodup_eraseDups _⟩
  termination_by l => l.length
  decreasing_by exact Nat.lt_succ_of_le (List.length_filter_le _ _)

lemma PollOptions.empty_notMem_devices (options : PollOptions) : "" ∉ options.devices := by
  intro hmem
  have hnamed := List.mem_eraseDups.mp hmem
  rw [PollOptions.named] at hnamed
  split at hnamed
  next => exact absurd rfl (of_decide_eq_true (List.mem_filter.mp hnamed).2)
  next => cases hnamed

namespace Poller

/-- A call that names devices polls these. -/
lemma requestedUuids_eq_devices {options : PollOptions} (h : options.named ≠ []) (p : Poller) :
    p.requestedUuids options = options.devices := by
  obtain ⟨uuids, reason, timeoutMs⟩ := options
  match uuids, h with
  | some (uuid :: uuids), _ => rfl
  | some [], h => exact absurd rfl h
  | none, h => exact absurd rfl h

/-- An outcome that is collected is one more. -/
lemma outcomes_collect (q : PollNow) (r : PollResult) :
    (collect q r).outcomes.Perm (r.uuid :: q.outcomes) := by
  cases r with
  | state s =>
      show (List.map _ (q.states ++ [s]) ++ _).Perm _
      rw [List.map_append, List.append_assoc]
      exact List.perm_middle
  | error e =>
      show (_ ++ List.map _ (q.errors ++ [e])).Perm _
      rw [List.map_append, ← List.append_assoc]
      exact List.perm_append_singleton _ _

/-! ### Workers -/

/-- Workers have taken devices off a queue: what is left and what they await is the queue. -/
structure Deals (g : Flight String PollTask PollResult) (queue queue' : List String)
    (workers : List Worker) : Prop where
  parted : (queue' ++ workers.filterMap (Worker.device g)).Perm queue
  old : ∀ c, .awaiting c ∈ workers → c < g.calls.length

/-- A worker keeps its device. -/
lemma device_later {f g : Flight String PollTask PollResult} (h : f.Later g) {worker : Worker}
    (hold : ∀ c, worker = .awaiting c → c < f.calls.length) :
    worker.device g = worker.device f := by
  cases worker with
  | finished => rfl
  | awaiting c =>
      have hc := List.getElem?_eq_getElem (hold c rfl)
      obtain ⟨r, hr⟩ := h.call c _ hc
      rw [Worker.device, Worker.device, hr, hc]
      rfl

lemma filterMap_device_later {f g : Flight String PollTask PollResult} (h : f.Later g)
    {workers : List Worker} (hold : ∀ c, .awaiting c ∈ workers → c < f.calls.length) :
    workers.filterMap (Worker.device g) = workers.filterMap (Worker.device f) :=
  List.filterMap_congr fun _ hw => device_later h fun c hc => hold c (hc ▸ hw)

/-- The call that comes next is for its device. -/
lemma filterMap_device_enter (f : Flight String PollTask PollResult) (uuid : String)
    (task : PollTask) :
    [Worker.awaiting f.calls.length].filterMap (Worker.device (f.enter uuid task)) = [uuid] := by
  obtain ⟨t, creator, hcalls⟩ := Flight.calls_enter f uuid task
  rw [List.filterMap_cons_some (b := uuid), List.filterMap_nil]
  rw [Worker.device, hcalls, List.getElem?_concat_length]
  rfl

lemma length_calls_enter (f : Flight String PollTask PollResult) (uuid : String)
    (task : PollTask) : (f.enter uuid task).calls.length = f.calls.length + 1 := by
  obtain ⟨t, creator, hcalls⟩ := Flight.calls_enter f uuid task
  rw [hcalls, List.length_append, List.length_singleton]

variable [Runtime]

/-- A worker takes the next device. -/
lemma deals_takeNext (p : Poller) (options : PollOptions) (now : ℤ) {queue : List String}
    (hempty : "" ∉ queue) : Deals (p.takeNext options now queue).1.inFlight queue
      (p.takeNext options now queue).2.1 [(p.takeNext options now queue).2.2] := by
  cases queue with
  | nil => exact ⟨.nil, by simp [takeNext]⟩
  | cons uuid rest =>
      have hne : uuid ≠ "" := fun h => hempty (h ▸ List.mem_cons_self)
      rw [takeNext, if_neg hne]
      refine ⟨?_, fun c hc => ?_⟩
      · have htaken := congrArg (rest ++ ·) (filterMap_device_enter p.inFlight uuid
          ⟨options.reason.getD .manual, now, (readDevice uuid
            ((options.timeoutMs.bind fun n => n.finite?).map fun n => .fin (max 500 n))).run⟩)
        exact (List.Perm.of_eq htaken).trans (List.perm_append_singleton uuid rest)
      · obtain rfl := Worker.awaiting.inj (List.mem_singleton.mp hc)
        exact (Nat.lt_succ_self _).trans_eq (length_calls_enter p.inFlight uuid _).symm

omit [Runtime] in
/-- The workers take one after the other. -/
lemma Deals.cons {g h : Flight String PollTask PollResult} {queue queue₁ queue₂ : List String}
    {worker : Worker} {workers : List Worker} (hfirst : Deals g queue queue₁ [worker])
    (hrest : Deals h queue₁ queue₂ workers) (hlater : g.Later h) :
    Deals h queue queue₂ (worker :: workers) := by
  refine ⟨?_, fun c hc => ?_⟩
  · have hsplit : (worker :: workers).filterMap (Worker.device h)
        = [worker].filterMap (Worker.device g) ++ workers.filterMap (Worker.device h) := by
      rw [← filterMap_device_later hlater hfirst.old, ← List.filterMap_append]
      rfl
    rw [hsplit, List.perm_iff_count]
    intro uuid
    have h₁ := hfirst.parted.count_eq uuid
    have h₂ := hrest.parted.count_eq uuid
    simp only [List.count_append] at h₁ h₂ ⊢
    omega
  · rcases List.mem_cons.mp hc with heq | hc
    · exact (hfirst.old c (List.mem_singleton.mpr heq)).trans_le hlater.calls_le
    · exact hrest.old c hc

lemma deals_startWorkers (options : PollOptions) (now : ℤ) : ∀ (n : ℕ) (p : Poller)
    (queue : List String), "" ∉ queue →
      Deals (startWorkers options now n p queue).1.inFlight queue
        (startWorkers options now n p queue).2.1 (startWorkers options now n p queue).2.2
  | 0, p, queue, _ => ⟨by simp [startWorkers], by simp [startWorkers]⟩
  | n + 1, p, queue, hempty => by
      have hrest : "" ∉ (p.takeNext options now queue).2.1 := by
        rw [takeNext_rest]
        exact fun hmem => hempty (List.mem_of_mem_tail hmem)
      have hlater : Enlists (· ∈ (p.takeNext options now queue).2.1)
          (p.takeNext options now queue).1 (startWorkers options now (n + 1) p queue).1 :=
        enlists_startWorkers options now n _ _ fun _ h => h
      exact (deals_takeNext p options now hempty).cons (deals_startWorkers options now n _ _ hrest)
        hlater.starts.later

end Poller

/-! ### Accounts -/

/-- Every device that a call names is in its queue, or awaited by one worker, or that of one
outcome. -/
def PollNow.Accounted (f : Flight String PollTask PollResult) (q : PollNow) : Prop :=
  match q.phase with
  | .syncing | .synced => q.outcomes = []
  | .polling queue workers => workers ≠ [] ∧ (.finished ∈ workers → queue = []) ∧
      (∀ c, .awaiting c ∈ workers → c < f.calls.length) ∧
      (queue ++ workers.filterMap (Worker.device f) ++ q.outcomes).Perm q.options.devices
  | .returned _ => q.outcomes.Perm q.options.devices

lemma PollNow.accounted_of_polling {f : Flight String PollTask PollResult} {q : PollNow}
    {queue : List String} {workers : List Worker} (hphase : q.phase = .polling queue workers) :
    q.Accounted f ↔ workers ≠ [] ∧ (.finished ∈ workers → queue = []) ∧
      (∀ c, .awaiting c ∈ workers → c < f.calls.length) ∧
      (queue ++ workers.filterMap (Worker.device f) ++ q.outcomes).Perm q.options.devices := by
  rw [PollNow.Accounted, hphase]

lemma PollNow.Accounted.mono {f g : Flight String PollTask PollResult} {q : PollNow}
    (hq : q.Accounted f) (h : f.Later g) : q.Accounted g := by
  rw [PollNow.Accounted] at hq ⊢
  split at hq
  next => exact hq
  next => exact hq
  next queue workers _ =>
    obtain ⟨hworkers, hended, hold, hparted⟩ := hq
    rw [Poller.filterMap_device_later h hold]
    exact ⟨hworkers, hended, fun c hc => (hold c hc).trans_le h.calls_le, hparted⟩
  next => exact hq

namespace Poller

variable [Runtime] {p p' : Poller} {a : Act}

/-- The call starts its workers. -/
lemma accounted_startPollNow (p : Poller) {q : PollNow} (hphase : q.phase = .synced)
    (hq : q.Accounted p.inFlight) (hnamed : q.options.named ≠ []) (i : ℕ) (now : ℤ) :
    ∃ q', (p.startPollNow i q now).pollNows = p.pollNows.set i q' ∧ q'.options = q.options
      ∧ q'.Accounted (p.startPollNow i q now).inFlight := by
  rw [PollNow.Accounted, hphase] at hq
  have hempty := q.options.empty_notMem_devices
  obtain ⟨n, hn⟩ : ∃ n, max 1 (min POLL_MAX_CONCURRENCY (max 1 q.options.devices.length)) = n + 1 :=
    Nat.exists_eq_add_of_le' (le_max_left 1 _)
  rw [startPollNow, requestedUuids_eq_devices hnamed, hn]
  generalize hboosted : { p with metaByUuid := _ } = boosted
  have hdeals := deals_startWorkers q.options now (n + 1) boosted _ hempty
  have htakes := takes_startWorkers q.options now (n + 1) boosted q.options.devices
  obtain ⟨f, tf, metas, -, -, heq⟩ := (enlists_startWorkers q.options now (n + 1) boosted
    q.options.devices (P := fun _ => True) fun _ _ => trivial).starts
  have hpollNows : boosted.pollNows = p.pollNows := by rw [← hboosted]
  refine ⟨_, congrArg (List.set · i _) ((congrArg pollNows heq).trans hpollNows), rfl, ?_⟩
  · refine (PollNow.accounted_of_polling rfl).mpr ⟨List.cons_ne_nil _ _, htakes.ended hempty,
      hdeals.old, ?_⟩
    show (_ ++ _ ++ PollNow.outcomes q).Perm _
    rw [hq, List.append_nil]
    exact hdeals.parted

omit [Runtime] in
/-- A device moves from those awaited to the outcomes, and others from the queue to those
awaited. -/
lemma accounts_perm {uuid : String} {queue queue' taken awaited awaited' outcomes outcomes'
    devices : List String} (hparted : (queue ++ awaited ++ outcomes).Perm devices)
    (htaken : (queue' ++ taken).Perm queue) (hmoved : (uuid :: awaited').Perm (awaited ++ taken))
    (hcollected : outcomes'.Perm (uuid :: outcomes)) :
    (queue' ++ awaited' ++ outcomes').Perm devices := by
  rw [List.perm_iff_count]
  intro u
  have h₁ := hparted.count_eq u
  have h₂ := htaken.count_eq u
  have h₃ := hmoved.count_eq u
  have h₄ := hcollected.count_eq u
  simp only [List.count_append, List.count_cons] at h₁ h₂ h₃ h₄ ⊢
  omega

/-- A worker collects the outcome of its call, and goes on. -/
lemma accounted_collectAndTake (p : Poller) {q : PollNow} {queue : List String}
    {workers : List Worker} {w c : ℕ} {r : PollResult} (hphase : q.phase = .polling queue workers)
    (hq : q.Accounted p.inFlight) (hw : workers[w]? = some (.awaiting c))
    (hdevice : Worker.device p.inFlight (.awaiting c) = some r.uuid) (i : ℕ) (now : ℤ) :
    ∃ q', (p.collectAndTake i q queue workers w r now).pollNows = p.pollNows.set i q'
      ∧ q'.options = q.options
      ∧ q'.Accounted (p.collectAndTake i q queue workers w r now).inFlight := by
  obtain ⟨hworkers, hended, hold, hparted⟩ := (PollNow.accounted_of_polling hphase).mp hq
  have hempty : "" ∉ queue := fun hmem => q.options.empty_notMem_devices
    (hparted.subset (List.mem_append_left _ (List.mem_append_left _ hmem)))
  have hdeals := deals_takeNext p q.options now hempty
  have htakes := takes_takeNext p q.options now queue
  have hlater := (enlists_takeNext p q.options now (P := fun _ => True)
    fun _ (_ : _ ∈ queue) => trivial).starts
  have hoptions : (collect q r).options = q.options := by cases r <;> rfl
  rw [collectAndTake]
  dsimp only
  generalize p.takeNext q.options now queue = next at *
  obtain ⟨p₁, queue', worker⟩ := next
  have hlaterFlight : p.inFlight.Later p₁.inFlight := hlater.later
  have hmono := filterMap_device_later hlaterFlight hold
  obtain ⟨f, tf, metas, -, -, heq⟩ := hlater
  refine ⟨_, congrArg (List.set · i _) ((congrArg pollNows heq).trans rfl), hoptions, ?_⟩
  refine (PollNow.accounted_of_polling rfl).mpr
    ⟨?_, htakes.set_ended hempty hended, fun c' hc' => ?_, ?_⟩
  · exact fun hnil => hworkers ((List.set_eq_nil_iff w worker).mp hnil)
  · rcases List.mem_or_eq_of_mem_set hc' with hc' | hc'
    · exact (hold c' hc').trans_le hlaterFlight.calls_le
    · exact hdeals.old c' (List.mem_singleton.mpr hc')
  · -- the device of the call is now that of its outcome
    have hdevice' : Worker.device p₁.inFlight (.awaiting c) = some r.uuid :=
      (device_later hlaterFlight fun c' hc' => hold c' (hc' ▸ List.mem_of_getElem? hw)).trans
        hdevice
    have hmap : (workers.map (Worker.device p₁.inFlight))[w]? = some (some r.uuid) := by
      rw [List.getElem?_map, hw, Option.map_some, hdevice']
    have hmoved := WorkerPool.busy_set hmap (worker.device p₁.inFlight)
    rw [← List.map_set, List.filterMap_map, List.filterMap_map] at hmoved
    have hworker : [worker].filterMap (Worker.device p₁.inFlight)
        = (worker.device p₁.inFlight).toList := by
      cases hnew : worker.device p₁.inFlight with
      | none => simp [hnew]
      | some uuid => simp [hnew]
    have htaken := hdeals.parted
    rw [hworker] at htaken
    rw [← hmono, ← hoptions] at hparted
    exact accounts_perm hparted htaken hmoved (outcomes_collect q r)

omit [Runtime] in
/-- When the workers have ended, the devices are those of the outcomes. -/
lemma outcomes_perm_of_allFinished {q : PollNow} {queue : List String} {workers : List Worker}
    (hphase : q.phase = .polling queue workers) (hq : q.Accounted p.inFlight)
    (hall : allFinished workers = true) : q.outcomes.Perm q.options.devices := by
  obtain ⟨hworkers, hended, -, hparted⟩ := (PollNow.accounted_of_polling hphase).mp hq
  have hawaited : workers.filterMap (Worker.device p.inFlight) = [] := by
    refine List.filterMap_eq_nil_iff.mpr fun worker hworker => ?_
    cases worker with
    | finished => rfl
    | awaiting c => exact absurd hworker (not_awaiting_of_allFinished hall c)
  rwa [hended (finished_of_allFinished hall hworkers), hawaited] at hparted

omit [Runtime] in
/-- The outcome of a call is about its device. -/
lemma device_of_result (hf : p.inFlight.WellFormed) (hkeyed : p.Keyed) {c : ℕ} {r : PollResult}
    (hc : (p.inFlight.calls[c]?).bind Flight.Call.result = some r) :
    Worker.device p.inFlight (.awaiting c) = some r.uuid := by
  obtain ⟨call, hcall, hres⟩ := Option.bind_eq_some_iff.mp hc
  have htask := hf.result call (List.mem_of_getElem? hcall) r hres
  rw [Worker.device, hcall, Option.map_some, hkeyed.result _ _ r htask]

/-- A step keeps the accounts of every call. -/
lemma accounted_step (hf : p.inFlight.WellFormed) (hkeyed : p.Keyed)
    (hall : ∀ q ∈ p.pollNows, q.options.named ≠ [] → q.Accounted p.inFlight)
    (h : p.step a = some p') :
    ∀ q ∈ p'.pollNows, q.options.named ≠ [] → q.Accounted p'.inFlight := by
  have hmono : ∀ q ∈ p.pollNows, q.options.named ≠ [] → q.Accounted p'.inFlight :=
    fun q hq hnamed => (hall q hq hnamed).mono (step_later h)
  have hset : ∀ i q', (q'.options.named ≠ [] → q'.Accounted p'.inFlight) →
      ∀ q ∈ p.pollNows.set i q', q.options.named ≠ [] → q.Accounted p'.inFlight := by
    intro i q' hq' q hq
    rcases List.mem_or_eq_of_mem_set hq with hq | rfl
    · exact hmono q hq
    · exact hq'
  cases stretch_of_step h with
  | tick now =>
      obtain ⟨_, ⟨f, tf, metas, -, -, rfl⟩, heq⟩ := tickBody_eq p now
      rw [heq] at hmono ⊢
      exact hmono
  | tickGoesOn now =>
      obtain ⟨_, ⟨f, tf, metas, -, -, rfl⟩, heq⟩ := tickBody_eq p now
      rw [heq] at hmono ⊢
      exact hmono
  | pollNow options =>
      intro q hq
      rcases List.mem_append.mp hq with hq | hq
      · exact hmono q hq
      · obtain rfl := List.mem_singleton.mp hq
        exact fun _ => rfl
  | pollNowSyncs i now q hq hphase =>
      refine hset i _ fun hnamed => ?_
      have haccounted := hall q (List.mem_of_getElem? hq) hnamed
      rw [PollNow.Accounted, hphase] at haccounted
      exact haccounted
  | pollNowStarts i now q hq hphase =>
      by_cases hnamed : q.options.named = []
      · obtain ⟨_, _, _, ⟨f, tf, metas, -, -, rfl⟩, -, heq⟩ := startPollNow_eq p i q now
        rw [heq] at hset ⊢
        exact hset i _ fun hne => absurd hnamed hne
      · obtain ⟨q', hpollNows, -, hq'⟩ := accounted_startPollNow p hphase
          (hall q (List.mem_of_getElem? hq) hnamed) hnamed i now
        rw [hpollNows]
        exact hset i q' fun _ => hq'
  | workerGoesOn i w now q queue workers c r hq hphase hw hc =>
      by_cases hnamed : q.options.named = []
      · obtain ⟨_, _, _, ⟨f, tf, metas, -, -, rfl⟩, -, heq⟩ :=
          collectAndTake_eq p i q queue workers w r now
        rw [heq] at hset ⊢
        refine hset i _ fun hne => absurd ?_ hne
        cases r <;> exact hnamed
      · obtain ⟨q', hpollNows, -, hq'⟩ := accounted_collectAndTake p hphase
          (hall q (List.mem_of_getElem? hq) hnamed) hw (device_of_result hf hkeyed hc) i now
        rw [hpollNows]
        exact hset i q' fun _ => hq'
  | pollNowReturns i now q queue workers hq hphase hended =>
      refine hset i _ fun hnamed => ?_
      have hperm := outcomes_perm_of_allFinished hphase (hall q (List.mem_of_getElem? hq) hnamed)
        hended
      exact hperm
  | pollFails t reply now random uuid task e =>
      obtain ⟨resolving, recoveries, metas, heq⟩ :=
        applyFailure_eq p t uuid task e.message now random
      rw [heq] at hmono ⊢
      exact hmono
  | _ => exact hmono

/-- The accounts of every call are kept in every run. -/
theorem Reachable.accounted {file : FileText} (h : p.Reachable file) {q : PollNow}
    (hq : q ∈ p.pollNows) (hnamed : q.options.named ≠ []) : q.Accounted p.inFlight := by
  have hinv : p.FlightsInv ∧ p.Keyed ∧ ∀ q ∈ p.pollNows, q.options.named ≠ [] →
      q.Accounted p.inFlight := by
    refine h.invariant (I := fun p => p.FlightsInv ∧ p.Keyed ∧ ∀ q ∈ p.pollNows,
      q.options.named ≠ [] → q.Accounted p.inFlight)
      ⟨⟨Flight.wellFormed_empty, Flight.wellFormed_empty⟩, keyed_init file, by simp [init]⟩ ?_
    rintro p a p' ⟨hf, hkeyed, hall⟩ - hstep
    exact ⟨hf.step hstep, hkeyed.step hstep, accounted_step hf.1 hkeyed hall hstep⟩
  exact hinv.2.2 q hq hnamed

/-! ### A call returns -/

/-- When its program returns, a poll settles. -/
lemma step_returns {uuid : String} {t : ℕ} {task : PollTask} {r : Except JsError DeviceReading}
    {reply : (c : Call) → Reply c} (ht : p.inFlight.running t = some (uuid, task))
    (hresume : p.resume reply task.prog = some (.ret r)) (now : ℤ) (random : ℚ) : ∃ p' r,
    p.step (.pollGoesOn t reply now random) = some p' ∧
      p'.inFlight = p.inFlight.advance t (.settled r) ∧ p'.pollNows = p.pollNows := by
  have hgoes : p.step (.pollGoesOn t reply now random) = p.pollGoesOn t reply now random := rfl
  rw [pollGoesOn, ht] at hgoes
  simp only [hresume] at hgoes
  cases r with
  | ok reading => exact ⟨_, _, hgoes, rfl, rfl⟩
  | error e =>
      obtain ⟨resolving, recoveries, metas, heq⟩ :=
        applyFailure_eq p t uuid task e.message now random
      have hfails : p.step (.pollGoesOn t reply now random) =
          some (p.applyFailure t uuid task e.message now random) := hgoes
      exact ⟨_, _, hfails, by rw [heq]; rfl, by rw [heq]; rfl⟩

section

variable {ok : Poller → Act → Prop} {reply : (c : Call) → Reply c}

/-- A poll that awaits a reply goes on until it has settled. -/
lemma exists_settled (hok : ∀ p t, ok p (.pollGoesOn t reply 0 0)) {uuid : String} {t : ℕ}
    (prog : Prog Call Reply (Except JsError DeviceReading)) :
    ∀ (p : Poller) (task : PollTask), p.inFlight.running t = some (uuid, task) →
      task.prog = prog → (∀ r, prog ≠ .ret r) → ∃ p' r,
        Reaches Poller.step ok p p' ∧ p'.inFlight.tasks[t]? = some ⟨uuid, .settled r⟩ ∧
          p'.inFlight.calls = p.inFlight.calls ∧ p'.pollNows = p.pollNows := by
  induction prog with
  | ret a => exact fun _ _ _ _ hret => absurd rfl (hret a)
  | call e k ih =>
      intro p task ht hprog _
      have hresume : p.resume reply task.prog = some (k (p.answer reply e)) := by
        rw [hprog]
        rfl
      cases hnext : k (p.answer reply e) with
      | ret r =>
          rw [hnext] at hresume
          obtain ⟨p', r, hstep, hflight, hpollNows⟩ := step_returns ht hresume 0 0
          refine ⟨p', r, .head _ (hok p t) hstep .refl, ?_, ?_, hpollNows⟩
          · rw [hflight, Flight.WellFormed.tasks_advance _ ht, if_pos rfl]
          · rw [hflight, Flight.advance]
      | call e' k' =>
          have hgoes : p.step (.pollGoesOn t reply 0 0) = p.pollGoesOn t reply 0 0 := rfl
          rw [pollGoesOn, ht] at hgoes
          simp only [hresume, hnext] at hgoes
          have hrunning :
              (p.inFlight.advance t (.running { task with prog := .call e' k' })).running t =
                some (uuid, { task with prog := .call e' k' }) := by
            rw [Flight.running_eq_some, Flight.WellFormed.tasks_advance _ ht, if_pos rfl]
          obtain ⟨p', r, hreach, hsettled, hcalls, hpollNows⟩ := ih _
            { p with inFlight := p.inFlight.advance t (.running { task with prog := .call e' k' }) }
            { task with prog := .call e' k' } hrunning hnext.symm (by simp [hnext])
          exact ⟨p', r, .head _ (hok p t) hgoes hreach, hsettled, hcalls, hpollNows⟩

/-- A call of a poll that has settled can return. -/
lemma step_leaves {uuid : String} {c t : ℕ} {creator : Bool} {r : PollResult}
    (hcall : p.inFlight.calls[c]? = some ⟨uuid, t, creator, none⟩)
    (hsettled : p.inFlight.tasks[t]? = some ⟨uuid, .settled r⟩) : ∃ p',
    p.step (.pollReturns c) = some p' ∧
      (p'.inFlight.calls[c]?).bind Flight.Call.result = some r ∧ p'.pollNows = p.pollNows ∧
      p'.file = p.file := by
  obtain ⟨hc, -⟩ := List.getElem?_eq_some_iff.mp hcall
  obtain ⟨f, hleave, hres⟩ : ∃ f, p.inFlight.leave c = some f ∧
      (f.calls[c]?).bind Flight.Call.result = some r := by
    refine ⟨_, by simp only [Flight.leave, hcall, hsettled]; rfl, ?_⟩
    simp [hc]
  refine ⟨{ p with inFlight := f }, ?_, hres, rfl, rfl⟩
  simp only [step, pollReturns, hleave, Option.map_some]

end

/-- A poll under way awaits a reply. -/
lemma Reachable.awaits_reply {file : FileText} (h : p.Reachable file) (t : ℕ) (uuid : String)
    (task : PollTask) (ht : p.inFlight.running t = some (uuid, task)) :
    ∀ r, task.prog ≠ .ret r := by
  refine h.invariant (I := fun p => ∀ (t : ℕ) uuid task,
    p.inFlight.running t = some (uuid, task) → ∀ r, task.prog ≠ .ret r)
    (fun t uuid task ht => by cases ht) (fun p a p' hp _ hstep => ?_) t uuid task ht
  exact running_step (P := fun _ prog => ∀ r, prog ≠ .ret r)
    (fun uuid timeoutMs r hr => by cases hr)
    (fun t reply now random uuid task prog _ _ _ _ hret => hret) hp hstep

/-- The replies that polls go on with. -/
def Replies (reply : (c : Call) → Reply c) (_ : Poller) (a : Act) : Prop :=
  ∀ t reply' now random, a = .pollGoesOn t reply' now random → reply' = reply

section

variable {file : FileText} (reply : (c : Call) → Reply c)

/-- A call that is awaited returns. -/
lemma exists_result (h : p.Reachable file) {c : ℕ} (hc : c < p.inFlight.calls.length) : ∃ p' r,
    Reaches Poller.step (Replies reply) p p' ∧
      (p'.inFlight.calls[c]?).bind Flight.Call.result = some r ∧ p'.pollNows = p.pollNows := by
  have hf := h.flightsInv.1
  have hcall := List.getElem?_eq_getElem hc
  generalize p.inFlight.calls[c] = call at hcall
  obtain ⟨uuid, t, creator, result⟩ := call
  have hleaves : ∀ {p₁ : Poller} {r}, Reaches Poller.step (Replies reply) p p₁ →
      p₁.inFlight.calls[c]? = some ⟨uuid, t, creator, none⟩ →
      p₁.inFlight.tasks[t]? = some ⟨uuid, .settled r⟩ → p₁.pollNows = p.pollNows → ∃ p' r,
      Reaches Poller.step (Replies reply) p p' ∧
        (p'.inFlight.calls[c]?).bind Flight.Call.result = some r ∧ p'.pollNows = p.pollNows := by
    intro p₁ r hreach hcall₁ hsettled hpollNows
    obtain ⟨p', hstep, hres, hpollNows', -⟩ := step_leaves hcall₁ hsettled
    exact ⟨p', r, hreach.tail _ (by rintro _ _ _ _ ⟨⟩) hstep, hres, hpollNows'.trans hpollNows⟩
  cases result with
  | some r => exact ⟨p, r, .refl, by rw [hcall]; rfl, rfl⟩
  | none =>
      obtain ⟨s, hs⟩ := hf.task _ (List.mem_of_getElem? hcall)
      cases s with
      | settled r => exact hleaves .refl hcall hs rfl
      | running task =>
          have ht := Flight.running_eq_some.mpr hs
          have hok : ∀ p t, Replies reply p (.pollGoesOn t reply 0 0) := by
            rintro _ _ _ _ _ _ ⟨⟩
            rfl
          obtain ⟨p₁, r, hreach, hsettled, hcalls, hpollNows⟩ :=
            exists_settled hok _ p task ht rfl (h.awaits_reply t uuid task ht)
          exact hleaves hreach (hcalls ▸ hcall) hsettled hpollNows

/-- A worker that goes on leaves one device less without an outcome. -/
lemma step_works {i w c : ℕ} {q : PollNow} {queue : List String} {workers : List Worker}
    {r : PollResult} (hq : p.pollNows[i]? = some q) (hphase : q.phase = .polling queue workers)
    (hw : workers[w]? = some (.awaiting c))
    (hc : (p.inFlight.calls[c]?).bind Flight.Call.result = some r) : ∃ p' q' queue' workers',
    p.step (.workerGoesOn i w 0) = some p' ∧ p'.pollNows[i]? = some q' ∧
      q'.phase = .polling queue' workers' ∧ q'.options = q.options ∧
      q'.outcomes.length = q.outcomes.length + 1 := by
  obtain ⟨hi, -⟩ := List.getElem?_eq_some_iff.mp hq
  have hstep : p.step (.workerGoesOn i w 0) =
      some (p.collectAndTake i q queue workers w r 0) := by
    simp only [step, workerGoesOn, hq, hphase, hw, hc]
  obtain ⟨_, queue', worker, ⟨f, tf, metas, -, -, rfl⟩, -, heq⟩ :=
    collectAndTake_eq p i q queue workers w r 0
  refine ⟨_, { collect q r with phase := .polling queue' (workers.set w worker) }, _, _, hstep, ?_,
    rfl, by cases r <;> rfl, (outcomes_collect q r).length_eq⟩
  rw [heq]
  exact List.getElem?_set_self hi

/-- As long as a worker awaits a call, there can be one more outcome. -/
lemma exists_works (h : p.Reachable file) {i : ℕ} {q : PollNow} {queue : List String}
    {workers : List Worker} (hq : p.pollNows[i]? = some q)
    (hphase : q.phase = .polling queue workers) (hnamed : q.options.named ≠ [])
    (hall : ¬ allFinished workers = true) : ∃ p' q' queue' workers',
    Reaches Poller.step (Replies reply) p p' ∧ p'.pollNows[i]? = some q' ∧
      q'.phase = .polling queue' workers' ∧ q'.options = q.options ∧
      q'.outcomes.length = q.outcomes.length + 1 := by
  obtain ⟨c, hc⟩ : ∃ c, .awaiting c ∈ workers := by
    by_contra hnone
    refine hall (List.all_eq_true.mpr fun worker hworker => ?_)
    cases worker with
    | finished => rfl
    | awaiting c => exact absurd ⟨c, hworker⟩ hnone
  obtain ⟨w, hw⟩ := List.mem_iff_getElem?.mp hc
  obtain ⟨-, -, hold, -⟩ := (PollNow.accounted_of_polling hphase).mp
    (h.accounted (List.mem_of_getElem? hq) hnamed)
  obtain ⟨p₁, r, hreach, hres, hpollNows⟩ := exists_result reply h (hold c hc)
  obtain ⟨p', q', queue', workers', hstep, hrest⟩ :=
    step_works (by rw [hpollNows, hq]) hphase hw hres
  exact ⟨p', q', queue', workers', hreach.tail _ (by rintro _ _ _ _ ⟨⟩) hstep, hrest⟩

/-- A call whose workers are at work can return. -/
lemma exists_answer_of_polling {i : ℕ} {queue : List String} {workers : List Worker} {q : PollNow}
    (h : p.Reachable file) (hq : p.pollNows[i]? = some q)
    (hphase : q.phase = .polling queue workers) (hnamed : q.options.named ≠ []) : ∃ p' q' now,
    Reaches Poller.step (Replies reply) p p' ∧ p'.pollNows[i]? = some q' ∧
      q'.phase = .returned now := by
  -- the induction is on the devices that are without an outcome
  obtain ⟨m, hm⟩ : ∃ m, q.options.devices.length < q.outcomes.length + m :=
    ⟨q.options.devices.length + 1, by omega⟩
  induction m generalizing p q queue workers with
  | zero =>
      obtain ⟨-, -, -, hparted⟩ := (PollNow.accounted_of_polling hphase).mp
        (h.accounted (List.mem_of_getElem? hq) hnamed)
      have hlen := hparted.length_eq
      rw [List.length_append] at hlen
      omega
  | succ m ih =>
      by_cases hall : allFinished workers = true
      · obtain ⟨hi, -⟩ := List.getElem?_eq_some_iff.mp hq
        have hstep : p.step (.pollNowReturns i 0) =
            some (p.setPollNow i { q with phase := .returned 0 }) := by
          obtain ⟨options, phase, states, errors⟩ := q
          obtain rfl : phase = _ := hphase
          simp only [step, hq, if_pos hall]
        exact ⟨_, { q with phase := .returned 0 }, 0, .tail _ .refl (by rintro _ _ _ _ ⟨⟩) hstep,
          List.getElem?_set_self hi, rfl⟩
      · obtain ⟨p₁, q₁, queue₁, workers₁, hreach, hq₁, hphase₁, hoptions, hlen⟩ :=
          exists_works reply h hq hphase hnamed hall
        obtain ⟨p', q', now, hreach', hq', hphase'⟩ := ih (h.trans hreach.always) hq₁ hphase₁
          (hoptions ▸ hnamed) (by rw [hoptions, hlen]; omega)
        exact ⟨p', q', now, hreach.trans hreach', hq', hphase'⟩

/-- **A call can return**, whatever the polls reply. -/
theorem exists_answer {i : ℕ} {q : PollNow} (h : p.Reachable file) (hq : p.pollNows[i]? = some q)
    (hnamed : q.options.named ≠ []) : ∃ p' q' now,
    Reaches Poller.step (Replies reply) p p' ∧ p'.pollNows[i]? = some q' ∧
      q'.phase = .returned now := by
  obtain ⟨hi, -⟩ := List.getElem?_eq_some_iff.mp hq
  have hstart : ∀ {p₁ : Poller} {q₁ : PollNow}, p₁.Reachable file → p₁.pollNows[i]? = some q₁ →
      q₁.phase = .synced → q₁.options.named ≠ [] → ∃ p' q' now,
      Reaches Poller.step (Replies reply) p₁ p' ∧ p'.pollNows[i]? = some q' ∧
        q'.phase = .returned now := by
    intro p₁ q₁ h₁ hq₁ hphase₁ hnamed₁
    obtain ⟨hi₁, -⟩ := List.getElem?_eq_some_iff.mp hq₁
    have hstep : p₁.step (.pollNowStarts i 0) = some (p₁.startPollNow i q₁ 0) := by
      obtain ⟨options, phase, states, errors⟩ := q₁
      obtain rfl : phase = _ := hphase₁
      simp only [step, hq₁]
    obtain ⟨_, queue, workers, ⟨f, tf, metas, -, -, rfl⟩, -, heq⟩ := startPollNow_eq p₁ i q₁ 0
    rw [heq] at hstep
    obtain ⟨p', q', now, hreach, hq', hphase'⟩ := exists_answer_of_polling reply
      (h₁.tail _ trivial hstep) (List.getElem?_set_self hi₁) rfl hnamed₁
    exact ⟨p', q', now, .head _ (by rintro _ _ _ _ ⟨⟩) hstep hreach, hq', hphase'⟩
  cases hphase : q.phase with
  | syncing =>
      have hstep : p.step (.pollNowSyncs i 0) =
          some ((p.syncKnownHosts 0).setPollNow i { q with phase := .synced }) := by
        obtain ⟨options, phase, states, errors⟩ := q
        obtain rfl : phase = _ := hphase
        simp only [step, hq]
      obtain ⟨p', q', now, hreach, hq', hphase'⟩ :=
        hstart (h.tail _ trivial hstep) (List.getElem?_set_self hi) rfl hnamed
      exact ⟨p', q', now, .head _ (by rintro _ _ _ _ ⟨⟩) hstep hreach, hq', hphase'⟩
  | synced => exact hstart h hq hphase hnamed
  | polling queue workers => exact exists_answer_of_polling reply h hq hphase hnamed
  | returned now => exact ⟨p, q, now, .refl, hq, hphase⟩

end

/-! ### What a call answers -/

/-- A call of `pollNow` keeps its options. -/
lemma options_of_reaches {i : ℕ} {q₁ : PollNow} {ok : Poller → Act → Prop}
    (h : Reaches Poller.step ok p p') (hq₁ : p.pollNows[i]? = some q₁) :
    ∃ q, p'.pollNows[i]? = some q ∧ q.options = q₁.options := by
  refine h.invariant (I := fun p => ∃ q, p.pollNows[i]? = some q ∧ q.options = q₁.options)
    ⟨q₁, hq₁, rfl⟩ ?_
  rintro p a p' ⟨q, hq, hoptions⟩ - hstep
  obtain ⟨q', hq', hproceeds⟩ := proceeds_step hstep hq
  exact ⟨q', hq', hproceeds.options_eq.trans hoptions⟩

/-- **A call of `pollNow` accounts for every device that it names**: whatever it finds under way and
in whatever order things happen, it can return, whatever the polls reply; and when it has returned,
its states and errors are one for each device. -/
theorem pollNow_accounts {file : FileText} {p₀ p₁ : Poller} {options : PollOptions}
    {uuids : List String} (h₀ : p₀.Reachable file) (huuids : options.uuids = some uuids)
    (hnamed : ∃ v ∈ uuids, trim v ≠ "") (hbegin : p₀.step (.pollNow options) = some p₁)
    (h : Reaches Poller.step Always p₁ p) : ∃ q, p.pollNows[p₀.pollNows.length]? = some q ∧
      (∀ now, q.phase = .returned now → q.outcomes.Nodup ∧
        ∀ u, u ∈ q.outcomes ↔ u ≠ "" ∧ ∃ v ∈ uuids, trim v = u) ∧
      ∀ reply, ∃ p' q' now, Reaches Poller.step (Replies reply) p p' ∧
        p'.pollNows[p₀.pollNows.length]? = some q' ∧ q'.phase = .returned now := by
  have hreach : p.Reachable file := (h₀.tail _ trivial hbegin).trans h
  have hbegun : p₁.pollNows[p₀.pollNows.length]? = some ⟨options, .syncing, [], []⟩ := by
    obtain rfl := Option.some.inj hbegin
    simp
  obtain ⟨q, hq, hoptions⟩ := options_of_reaches h hbegun
  replace hoptions : q.options = options := hoptions
  have hne : q.options.named ≠ [] := by
    obtain ⟨v, hv, hvne⟩ := hnamed
    have hmem := (PollOptions.mem_devices_iff huuids).mpr ⟨hvne, v, hv, rfl⟩
    rw [hoptions]
    exact List.ne_nil_of_mem (List.mem_eraseDups.mp hmem)
  refine ⟨q, hq, fun now hphase => ?_, fun reply => exists_answer reply hreach hq hne⟩
  have haccounted := hreach.accounted (List.mem_of_getElem? hq) hne
  rw [PollNow.Accounted, hphase, hoptions] at haccounted
  refine ⟨haccounted.nodup_iff.mpr (nodup_eraseDups _), fun u => ?_⟩
  rw [haccounted.mem_iff, PollOptions.mem_devices_iff huuids]

end Poller

/-- The call of that run joins a poll, and answers with one state. -/
theorem pollNow_accounts_joined : let _ := plainRuntime; ∃ s₀ s q,
    run Poller.step backgroundPoll (Poller.init plugConfig) = some s₀ ∧
    run Poller.step (.pollNow (refreshOptions "u") :: joiningRefresh) s₀ = some s ∧
    s.pollNows[0]? = some q ∧ q.phase = .returned 6012 ∧ q.outcomes.Nodup ∧
      ∀ u, u ∈ q.outcomes ↔ u ≠ "" ∧ ∃ v ∈ ["u"], trim v = u := by
  let _ := plainRuntime
  obtain ⟨q, hq, hanswer, -⟩ := Poller.pollNow_accounts
    (reaches_run backgroundPoll (along_always _ _) rfl : Poller.Reachable plugConfig _)
    (show (refreshOptions "u").uuids = some ["u"] from rfl) ⟨"u", by simp, by decide⟩ rfl
    (reaches_run joiningRefresh (along_always _ _) rfl)
  obtain rfl := Option.some.inj hq
  exact ⟨_, _, _, rfl, rfl, rfl, rfl, hanswer 6012 rfl⟩

end Merossity
