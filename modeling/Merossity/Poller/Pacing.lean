import Merossity.Lib.Pacing
import Merossity.Poller.Metas
import Merossity.Poller.Selection
import Merossity.Poller.SingleFlight

/-!
The pace of telemetry polls.

* `PowerTimes` is what the poller keeps of a device to decide on its next telemetry poll.
  `Same` says that a step leaves it alone.
* `PowerStep` lists what a step does to the telemetry polls of a device, and `powerStep_of_step` is
  the inversion of `step` in these terms.
* `PowerLog` is the poller with a log of the telemetry polls of every device. `telemetry_paced`: in
  every run, whatever the clock, a device is asked again only after a pause that depends on the
  outcomes so far, and in a window of time at most as often as the interval fits into it.
-/

namespace Merossity

open Js Machine Pacing

/-- The outcome of a telemetry poll. -/
inductive PowerOutcome where
  | measured
  | failed
  | unmetered
  deriving DecidableEq

namespace PowerOutcome

/-- The number of failures in a row, after one more poll. A device without a meter is not counted. -/
def count (n : ℕ) : PowerOutcome → ℕ
  | measured => 0
  | failed => n + 1
  | unmetered => n

def failures (os : List PowerOutcome) : ℕ := os.foldl count 0

/-- How long a device is left alone after a poll, `n` being the failures in a row. -/
def rest [Runtime] (n : ℕ) : PowerOutcome → ℤ
  | unmetered => max 60000 telemetryIntervalMs
  | _ => max telemetryIntervalMs (failureBackoffMs n)

/-- How long a device is left alone after polls with these outcomes. -/
def pause [Runtime] (os : List PowerOutcome) : ℤ :=
  match os.getLast? with
  | some o => o.rest (failures os)
  | none => telemetryIntervalMs

@[simp] lemma failures_concat (os : List PowerOutcome) (o : PowerOutcome) :
    failures (os ++ [o]) = o.count (failures os) := by
  simp [failures]

@[simp] lemma pause_concat [Runtime] (os : List PowerOutcome) (o : PowerOutcome) :
    pause (os ++ [o]) = o.rest (o.count (failures os)) := by
  simp [pause]

lemma interval_le_pause [Runtime] (os : List PowerOutcome) : telemetryIntervalMs ≤ pause os := by
  rw [pause]
  split
  next o _ => cases o <;> simp [rest]
  next => exact le_rfl

end PowerOutcome

lemma telemetryIntervalMs_ge [Runtime] : 2000 ≤ telemetryIntervalMs := by
  rw [telemetryIntervalMs]
  split
  · omega
  · split
    · split_ifs
      · omega
      · exact le_max_left _ _
    · omega

/-! ### What is kept of a device -/

/-- When the next telemetry poll of a device is due, and how many have failed in a row. -/
def PollMeta.powerTimes (pm : PollMeta) : ℤ × ℕ := (pm.telemetryNextDueAt, pm.telemetryFailureCount)

def powerTimes (metas : OrdMap String PollMeta) (u : String) : Option (ℤ × ℕ) :=
  (metas.get u).map PollMeta.powerTimes

/-- A change of the metas leaves the times of a device alone, or makes a meta of it. -/
def Same (u : String) (metas metas' : OrdMap String PollMeta) : Prop :=
  powerTimes metas' u = powerTimes metas u ∨
    powerTimes metas u = none ∧ ∃ now, powerTimes metas' u = some (now, 0)

section Same

variable {u : String} {metas metas' metas'' : OrdMap String PollMeta}

lemma Same.refl (u : String) (metas : OrdMap String PollMeta) : Same u metas metas := .inl rfl

lemma Same.trans (h : Same u metas metas') (h' : Same u metas' metas'') : Same u metas metas'' := by
  rcases h' with h' | ⟨hnone, now, hnow⟩
  · rwa [Same, h']
  · rcases h with h | ⟨hnone', now', hnow'⟩
    · exact .inr ⟨h ▸ hnone, now, hnow⟩
    · rw [hnow'] at hnone
      cases hnone

lemma Same.of_some (h : Same u metas metas') {x : ℤ × ℕ} (hx : powerTimes metas u = some x) :
    powerTimes metas' u = some x := by
  rcases h with h | ⟨hnone, -⟩
  · exact h.trans hx
  · rw [hnone] at hx
    cases hx

lemma same_ensureMeta (u : String) (metas : OrdMap String PollMeta) (uuid : String) (now : ℤ) :
    Same u metas (ensureMeta metas uuid now) := by
  rw [Same, powerTimes, powerTimes, get_ensureMeta]
  by_cases huuid : uuid = u
  · cases hget : metas.get u with
    | some pm => simp [huuid]
    | none => exact .inr ⟨rfl, now, by simp [huuid, createMeta, PollMeta.powerTimes]⟩
  · simp [huuid]

lemma powerTimes_modifyMeta (u : String) (metas : OrdMap String PollMeta) (uuid : String)
    (f : PollMeta → PollMeta) : powerTimes (modifyMeta metas uuid f) u =
      if uuid = u then (metas.get u).map fun pm => (f pm).powerTimes else powerTimes metas u := by
  rw [powerTimes, get_modifyMeta]
  split_ifs
  · rw [Option.map_map]
    rfl
  · rfl

lemma same_modifyMeta (u : String) (metas : OrdMap String PollMeta) (uuid : String)
    {f : PollMeta → PollMeta} (hf : ∀ pm, (f pm).powerTimes = pm.powerTimes) :
    Same u metas (modifyMeta metas uuid f) := by
  left
  rw [powerTimes_modifyMeta]
  simp [hf, powerTimes]

lemma same_boostMeta (u : String) (metas : OrdMap String PollMeta) (uuid : String) (now : ℤ) :
    Same u metas (boostMeta metas uuid now) := by
  rw [boostMeta]
  split_ifs
  · exact .refl u metas
  · exact (same_ensureMeta u metas uuid now).trans (same_modifyMeta u _ uuid fun _ => rfl)

/-- New hosts get metas. -/
lemma same_foldl_ensureMeta {α : Type} (u : String) (now : ℤ) (hosts : List (String × α)) :
    ∀ metas, Same u metas (hosts.foldl (fun m e => ensureMeta m e.1 now) metas) := by
  induction hosts with
  | nil => exact fun metas => .refl u metas
  | cons e hosts ih => exact fun metas => (same_ensureMeta u metas e.1 now).trans (ih _)

end Same

namespace Poller

/-! ### Polls under way -/

/-- A telemetry poll of the device that was started at `s` is under way. -/
def Underway (p : Poller) (u : String) (s : ℤ) : Prop :=
  ∃ t task, p.telemetryInFlight.running t = some (u, task) ∧ task.startedAt = s

/-- The telemetry poll that ends in a step: its device and its outcome. -/
def powerOutcome (p : Poller) : Act → Option (String × PowerOutcome)
  | .telemetryGoesOn t reply _ => match p.telemetryInFlight.running t with
    | some (uuid, task) => match p.resume reply task.prog with
      | some (.ret (.ok none)) => some (uuid, .unmetered)
      | some (.ret (.ok (some _))) => some (uuid, .measured)
      | some (.ret (.error _)) => some (uuid, .failed)
      | _ => none
    | none => none
  | _ => none

/-- The round of a device that a task begins. -/
def roundOf (u : String) :
    Flight.Task String TelemetryTask (Option DevicePowerDto) → Option (Attempt PowerOutcome)
  | ⟨uuid, .running task⟩ => if uuid = u then some ⟨task.startedAt, none⟩ else none
  | ⟨_, .settled _⟩ => none

/-- The telemetry polls of a device that a step starts. -/
def newRounds (p p' : Poller) (u : String) : List (Attempt PowerOutcome) :=
  (p'.telemetryInFlight.tasks.drop p.telemetryInFlight.tasks.length).filterMap (roundOf u)

/-- What a step does to the telemetry polls of a device. -/
inductive PowerStep [Runtime] (p p' : Poller) (a : Act) (u : String) : Prop where
  | rests (hout : ∀ o, p.powerOutcome a ≠ some (u, o)) (hnew : p.newRounds p' u = [])
      (hrun : ∀ s, p'.Underway u s ↔ p.Underway u s) (hsame : Same u p.metaByUuid p'.metaByUuid)
  | starts (now d : ℤ) (n : ℕ) (hact : a = .tick now ∨ a = .tickGoesOn now)
      (hout : ∀ o, p.powerOutcome a ≠ some (u, o))
      (hnew : p.newRounds p' u = [⟨now, none⟩]) (hidle : ∀ s, ¬ p.Underway u s)
      (hrun : ∀ s, p'.Underway u s ↔ s = now) (hdue : powerTimes p.metaByUuid u = some (d, n))
      (hle : d ≤ now) (hsame : Same u p.metaByUuid p'.metaByUuid)
  | ends (o : PowerOutcome) (s d : ℤ) (n : ℕ) (hout : p.powerOutcome a = some (u, o))
      (hnew : p.newRounds p' u = []) (hrun : p.Underway u s) (hidle : ∀ s', ¬ p'.Underway u s')
      (htimes : powerTimes p.metaByUuid u = some (d, n))
      (hset : powerTimes p'.metaByUuid u = some (s + o.rest (o.count n), o.count n))

section

variable {p p' : Poller} {u : String}

/-- No task is added. -/
lemma newRounds_eq_nil (h : p'.telemetryInFlight.tasks.length ≤ p.telemetryInFlight.tasks.length) :
    p.newRounds p' u = [] := by
  rw [newRounds, List.drop_eq_nil_of_le h]
  rfl

lemma underway_congr (h : p'.telemetryInFlight.tasks = p.telemetryInFlight.tasks) (s : ℤ) :
    p'.Underway u s ↔ p.Underway u s := by
  simp only [Underway, Flight.running_eq_some, h]

variable [Runtime]

/-- A step that leaves the tasks alone. -/
lemma PowerStep.of_tasks {a : Act} (hout : ∀ o, p.powerOutcome a ≠ some (u, o))
    (h : p'.telemetryInFlight.tasks = p.telemetryInFlight.tasks)
    (hsame : Same u p.metaByUuid p'.metaByUuid) : PowerStep p p' a u :=
  .rests hout (newRounds_eq_nil (by rw [h])) (underway_congr h) hsame

/-! ### Ticks -/

/-- The tasks that the loop of a tick adds. -/
lemma tasks_startTelemetry (now : ℤ) : ∀ (uuids : List String) (p : Poller), uuids.Nodup →
    (∀ v ∈ uuids, p.telemetryInFlight.entries.has v = false) →
      (startTelemetry now uuids p).telemetryInFlight.tasks = p.telemetryInFlight.tasks ++
        (taken p.telemetryRoom uuids).map fun v =>
          ⟨v, .running ⟨.telemetryPoller, now, (readPower v none).run⟩⟩
  | [], p, _, _ => by cases hroom : p.telemetryRoom <;> simp [startTelemetry, taken]
  | v :: rest, p, hnodup, hfree => by
      obtain ⟨hnotin, hnodup⟩ := List.nodup_cons.mp hnodup
      obtain ⟨hv, hrest⟩ := List.forall_mem_cons.mp hfree
      rw [startTelemetry]
      split_ifs with hlt hempty
      · obtain ⟨k, hk⟩ : ∃ k, p.telemetryRoom = k + 1 :=
          Nat.exists_eq_succ_of_ne_zero (by rw [telemetryRoom]; omega)
        rw [hk, taken, if_pos hempty, List.map_nil, List.append_nil]
      · have hget : p.telemetryInFlight.entries.get v = none := by simpa [OrdMap.has] using hv
        have hhas : ∀ w, (p.pollTelemetry v .telemetryPoller none now).telemetryInFlight.entries.has
            w = (decide (v = w) || p.telemetryInFlight.entries.has w) :=
          fun w => Flight.has_enter _ _ _ _
        have hroom : p.telemetryRoom =
            (p.pollTelemetry v .telemetryPoller none now).telemetryRoom + 1 := by
          have hsize : (p.pollTelemetry v .telemetryPoller none
              now).telemetryInFlight.entries.size = p.telemetryInFlight.entries.size + 1 := by
            refine (Flight.size_enter _ _ _).trans ?_
            rw [hv]
            rfl
          rw [telemetryRoom, telemetryRoom, hsize]
          omega
        have htasks : (p.pollTelemetry v .telemetryPoller none now).telemetryInFlight.tasks =
            p.telemetryInFlight.tasks ++
              [⟨v, .running ⟨.telemetryPoller, now, (readPower v none).run⟩⟩] := by
          rw [pollTelemetry, Flight.enter_starts hget]
        have hothers : ∀ w ∈ rest, (p.pollTelemetry v .telemetryPoller none
            now).telemetryInFlight.entries.has w = false := by
          intro w hw
          have hne : v ≠ w := fun heq => hnotin (heq ▸ hw)
          simp [hhas, hne, hrest w hw]
        rw [tasks_startTelemetry now rest _ hnodup hothers, htasks, hroom, taken, if_neg hempty,
          List.map_cons, List.append_assoc]
        rfl
      · have hroom : p.telemetryRoom = 0 := by
          rw [telemetryRoom]
          omega
        rw [hroom, taken, List.map_nil, List.append_nil]

/-- Starting polls and boosting devices leaves the times alone. -/
lemma same_enlists {P : String → Prop} (h : Enlists P p p') :
    Same u p.metaByUuid p'.metaByUuid := by
  induction h with
  | refl => exact .refl u _
  | poll _ uuid _ reason timeoutMs now ih =>
      refine ih.trans ?_
      rw [pollDevice]
      dsimp only
      split
      · exact .refl u _
      · exact same_ensureMeta u _ uuid now
  | telemetry _ uuid _ reason timeoutMs now ih =>
      refine ih.trans ?_
      rw [pollTelemetry]
      dsimp only
      split
      · exact .refl u _
      · exact same_ensureMeta u _ uuid now
  | boost _ uuid _ now ih => exact ih.trans (same_boostMeta u _ uuid now)

/-- The devices of which a tick starts telemetry polls. -/
def polledPower (p : Poller) (now : ℤ) : List String :=
  taken p.telemetryRoom ((p.telemetryQueue now).filter p.isFree)

omit [Runtime] in
lemma nodup_polledPower (p : Poller) (now : ℤ) : (p.polledPower now).Nodup := by
  rw [polledPower, taken_eq]
  exact (((p.nodup_telemetryQueue now).filter _).sublist (List.take_sublist _ _)).sublist
    (List.takeWhile_sublist _)

omit [Runtime] in
/-- Such a device is due, and no telemetry poll of it is registered. -/
lemma due_of_mem_polledPower {now : ℤ} (h : u ∈ p.polledPower now) :
    p.telemetryInFlight.entries.has u = false ∧
      ∃ d n, powerTimes p.metaByUuid u = some (d, n) ∧ d ≤ now := by
  have hqueue := (List.mem_filter.mp (subset_taken _ _ h)).1
  refine ⟨has_of_mem_telemetryQueue hqueue, ?_⟩
  rw [telemetryQueue, sortByTime, List.mem_insertionSort] at hqueue
  obtain ⟨e, he, rfl⟩ := List.mem_map.mp hqueue
  obtain ⟨hmem, hdue⟩ := List.mem_filter.mp he
  have hget : p.metaByUuid.get e.1 = some e.2 := (OrdMap.mem_entries_iff _).mp hmem
  refine ⟨e.2.telemetryNextDueAt, e.2.telemetryFailureCount, ?_, ?_⟩
  · rw [powerTimes, hget]
    rfl
  · rw [Bool.and_eq_true] at hdue
    exact of_decide_eq_true hdue.2

lemma tasks_tickBody (p : Poller) (now : ℤ) :
    (p.tickBody now).telemetryInFlight.tasks = p.telemetryInFlight.tasks ++
      (p.polledPower now).map fun v =>
        ⟨v, .running ⟨.telemetryPoller, now, (readPower v none).run⟩⟩ := by
  have hflight := telemetryInFlight_startPolls now (p.sortByTime PollMeta.nextDueAt (p.due now)) p
  have hroom : (startPolls now (p.sortByTime PollMeta.nextDueAt (p.due now)) p).telemetryRoom =
      p.telemetryRoom := by rw [telemetryRoom, hflight, telemetryRoom]
  have hqueue := p.sorted_dueTelemetry now
  have hfree : ∀ v ∈ (p.telemetryQueue now).filter p.isFree,
      p.telemetryInFlight.entries.has v = false := fun v hv =>
    has_of_mem_telemetryQueue (List.mem_filter.mp hv).1
  have htasks := tasks_startTelemetry now ((p.telemetryQueue now).filter p.isFree)
    (startPolls now (p.sortByTime PollMeta.nextDueAt (p.due now)) p)
    ((p.nodup_telemetryQueue now).filter _) (by rw [hflight]; exact hfree)
  rw [hflight, hroom, ← hqueue] at htasks
  rw [polledPower, ← hqueue]
  exact htasks

omit [Runtime] in
/-- The rounds of a device among the tasks that a tick adds. -/
lemma filterMap_roundOf [Runtime] (now : ℤ) (u : String) : ∀ uuids : List String, uuids.Nodup →
    (uuids.map fun v => (⟨v, .running ⟨.telemetryPoller, now, (readPower v none).run⟩⟩ :
      Flight.Task String TelemetryTask (Option DevicePowerDto))).filterMap (roundOf u) =
        if u ∈ uuids then [⟨now, none⟩] else []
  | [], _ => rfl
  | v :: rest, hnodup => by
      obtain ⟨hnotin, hnodup⟩ := List.nodup_cons.mp hnodup
      have ih := filterMap_roundOf now u rest hnodup
      rw [List.map_cons, List.filterMap_cons, roundOf]
      by_cases hv : v = u
      · subst hv
        simp [ih, hnotin]
      · simp [ih, hv, Ne.symm hv]

/-- A tick starts a telemetry poll of a device that is due, or leaves it alone. -/
lemma powerStep_tickBody {a : Act} (hwf : p.telemetryInFlight.WellFormed) {now : ℤ}
    (hact : a = .tick now ∨ a = .tickGoesOn now) : PowerStep p (p.tickBody now) a u := by
  have hout : ∀ o, p.powerOutcome a ≠ some (u, o) := by
    rcases hact with rfl | rfl
    · exact nofun
    · exact nofun
  have htasks := p.tasks_tickBody now
  have hnew : p.newRounds (p.tickBody now) u =
      if u ∈ p.polledPower now then [⟨now, none⟩] else [] := by
    rw [newRounds, htasks, List.drop_left, filterMap_roundOf now u _ (p.nodup_polledPower now)]
  have hrun : ∀ s, (p.tickBody now).Underway u s ↔
      p.Underway u s ∨ u ∈ p.polledPower now ∧ s = now := by
    intro s
    simp only [Underway, Flight.running_eq_some, htasks]
    constructor
    · rintro ⟨t, task, ht, rfl⟩
      rcases List.mem_append.mp (List.mem_of_getElem? ht) with hold | hadd
      · obtain ⟨i, hi⟩ := List.mem_iff_getElem?.mp hold
        exact .inl ⟨i, task, hi, rfl⟩
      · obtain ⟨v, hv, heq⟩ := List.mem_map.mp hadd
        cases heq
        exact .inr ⟨hv, rfl⟩
    · rintro (⟨t, task, ht, rfl⟩ | ⟨hmem, rfl⟩)
      · exact ⟨t, task, by rw [List.getElem?_append_left (List.getElem?_eq_some_iff.mp ht).1, ht],
          rfl⟩
      · obtain ⟨i, hi⟩ := List.mem_iff_getElem?.mp (List.mem_append_right
          p.telemetryInFlight.tasks (List.mem_map_of_mem hmem))
        exact ⟨i, _, hi, rfl⟩
  obtain ⟨q, hq, heq⟩ := p.tickBody_enlists now
  have hsame : Same u p.metaByUuid (p.tickBody now).metaByUuid := by
    have hend : (q.endTick now).metaByUuid = q.metaByUuid := rfl
    rw [heq, hend]
    exact same_enlists hq
  by_cases hmem : u ∈ p.polledPower now
  · obtain ⟨hfree, d, n, hdue, hle⟩ := due_of_mem_polledPower hmem
    have hidle : ∀ s, ¬ p.Underway u s := by
      rintro s ⟨t, task, ht, -⟩
      have hreg := hwf.registered t u task ht
      rw [OrdMap.has, hreg] at hfree
      cases hfree
    refine .starts now d n hact hout (by rw [hnew, if_pos hmem]) hidle (fun s => ?_) hdue hle hsame
    rw [hrun]
    exact ⟨fun h => (h.resolve_left (hidle s)).2, fun h => .inr ⟨hmem, h⟩⟩
  · refine .rests hout (by rw [hnew, if_neg hmem]) (fun s => ?_) hsame
    rw [hrun]
    exact ⟨fun h => h.resolve_right fun h => hmem h.1, .inl⟩

/-! ### Steps -/

lemma telemetryInFlight_takeNext (p : Poller) (options : PollOptions) (now : ℤ)
    (queue : List String) :
    (p.takeNext options now queue).1.telemetryInFlight = p.telemetryInFlight := by
  cases queue with
  | nil => rfl
  | cons uuid rest =>
      rw [takeNext]
      split_ifs <;> rfl

lemma telemetryInFlight_startWorkers (options : PollOptions) (now : ℤ) : ∀ (n : ℕ) (p : Poller)
    (queue : List String),
      (startWorkers options now n p queue).1.telemetryInFlight = p.telemetryInFlight
  | 0, _, _ => rfl
  | n + 1, p, queue =>
      (telemetryInFlight_startWorkers options now n _ _).trans
        (telemetryInFlight_takeNext p options now queue)

/-- Refreshes start no telemetry polls. -/
lemma telemetryInFlight_startPollNow (p : Poller) (i : ℕ) (q : PollNow) (now : ℤ) :
    (p.startPollNow i q now).telemetryInFlight = p.telemetryInFlight :=
  telemetryInFlight_startWorkers q.options now _ { p with metaByUuid := _ } _

lemma telemetryInFlight_collectAndTake (p : Poller) (i : ℕ) (q : PollNow) (queue : List String)
    (workers : List Worker) (w : ℕ) (r : PollResult) (now : ℤ) :
    (p.collectAndTake i q queue workers w r now).telemetryInFlight = p.telemetryInFlight :=
  telemetryInFlight_takeNext p q.options now queue

omit [Runtime] in
/-- A telemetry poll that ends. -/
lemma PowerStep.of_ends [Runtime] {a : Act} {t : ℕ} {uuid : String} {task : TelemetryTask}
    {o : PowerOutcome} {r : Option DevicePowerDto} {f : PollMeta → PollMeta}
    (hwf : p.telemetryInFlight.WellFormed) (hnoted : p.Noted)
    (ht : p.telemetryInFlight.running t = some (uuid, task))
    (hout : p.powerOutcome a = some (uuid, o))
    (hflight : p'.telemetryInFlight = p.telemetryInFlight.advance t (.settled r))
    (hmetas : p'.metaByUuid = modifyMeta p.metaByUuid uuid f)
    (hf : ∀ pm, (f pm).powerTimes = (task.startedAt +
      o.rest (o.count pm.telemetryFailureCount), o.count pm.telemetryFailureCount)) :
    PowerStep p p' a u := by
  have hnew : p.newRounds p' u = [] :=
    newRounds_eq_nil (by rw [hflight, Flight.advance, List.length_modify])
  have hothers : ∀ i key task', p'.telemetryInFlight.running i = some (key, task') ↔
      i ≠ t ∧ p.telemetryInFlight.running i = some (key, task') := by
    intro i key task'
    rw [Flight.running_eq_some, hflight, Flight.WellFormed.tasks_advance _ ht,
      Flight.running_eq_some]
    by_cases hi : t = i
    · simp [hi]
    · simp [hi, Ne.symm hi]
  by_cases huuid : uuid = u
  · subst huuid
    obtain ⟨pm, hpm⟩ := (OrdMap.has_iff _).mp (hnoted.power t uuid task ht)
    have htimes : powerTimes p.metaByUuid uuid = some pm.powerTimes := by rw [powerTimes, hpm]; rfl
    refine .ends o task.startedAt _ _ hout hnew ⟨t, task, ht, rfl⟩ ?_ htimes ?_
    · rintro s' ⟨i, task', hi, -⟩
      obtain ⟨hne, hi⟩ := (hothers i uuid task').mp hi
      exact hne (hwf.eq_of_running hi ht)
    · rw [hmetas, powerTimes_modifyMeta, if_pos rfl, hpm, Option.map_some, hf]
  · refine .rests (fun o' h => ?_) hnew (fun s => ?_) (.inl ?_)
    · rw [hout, Option.some.injEq, Prod.mk.injEq] at h
      exact huuid h.1
    · refine exists_congr fun i => exists_congr fun task' => and_congr_left fun _ => ?_
      rw [hothers]
      refine ⟨And.right, fun hi => ⟨?_, hi⟩⟩
      rintro rfl
      rw [ht] at hi
      cases hi
      exact huuid rfl
    · rw [hmetas, powerTimes_modifyMeta, if_neg huuid]

/-- A telemetry poll that goes on. -/
lemma PowerStep.of_awaits {a : Act} {t : ℕ} {uuid : String} {task : TelemetryTask}
    (task' : TelemetryTask) (hout : ∀ o, p.powerOutcome a ≠ some (u, o))
    (ht : p.telemetryInFlight.running t = some (uuid, task))
    (hstarted : task'.startedAt = task.startedAt)
    (hflight : p'.telemetryInFlight = p.telemetryInFlight.advance t (.running task'))
    (hmetas : p'.metaByUuid = p.metaByUuid) : PowerStep p p' a u := by
  refine .rests hout (newRounds_eq_nil (by rw [hflight, Flight.advance, List.length_modify]))
    (fun s => ?_) (by rw [hmetas]; exact .refl u _)
  simp only [Underway, Flight.running_eq_some, hflight, Flight.WellFormed.tasks_advance _ ht]
  rw [Flight.running_eq_some] at ht
  constructor
  · rintro ⟨i, task'', hi, rfl⟩
    split_ifs at hi with heq
    · cases hi
      exact ⟨i, task, heq ▸ ht, hstarted.symm⟩
    · exact ⟨i, task'', hi, rfl⟩
  · rintro ⟨i, task'', hi, rfl⟩
    by_cases heq : t = i
    · subst heq
      rw [ht] at hi
      cases hi
      exact ⟨t, task', if_pos rfl, hstarted⟩
    · exact ⟨i, task'', by rw [if_neg heq, hi], rfl⟩

omit [Runtime] in
lemma powerOutcome_awaits {t : ℕ} {reply : (c : Call) → Reply c} {now : ℤ} {uuid : String}
    {task : TelemetryTask} {prog : Prog Call Reply (Except JsError (Option _))}
    (ht : p.telemetryInFlight.running t = some (uuid, task))
    (hprog : p.resume reply task.prog = some prog) (hret : ∀ r, prog ≠ .ret r) :
    p.powerOutcome (.telemetryGoesOn t reply now) = none := by
  cases prog with
  | ret r => exact absurd rfl (hret r)
  | call c k => simp only [powerOutcome, ht, hprog]

omit [Runtime] in
lemma same_sync (p : Poller) (now : ℤ) :
    Same u p.metaByUuid (p.syncKnownHosts now).metaByUuid :=
  same_foldl_ensureMeta u now _ p.metaByUuid

omit [Runtime] in
lemma same_startRecovery (p : Poller) (uuid : String) (now : ℤ) :
    Same u p.metaByUuid (p.startRecovery uuid now).metaByUuid := by
  rw [startRecovery]
  split_ifs
  · exact .refl u _
  · exact same_ensureMeta u _ uuid now
  · exact (same_ensureMeta u _ uuid now).trans (same_modifyMeta u _ uuid fun _ => rfl)

omit [Runtime] in
lemma same_applyFailure (p : Poller) (t : ℕ) (uuid : String) (task : PollTask) (message : String)
    (now : ℤ) (random : ℚ) :
    Same u p.metaByUuid (p.applyFailure t uuid task message now random).metaByUuid := by
  have hnoted : Same u p.metaByUuid (p.noteFailure t uuid task message now random).metaByUuid :=
    same_modifyMeta u _ uuid fun _ => rfl
  rw [applyFailure]
  split_ifs
  · exact hnoted.trans (same_startRecovery _ uuid now)
  · exact hnoted

omit [Runtime] in
lemma same_endRecovery (p : Poller) (i : ℕ) (r : Recovery)
    (found : Option (String × Option String)) (now : ℤ) :
    Same u p.metaByUuid (endRecovery p i r found now).metaByUuid := by
  cases found with
  | none => exact .refl u _
  | some f => exact same_modifyMeta u _ r.uuid fun _ => rfl

/-- The inversion of `step`, for the telemetry polls of a device. -/
theorem powerStep_of_step {a : Act} (hwf : p.telemetryInFlight.WellFormed) (hnoted : p.Noted)
    (h : p.step a = some p') (u : String) : PowerStep p p' a u := by
  have hother : ∀ b, (∀ t reply now, b ≠ .telemetryGoesOn t reply now) →
      ∀ o, p.powerOutcome b ≠ some (u, o) := by
    intro b hb o hout
    cases b with
    | telemetryGoesOn t reply now => exact hb t reply now rfl
    | _ => cases hout
  cases stretch_of_step h with
  | boostDevice uuid now =>
      exact .of_tasks (hother _ nofun) rfl (same_boostMeta u _ uuid now)
  | tick now => exact powerStep_tickBody hwf (.inl rfl)
  | tickGoesOn now => exact powerStep_tickBody hwf (.inr rfl)
  | tickSyncs now =>
      exact .of_tasks (hother _ nofun) rfl (same_sync p now)
  | pollNowSyncs i now q =>
      exact .of_tasks (hother _ nofun) rfl (same_sync p now)
  | pollNowStarts i now q =>
      obtain ⟨p₁, queue, workers, hp₁, -, -, heq⟩ := startPollNow_enlists p i q now
      have hsame : Same u p.metaByUuid p₁.metaByUuid := same_enlists hp₁
      refine .of_tasks (hother _ nofun) ?_ (by rw [heq]; exact hsame)
      rw [telemetryInFlight_startPollNow]
  | workerGoesOn i w now q queue workers c r =>
      obtain ⟨p₁, queue', worker, hp₁, -, heq⟩ :=
        collectAndTake_enlists p i q queue workers w r now
      have hsame : Same u p.metaByUuid p₁.metaByUuid := same_enlists hp₁
      refine .of_tasks (hother _ nofun) ?_ (by rw [heq]; exact hsame)
      rw [telemetryInFlight_collectAndTake]
  | pollReads t reply now random uuid task reading =>
      exact .of_tasks (hother _ nofun) rfl (same_modifyMeta u _ uuid fun _ => rfl)
  | pollFails t reply now random uuid task e =>
      have hsame : Same u p.metaByUuid (p.applyFailure t uuid task e.message now random).metaByUuid :=
        same_applyFailure p t uuid task e.message now random
      obtain ⟨resolving, recoveries, metas, heq⟩ :=
        applyFailure_eq p t uuid task e.message now random
      exact .of_tasks (hother _ nofun) (by rw [heq]; rfl) hsame
  | telemetryAwaits t reply now uuid task prog ht hprog hret =>
      have hout : p.powerOutcome (.telemetryGoesOn t reply now) = none :=
        powerOutcome_awaits ht hprog hret
      exact .of_awaits { task with prog } (by simp [hout]) ht rfl rfl rfl
  | telemetrySkips t reply now uuid task ht hprog =>
      refine .of_ends (o := .unmetered) hwf hnoted ht ?_ rfl rfl fun pm => ?_
      · simp only [powerOutcome, ht, hprog]
      · rfl
  | telemetryReads t reply now uuid task host parsed ht hprog =>
      refine .of_ends (o := .measured) hwf hnoted ht ?_ rfl rfl fun pm => ?_
      · simp only [powerOutcome, ht, hprog]
      · rfl
  | telemetryFails t reply now uuid task e ht hprog =>
      refine .of_ends (o := .failed) hwf hnoted ht ?_ rfl rfl fun pm => ?_
      · simp only [powerOutcome, ht, hprog]
      · rfl
  | telemetryReturns c f hf =>
      obtain ⟨k, k', t, creator, r, -, -, rfl⟩ := Flight.leave_eq_some hf
      exact .of_tasks (hother _ nofun) rfl (.refl u _)
  | recoveryEnds i reply now r found =>
      exact .of_tasks (hother _ nofun) rfl (same_endRecovery _ i r _ now)
  | _ => exact .of_tasks (hother _ nofun) rfl (.refl u _)

end

end Poller

/-! ### Runs -/

/-- The poller with a log of the telemetry polls of every device. -/
structure PowerLog where
  poller : Poller
  rounds : String → List (Attempt PowerOutcome)

namespace PowerLog

def init (file : FileText) : PowerLog := ⟨.init file, fun _ => []⟩

/-- The log of a device, when a poll of it ends or none does. -/
def ended (u : String) (rs : List (Attempt PowerOutcome)) :
    Option (String × PowerOutcome) → List (Attempt PowerOutcome)
  | some (uuid, o) => if uuid = u then finish o rs else rs
  | none => rs

lemma ended_eq_self {u : String} {rs : List (Attempt PowerOutcome)}
    {out : Option (String × PowerOutcome)} (h : ∀ o, out ≠ some (u, o)) : ended u rs out = rs := by
  cases out with
  | none => rfl
  | some e =>
      obtain ⟨uuid, o⟩ := e
      refine if_neg ?_
      rintro rfl
      exact h o rfl

/-- The log of a device tells what the poller knows of it. -/
structure Tracks [Runtime] (p : Poller) (u : String) (rs : List (Attempt PowerOutcome)) : Prop where
  paced : Paced PowerOutcome.pause rs
  underway : ∀ s, p.Underway u s → ∃ earlier, rs = begin s earlier
  rested : (∀ s, ¬ p.Underway u s) → ∀ d n, powerTimes p.metaByUuid u = some (d, n) →
    Rested PowerOutcome.pause rs d
  counted : ∀ d n, powerTimes p.metaByUuid u = some (d, n) →
    n = PowerOutcome.failures (outcomes rs)
  noted : powerTimes p.metaByUuid u = none → rs = []

variable [Runtime]

def step (s : PowerLog) (a : Act) : Option PowerLog :=
  (s.poller.step a).map fun p =>
    { poller := p
      rounds := fun u =>
        ended u (s.rounds u) (s.poller.powerOutcome a) ++ s.poller.newRounds p u }

lemma tracks_init (file : FileText) (u : String) : Tracks (.init file) u [] where
  paced := .nil _
  underway s h := by
    obtain ⟨t, task, ht, -⟩ := h
    cases ht
  rested _ _ _ _ r hr := by cases hr
  counted _ _ h := by cases h
  noted _ := rfl

/-- The log of a device after a step. -/
lemma Tracks.step {p p' : Poller} {a : Act} {u : String} {rs : List (Attempt PowerOutcome)}
    (hrs : Tracks p u rs) (h : p.PowerStep p' a u) :
    Tracks p' u (ended u rs (p.powerOutcome a) ++ p.newRounds p' u) := by
  cases h with
  | rests hout hnew hrun hsame =>
      rw [ended_eq_self hout, hnew, List.append_nil]
      refine ⟨hrs.paced, fun s hs => hrs.underway s ((hrun s).mp hs), fun hidle d n hdn => ?_,
        fun d n hdn => ?_, fun hnone => ?_⟩
      · rcases hsame with hsame | ⟨hnone, -⟩
        · exact hrs.rested (fun s hs => hidle s ((hrun s).mpr hs)) d n (hsame ▸ hdn)
        · rw [hrs.noted hnone]
          exact fun r hr => by cases hr
      · rcases hsame with hsame | ⟨hnone, now, hnow⟩
        · exact hrs.counted d n (hsame ▸ hdn)
        · -- the meta is new, and no poll has been counted
          rw [hnow] at hdn
          cases hdn
          rw [hrs.noted hnone]
          rfl
      · rcases hsame with hsame | ⟨-, now, hnow⟩
        · exact hrs.noted (hsame ▸ hnone)
        · rw [hnow] at hnone
          cases hnone
  | starts now d n _ hout hnew hidle hrun hdue hle hsame =>
      rw [ended_eq_self hout, hnew]
      have hset := hsame.of_some hdue
      refine ⟨hrs.paced.begin ((hrs.rested hidle d n hdue).mono hle), fun s hs => ?_,
        fun hnot => absurd ((hrun now).mpr rfl) (hnot now), fun d' n' hdn => ?_, fun hnone => ?_⟩
      · obtain rfl := (hrun s).mp hs
        exact ⟨rs, rfl⟩
      · rw [hset] at hdn
        cases hdn
        exact (hrs.counted d n hdue).trans (congrArg _ (outcomes_begin now rs).symm)
      · rw [hset] at hnone
        cases hnone
  | ends o s d n hout hnew hrun hidle htimes hset =>
      obtain ⟨earlier, rfl⟩ := hrs.underway s hrun
      have hcounted := hrs.counted d n htimes
      rw [outcomes_begin] at hcounted
      rw [hout, hnew, List.append_nil, ended, if_pos rfl]
      refine ⟨hrs.paced.finish o, fun s' hs' => absurd hs' (hidle s'), fun _ d' n' hdn => ?_,
        fun d' n' hdn => ?_, fun hnone => ?_⟩
      · rw [hset] at hdn
        cases hdn
        intro r hr
        rw [finish_begin, List.getLast?_concat] at hr
        obtain rfl := Option.some.inj hr
        rw [outcomes_finish_begin, PowerOutcome.pause_concat, ← hcounted]
        exact ⟨rfl, le_rfl⟩
      · rw [hset] at hdn
        cases hdn
        rw [outcomes_finish_begin, PowerOutcome.failures_concat, ← hcounted]
      · rw [hset] at hnone
        cases hnone

/-- The logs tell what the poller knows. -/
structure Inv (s : PowerLog) : Prop where
  flights : s.poller.FlightsInv
  noted : s.poller.Noted
  tracks : ∀ u, Tracks s.poller u (s.rounds u)

lemma Inv.step {s s' : PowerLog} {a : Act} (hs : s.Inv) (h : s.step a = some s') : s'.Inv := by
  obtain ⟨p, hp, rfl⟩ := Option.map_eq_some_iff.mp h
  exact ⟨hs.flights.step hp, hs.noted.step hp, fun u =>
    (hs.tracks u).step (Poller.powerStep_of_step hs.flights.2 hs.noted hp u)⟩

lemma inv_of_reaches {file : FileText} {s : PowerLog}
    (h : Reaches PowerLog.step Always (PowerLog.init file) s) : s.Inv :=
  h.invariant ⟨⟨Flight.wellFormed_empty, Flight.wellFormed_empty⟩, Poller.noted_init file,
    tracks_init file⟩ fun _ _ _ hs _ hstep => hs.step hstep

end PowerLog

/-- **The pace of telemetry.** In every run, whatever its interleaving and its clock, the telemetry
polls of a device come one after the other, each after the pause that the outcomes before it
demand, and a window of time holds as many of them as the interval fits into it. -/
theorem telemetry_paced [Runtime] (file : FileText) (s : PowerLog)
    (h : Reaches PowerLog.step Always (PowerLog.init file) s) (u : String) :
    Paced PowerOutcome.pause (s.rounds u) ∧ ∀ t len, 0 ≤ len →
      ((s.rounds u).filter fun r => t ≤ r.startedAt ∧ r.startedAt ≤ t + len).length ≤
        len / telemetryIntervalMs + 1 := by
  have hpaced := ((PowerLog.inv_of_reaches h).tracks u).paced
  have hpos : 0 < telemetryIntervalMs := by
    have hge := telemetryIntervalMs_ge
    omega
  exact ⟨hpaced, fun t len hlen =>
    hpaced.length_window_le hpos PowerOutcome.interval_le_pause t hlen⟩

/-- A tick polls a plug that does not answer. -/
def silentPlug (now : ℤ) : List Act :=
  [.tick now, .tickSyncs now, .tickGoesOn now, .pollGoesOn 0 silence now 0,
    .pollGoesOn 0 silence now 0, .pollGoesOn 0 silence now 0, .pollReturns 0,
    .telemetryGoesOn 0 silence now, .telemetryGoesOn 0 silence now, .telemetryGoesOn 0 silence now,
    .telemetryReturns 0]

/-- After a failure the plug is asked again half a minute later. -/
theorem telemetry_paced_plug : let _ := plainRuntime; ∃ s,
    run PowerLog.step (silentPlug 6000 ++ [.tick 35999, .tickSyncs 35999, .tickGoesOn 35999,
      .tick 36000]) (PowerLog.init plugConfig) = some s ∧
    (s.rounds "u").map Attempt.startedAt = [6000, 36000] ∧
    Paced PowerOutcome.pause (s.rounds "u") := by
  let _ := plainRuntime
  have hrun : (run PowerLog.step (silentPlug 6000 ++ [.tick 35999, .tickSyncs 35999,
      .tickGoesOn 35999, .tick 36000]) (PowerLog.init plugConfig)).map
        (fun s => (s.rounds "u").map Attempt.startedAt) = some [6000, 36000] := by decide +kernel
  obtain ⟨s, hs, hstarts⟩ := Option.map_eq_some_iff.mp hrun
  exact ⟨s, hs, hstarts, (telemetry_paced plugConfig s (reaches_run _ (along_always _ _) hs) "u").1⟩

end Merossity
