import Merossity.Poller.Flights
import Merossity.Poller.Schedule

/-!
How long a device that is due is left out.

* `Waits` is the poller with its clock, and with the devices that ticks have polled while a device
  was due and was left out.
* `Behind` says that a device does not come before `D` any more, and `behind_step` that it stays so
  until it is boosted.
* `bounded_overtaking`: in every run, whatever the clock, no device is polled twice by ticks while
  another one is due and left out.
-/

namespace Merossity

open Js Machine

/-! ### The end of a poll -/

lemma failureBackoffMs_pos (n : ℕ) : 0 < failureBackoffMs (n + 1) := by
  have hmem : ∀ i : ℕ, i < 4 → 0 < FAILURE_BACKOFF_SEQUENCE_MS.getD i 0 := by decide
  rw [failureBackoffMs, if_neg (Nat.succ_ne_zero n)]
  exact hmem _ (Nat.lt_succ_of_le (min_le_left _ _))

namespace Outlook

lemma pace_pos (o : Outlook) (startedAt : ℤ) : 0 < (o.pace startedAt).1 := by
  rw [pace]
  split_ifs <;> decide

/-- The next poll comes due after the start of one that has ended. -/
lemma lt_earliest_afterRead (startedAt : ℤ) (changed : Bool) (o : Outlook) :
    startedAt < (afterRead startedAt changed o).earliest :=
  lt_add_of_pos_right _ (pace_pos _ _)

lemma lt_earliest_afterFailed (startedAt : ℤ) (o : Outlook) :
    startedAt < (afterFailed startedAt o).earliest :=
  lt_add_of_pos_right _ (failureBackoffMs_pos _)

end Outlook

/-- The boost is not after `D`. -/
def PollEvent.hastens (D : ℤ) : PollEvent → Bool
  | .boosted now => now ≤ D
  | _ => false

namespace Poller

/-! ### Times -/

section

variable {p p' : Poller} {a : Act} {u : String} {x D : ℤ}

lemma dueTime_eq (p : Poller) (u : String) :
    p.dueTime u = (planOf p.metaByUuid u).map PollPlan.dueAt := by
  rw [dueTime, planOf, Option.map_map]
  rfl

lemma dueAt_of_dueTime (h : p.dueTime u = some x) : p.dueAt u = x := by
  rw [dueAt, ← dueTime, h, Option.getD_some]

lemma has_of_dueTime (h : p.dueTime u = some x) : p.metaByUuid.has u = true := by
  obtain ⟨pm, hpm, -⟩ := get_of_dueTime h
  exact (OrdMap.has_iff _).mpr ⟨pm, hpm⟩

lemma exists_dueTime (h : p.metaByUuid.has u = true) : ∃ x, p.dueTime u = some x := by
  obtain ⟨pm, hpm⟩ := (OrdMap.has_iff _).mp h
  exact ⟨pm.nextDueAt, by rw [dueTime, hpm]; rfl⟩

/-- A device is due once its time has come. -/
lemma isDue_iff {now : ℤ} : p.isDue now u = true ↔ p.knownHosts.has u = true ∧
    p.inFlight.entries.has u = false ∧ ∃ x, p.dueTime u = some x ∧ x ≤ now := by
  rw [isDue, dueTime, Bool.and_eq_true, Bool.and_eq_true, Bool.not_eq_true', and_assoc]
  cases p.metaByUuid.get u <;> simp

/-- No poll of the device ends. -/
def NoEnd (p : Poller) (u : String) (a : Act) : Prop :=
  ∀ c, p.completion a = some c → c.uuid ≠ u

lemma noEnd_of_none (h : p.completion a = none) : p.NoEnd u a := fun c hc => by
  rw [h] at hc
  cases hc

/-- What a step settles of a device: at most one event, and the end of a poll if one ends. -/
inductive Settles (p : Poller) (u : String) (a : Act) : List PollEvent → Prop
  | nothing (hno : p.NoEnd u a) : Settles p u a []
  | noted (hno : p.NoEnd u a) (now : ℤ) : Settles p u a [.noted now]
  | boosted (hno : p.NoEnd u a) (now : ℤ) : Settles p u a [.boosted now]
  | ends (c : Completion) (hc : p.completion a = some c) (huuid : c.uuid = u) :
      Settles p u a [p.eventOf c]

lemma settles_notes (hno : p.NoEnd u a) (p' : Poller) (now : ℤ) :
    p.Settles u a (p.notes p' u now) := by
  rw [notes]
  split_ifs
  · exact .noted hno now
  · exact .nothing hno

lemma settles_pollEvents (p p' : Poller) (u : String) (a : Act) :
    p.Settles u a (p.pollEvents p' u a) := by
  cases a with
  | boostDevice uuid now =>
      rw [pollEvents]
      split_ifs
      · exact .boosted (noEnd_of_none rfl) now
      · exact .nothing (noEnd_of_none rfl)
  | pollNowStarts i now =>
      simp only [pollEvents]
      split
      · split_ifs
        · exact .boosted (noEnd_of_none rfl) now
        · exact settles_notes (noEnd_of_none rfl) p' now
      · exact .nothing (noEnd_of_none rfl)
  | recoveryGoesOn i reply now =>
      rw [pollEvents]
      split_ifs
      · exact .boosted (noEnd_of_none rfl) now
      · exact .nothing (noEnd_of_none rfl)
  | pollGoesOn t reply now random =>
      simp only [pollEvents]
      split
      next c hc =>
        split_ifs with huuid
        · exact .ends c hc huuid
        · refine .nothing fun c' hc' => ?_
          obtain rfl := Option.some.inj (hc.symm.trans hc')
          exact huuid
      next hnone => exact .nothing (noEnd_of_none hnone)
  | tick now => exact settles_notes (noEnd_of_none rfl) p' now
  | tickSyncs now => exact settles_notes (noEnd_of_none rfl) p' now
  | tickGoesOn now => exact settles_notes (noEnd_of_none rfl) p' now
  | pollNowSyncs i now => exact settles_notes (noEnd_of_none rfl) p' now
  | workerGoesOn i w now => exact settles_notes (noEnd_of_none rfl) p' now
  | _ => exact .nothing (noEnd_of_none rfl)

variable [Runtime]

/-- The time of a device after a step is one that the events of the step let expect. -/
lemma dueTime_step (hp : p.Noted) (hr : p.RecoveriesNoted) (h : p.step a = some p')
    (hx : p.dueTime u = some x) : ∃ o o' y, o.earliest = x ∧ o.latest = x ∧
      (p.pollEvents p' u a).foldl Outlook.after (some o) = some o' ∧
        p'.dueTime u = some y ∧ y ∈ Set.Icc o'.earliest o'.latest := by
  obtain ⟨pm, hpm, rfl⟩ := get_of_dueTime hx
  have hplan : planOf p.metaByUuid u = some pm.plan := by rw [planOf, hpm]; rfl
  let o : Outlook :=
    ⟨pm.nextDueAt, pm.nextDueAt, pm.failureCount, pm.boostUntilAt, pm.lastChangeAt⟩
  have hknown : Expected (some o) (planOf p.metaByUuid u) :=
    hplan ▸ .known ⟨le_rfl, le_rfl⟩ rfl rfl rfl
  have hexpected := expected_step hp hr h hknown
  obtain ⟨o', ho'⟩ := Option.isSome_iff_exists.mp
    (Outlook.isSome_foldl_after (p.pollEvents p' u a) o)
  rw [ho'] at hexpected
  generalize hplan' : planOf p'.metaByUuid u = plan' at hexpected
  cases hexpected with
  | @known _ plan hdue =>
      exact ⟨o, o', plan.dueAt, rfl, rfl, ho', by rw [dueTime_eq, hplan']; rfl, hdue⟩

/-- Without an event the time stays. -/
lemma dueTime_of_quiet (hp : p.Noted) (hr : p.RecoveriesNoted) (h : p.step a = some p')
    (hquiet : p.pollEvents p' u a = []) : p'.dueTime u = p.dueTime u := by
  cases hx : p.dueTime u with
  | none =>
      have hplan : planOf p.metaByUuid u = none := by
        rwa [dueTime_eq, Option.map_eq_none_iff] at hx
      have hexpected := expected_step hp hr h (hplan ▸ Expected.unknown)
      rw [hquiet] at hexpected
      rw [dueTime_eq, Option.map_eq_none_iff]
      generalize planOf p'.metaByUuid u = plan at hexpected
      cases hexpected
      rfl
  | some x =>
      obtain ⟨o, o', y, hearliest, hlatest, ho', hy, hle, hge⟩ := dueTime_step hp hr h hx
      rw [hquiet] at ho'
      obtain rfl := Option.some.inj ho'
      rw [hy, le_antisymm (hge.trans_eq hlatest) (hearliest.symm.trans_le hle)]

/-- A device that is not due until after `D` stays so, unless it is boosted no later than `D`, and
one of which a poll ends that was started at `D` or later becomes so. -/
lemma lt_dueTime_step (hp : p.Noted) (hr : p.RecoveriesNoted) (h : p.step a = some p')
    (hx : p.dueTime u = some x) (hwaits : p.NoEnd u a → D < x)
    (hends : ∀ c, p.completion a = some c → c.uuid = u → D ≤ c.startedAt)
    (hhastens : (p.pollEvents p' u a).any (PollEvent.hastens D) = false) :
    ∃ y, p'.dueTime u = some y ∧ D < y := by
  obtain ⟨o, o', y, rfl, -, ho', hy, hle, -⟩ := dueTime_step hp hr h hx
  refine ⟨y, hy, lt_of_lt_of_le ?_ hle⟩
  have hsettles := p.settles_pollEvents p' u a
  generalize p.pollEvents p' u a = es at hsettles ho' hhastens
  cases hsettles with
  | nothing hno =>
      obtain rfl := Option.some.inj ho'
      exact hwaits hno
  | noted hno now =>
      obtain rfl := Option.some.inj ho'
      exact hwaits hno
  | boosted hno now =>
      obtain rfl := Option.some.inj ho'
      simpa [PollEvent.hastens] using hhastens
  | ends c hc huuid =>
      refine (hends c hc huuid).trans_lt ?_
      rw [eventOf] at ho'
      split at ho'
      · obtain rfl := Option.some.inj ho'
        exact Outlook.lt_earliest_afterRead _ _ o
      · obtain rfl := Option.some.inj ho'
        exact Outlook.lt_earliest_afterFailed _ o

end

/-! ### Devices that have passed -/

/-- The device does not come before `D` any more: its polls under way were started at `D` or later,
and one of them is, or its time comes after `D`. -/
structure Behind (p : Poller) (D : ℤ) (v : String) : Prop where
  started : ∀ t task, p.inFlight.running t = some (v, task) → D ≤ task.startedAt
  waits : (∃ t task, p.inFlight.running t = some (v, task)) ∨ ∃ x, p.dueTime v = some x ∧ D < x

section

variable [Runtime] {p p' : Poller} {a : Act} {u v : String} {D now : ℤ}

lemma Behind.step (hp : p.Noted) (hr : p.RecoveriesNoted) (h : p.step a = some p')
    (hbehind : p.Behind D v) (hnow : ∀ now, a.now = some now → D ≤ now)
    (hhastens : (p.pollEvents p' v a).any (PollEvent.hastens D) = false) : p'.Behind D v := by
  have hflight := flightStep_of_step h
  have hends : ∀ c, p.completion a = some c → c.uuid = v → D ≤ c.startedAt := by
    rintro c hc rfl
    obtain ⟨reply, random, task, -, ht, -, -, hstart⟩ := completion_eq_some hc
    exact hstart ▸ hbehind.started c.task task ht
  -- the time of the device is after `D` unless a poll of it is under way
  have hwaits : ∀ x, p.dueTime v = some x → (p.NoEnd v a → D < x) →
      ∃ y, p'.dueTime v = some y ∧ D < y := fun x hx hlt =>
    lt_dueTime_step hp hr h hx hlt hends hhastens
  refine ⟨fun t task ht => ?_, ?_⟩
  · rcases hflight.running_back ht with ⟨task', ht', hstart⟩ | hstart
    · exact hstart ▸ hbehind.started t task' ht'
    · exact hnow _ hstart
  · rcases hbehind.waits with ⟨t, task, ht⟩ | ⟨x, hx, hlt⟩
    · rcases hflight.running_forth ht with ⟨task', ht'⟩ | ⟨c, hc, huuid⟩
      · exact .inl ⟨t, task', ht'⟩
      · obtain ⟨x, hx⟩ := exists_dueTime (hp.state t v task ht)
        exact .inr (hwaits x hx fun hno => absurd huuid (hno c hc))
    · exact .inr (hwaits x hx fun _ => hlt)

/-- A poll that a tick starts is under way afterwards. -/
lemma exists_running_of_started (hv : v ∈ p.startedPolls (p.tickBody now)) :
    ∃ t task, (p.tickBody now).inFlight.running t = some (v, task) := by
  obtain ⟨⟨key, status⟩, hmem, rfl⟩ := List.mem_map.mp hv
  obtain ⟨i, hi⟩ := List.mem_iff_getElem?.mp hmem
  rw [List.getElem?_drop] at hi
  obtain ⟨task, rfl, -⟩ := (enters_tickBody p now).fresh hi (Nat.le_add_right _ _)
  exact ⟨_, task, Flight.running_eq_some.mpr hi⟩

/-- A device that a tick polls is behind. -/
lemma behind_of_started (hflights : p.FlightsInv) (hv : v ∈ p.startedPolls (p.tickBody now))
    (hdue : p.isDue now v = true) (hle : D ≤ now) : (p.tickBody now).Behind D v := by
  refine ⟨fun t task ht => ?_, .inl (exists_running_of_started hv)⟩
  rcases (enters_tickBody p now).running ht with hold | hstart
  · have hreg := hflights.1.registered t v task hold
    have hfree := (has_of_isDue hdue).2.1
    rw [OrdMap.has, hreg] at hfree
    cases hfree
  · exact hle.trans_eq hstart.symm

omit [Runtime] in
/-- A tick polls the first of the devices that are due. -/
lemma prefix_taken (p : Poller) (now : ℤ) :
    taken p.pollRoom (p.sortByTime PollMeta.nextDueAt (p.due now)) <+:
      p.sortByTime PollMeta.nextDueAt (p.due now) := by
  rw [taken_eq]
  exact (List.takeWhile_prefix _).trans (List.take_prefix _ _)

/-- A device that is due and left out is not earlier than those that a tick polls. -/
lemma dueAt_le_of_started (hv : v ∈ p.startedPolls (p.tickBody now)) (hu : p.isDue now u = true)
    (hleft : u ∉ p.startedPolls (p.tickBody now)) : p.dueAt v ≤ p.dueAt u := by
  have hsorted := p.stableSort_due now
  rw [startedPolls_tickBody, List.prefix_iff_eq_take.mp (prefix_taken p now)] at hv hleft
  exact hsorted.rel_of_taken hv (mem_due_iff.mpr hu) hleft

/-- The devices that a tick polls. -/
def ticked (p p' : Poller) : Act → List String
  | .tick _ => p.startedPolls p'
  | .tickGoesOn _ => p.startedPolls p'
  | _ => []

lemma ticked_cases (h : p.step a = some p') : p.ticked p' a = [] ∨ ∃ now, a.now = some now ∧
    p' = p.tickBody now ∧ p.ticked p' a = p.startedPolls (p.tickBody now) := by
  have hnone : ∀ tick, p.startedPolls { p with tick } = [] := fun tick => by
    rw [startedPolls, List.drop_length, List.map_nil]
  cases stretch_of_step h with
  | tickIsBusy now => exact .inl (hnone p.tick)
  | tickAwaits now => exact .inl (hnone _)
  | tick now => exact .inr ⟨now, rfl, rfl, rfl⟩
  | tickGoesOn now => exact .inr ⟨now, rfl, rfl, rfl⟩
  | _ => exact .inl rfl

/-- What ticks have polled while a device is due: others, none of them twice, and each of them comes
after the device from then on. -/
structure Passed (p : Poller) (clock : ℤ) (u : String) (vs : List String) : Prop where
  nodup : vs.Nodup
  due : vs ≠ [] → p.isDue clock u = true
  other : ∀ v ∈ vs, v ≠ u ∧ p.metaByUuid.has v = true ∧ p.Behind (p.dueAt u) v

omit [Runtime] in
lemma passed_nil (p : Poller) (clock : ℤ) (u : String) : p.Passed clock u [] :=
  ⟨List.nodup_nil, fun h => absurd rfl h, fun _ hv => by cases hv⟩

/-- Those that have been passed by ticks while `u` is due, after a step. A device that is boosted no
later than `u` came due may pass it once more. -/
def passedAfter (p p' : Poller) (a : Act) (clock : ℤ) (u : String) (vs : List String) :
    List String :=
  if p'.isDue clock u && (p.pollEvents p' u a).isEmpty then
    vs.filter (fun v => !(p.pollEvents p' v a).any (PollEvent.hastens (p.dueAt u)))
      ++ p.ticked p' a
  else []

/-- A tick polls devices that were due, and before `u` if it leaves `u` out. -/
lemma passed_ticked (hp : p.Noted) (hr : p.RecoveriesNoted) (hflights : p.FlightsInv)
    (h : p.step a = some p') {clock : ℤ} (hdue' : p'.isDue (a.now.getD clock) u = true)
    (hx : p.dueTime u = some D) (hle : D ≤ a.now.getD clock) :
    p'.Passed (a.now.getD clock) u (p.ticked p' a) ∧ ∀ v ∈ p.ticked p' a,
      p.inFlight.entries.has v = false ∧ p.dueAt v ≤ D := by
  rcases ticked_cases h with hnil | ⟨now, hnow, rfl, hticked⟩
  · rw [hnil]
    exact ⟨passed_nil _ _ _, fun _ hv => by cases hv⟩
  rw [hnow, Option.getD_some] at hdue' hle
  rw [hnow, Option.getD_some, hticked]
  have hx' : (p.tickBody now).dueAt u = D := dueAt_of_dueTime (dueTime_tickBody hx now)
  obtain ⟨hknown, hfree', -⟩ := isDue_iff.mp hdue'
  have hfree : p.inFlight.entries.has u = false := by
    rw [← Bool.not_eq_true]
    intro hhas
    obtain ⟨t, ht⟩ := (OrdMap.has_iff _).mp hhas
    rw [(OrdMap.has_iff _).mpr ⟨t, (enters_tickBody p now).get ht⟩] at hfree'
    cases hfree'
  have hdue : p.isDue now u = true := by
    obtain ⟨q, ⟨f, tf, metas, -, -, rfl⟩, heq⟩ := tickBody_eq p now
    rw [heq] at hknown
    exact isDue_iff.mpr ⟨hknown, hfree, D, hx, hle⟩
  -- its poll would be registered
  have hleft : u ∉ p.startedPolls (p.tickBody now) := by
    intro hu
    obtain ⟨t, task, ht⟩ := exists_running_of_started hu
    rw [(OrdMap.has_iff _).mpr ⟨t, (hflights.step h).1.registered t u task ht⟩] at hfree'
    cases hfree'
  have hstarted : ∀ v ∈ p.startedPolls (p.tickBody now), p.isDue now v = true := by
    intro v hv
    rw [startedPolls_tickBody] at hv
    exact mem_due_iff.mp ((p.stableSort_due now).mem_iff.mp (subset_taken _ _ hv))
  refine ⟨⟨?_, fun _ => hdue', fun v hv => ⟨?_, ?_, ?_⟩⟩, fun v hv => ⟨?_, ?_⟩⟩
  · rw [startedPolls_tickBody]
    exact ((p.stableSort_due now).perm.nodup_iff.mpr (p.nodup_due now)).sublist
      (prefix_taken p now).sublist
  · rintro rfl
    exact hleft hv
  · exact has_step hp hr h (has_of_isDue (hstarted v hv)).2.2
  · rw [hx']
    exact behind_of_started hflights hv (hstarted v hv) hle
  · exact (has_of_isDue (hstarted v hv)).2.1
  · rw [← dueAt_of_dueTime hx]
    exact dueAt_le_of_started hv hdue hleft

/-- A step keeps what has been passed. -/
lemma Passed.step {clock : ℤ} {vs : List String} (hp : p.Noted) (hr : p.RecoveriesNoted)
    (hflights : p.FlightsInv) (h : p.step a = some p') (hvs : p.Passed clock u vs) :
    p'.Passed (a.now.getD clock) u (p.passedAfter p' a (a.now.getD clock) u vs) := by
  rw [passedAfter]
  split_ifs with hwaits
  · rw [Bool.and_eq_true, List.isEmpty_iff] at hwaits
    obtain ⟨hdue', hquiet⟩ := hwaits
    obtain ⟨-, -, D, hD', hle⟩ := isDue_iff.mp hdue'
    have hD : p.dueTime u = some D := (dueTime_of_quiet hp hr h hquiet).symm.trans hD'
    have hat : p.dueAt u = D := dueAt_of_dueTime hD
    have hat' : p'.dueAt u = D := dueAt_of_dueTime hD'
    obtain ⟨hnew, hearlier⟩ := passed_ticked hp hr hflights h hdue' hD hle
    refine ⟨List.nodup_append.mpr ⟨hvs.nodup.filter _, hnew.nodup, ?_⟩, fun _ => hdue', ?_⟩
    · -- those that have been passed come later than `u`, and a tick takes the earliest
      rintro v hold w hw rfl
      obtain ⟨-, -, hbehind⟩ := hvs.other v (List.mem_filter.mp hold).1
      obtain ⟨hfree, hbefore⟩ := hearlier v hw
      rcases hbehind.waits with ⟨t, task, ht⟩ | ⟨x, hx, hlt⟩
      · rw [(OrdMap.has_iff _).mpr ⟨t, hflights.1.registered t v task ht⟩] at hfree
        cases hfree
      · rw [dueAt_of_dueTime hx] at hbefore
        omega
    · intro v hv
      rcases List.mem_append.mp hv with hv | hv
      · obtain ⟨hmem, hhastens⟩ := List.mem_filter.mp hv
        obtain ⟨hne, hhas, hbehind⟩ := hvs.other v hmem
        rw [Bool.not_eq_true'] at hhastens
        refine ⟨hne, has_step hp hr h hhas, ?_⟩
        rw [hat] at hbehind hhastens
        rw [hat']
        refine hbehind.step hp hr h (fun now hnow => ?_) hhastens
        rwa [hnow, Option.getD_some] at hle
      · exact hnew.other v hv
  · exact passed_nil _ _ _

end

end Poller

/-! ### Runs -/

/-- The poller with its clock, and with the devices that ticks have polled while a device was due
and was left out. -/
structure Waits where
  poller : Poller
  clock : ℤ
  passed : String → List String

namespace Waits

open Poller

def init (file : FileText) (clock : ℤ) : Waits := ⟨.init file, clock, fun _ => []⟩

variable [Runtime]

def step (s : Waits) (a : Act) : Option Waits :=
  (s.poller.step a).map fun p => ⟨p, a.now.getD s.clock, fun u =>
    s.poller.passedAfter p a (a.now.getD s.clock) u (s.passed u)⟩

structure Inv (s : Waits) : Prop where
  noted : s.poller.Noted
  recoveries : s.poller.RecoveriesNoted
  flights : s.poller.FlightsInv
  passed : ∀ u, s.poller.Passed s.clock u (s.passed u)

omit [Runtime] in
lemma inv_init (file : FileText) (clock : ℤ) : (init file clock).Inv where
  noted := noted_init file
  recoveries r hr := by cases hr
  flights := ⟨Flight.wellFormed_empty, Flight.wellFormed_empty⟩
  passed u := passed_nil _ _ u

lemma Inv.step {s s' : Waits} {a : Act} (hs : s.Inv) (h : s.step a = some s') : s'.Inv := by
  obtain ⟨p', hp', rfl⟩ := Option.map_eq_some_iff.mp h
  exact ⟨hs.noted.step hp', hs.recoveries.step hs.noted hp', hs.flights.step hp', fun u =>
    (hs.passed u).step hs.noted hs.recoveries hs.flights hp'⟩

end Waits

/-- **No device is passed twice**: in every run, whatever the clock, while a device is due and left
out, ticks poll every other device at most once. -/
theorem bounded_overtaking [Runtime] (file : FileText) (clock : ℤ) (s : Waits)
    (h : Reaches Waits.step Always (.init file clock) s) (u : String) :
    (s.passed u).Nodup ∧ u ∉ s.passed u ∧ (s.passed u).length ≤ s.poller.metaByUuid.size - 1 := by
  have hinv : s.Inv := h.invariant (Waits.inv_init file clock) fun _ _ _ hs _ hstep =>
    hs.step hstep
  have hpassed := hinv.passed u
  have hself : u ∉ s.passed u := fun hu => (hpassed.other u hu).1 rfl
  refine ⟨hpassed.nodup, hself, ?_⟩
  cases hvs : s.passed u with
  | nil => exact Nat.zero_le _
  | cons v vs =>
      have hdue : s.poller.isDue s.clock u = true := hpassed.due (by rw [hvs]; exact nofun)
      have hsubset : u :: s.passed u ⊆ s.poller.metaByUuid.keys := by
        refine List.cons_subset.mpr ⟨?_, fun w hw => ?_⟩
        · exact (OrdMap.mem_keys_iff _).mpr (Poller.has_of_isDue hdue).2.2
        · exact (OrdMap.mem_keys_iff _).mpr (hpassed.other w hw).2.1
      have hlength := ((List.nodup_cons.mpr ⟨hself, hpassed.nodup⟩).subperm hsubset).length_le
      rw [OrdMap.keys, List.length_map, ← OrdMap.size, List.length_cons, hvs] at hlength
      exact Nat.le_sub_one_of_lt hlength

/-- A configuration with seven hosts. -/
def sevenHosts : FileText :=
  .json (.obj [("hosts", .obj (["a", "b", "c", "d", "e", "f", "g"].map fun u =>
    (u, .obj [("host", .str "10.0.0.9")])))])

/-- A tick polls six devices of seven. -/
theorem bounded_overtaking_seven : let _ := plainRuntime; ∃ s,
    run Waits.step [.tick 6000, .tickSyncs 6000, .tickGoesOn 6000] (.init sevenHosts 0) = some s ∧
      s.passed "g" = ["a", "b", "c", "d", "e", "f"] ∧ (s.passed "g").Nodup := by
  let _ := plainRuntime
  have hrun : (run Waits.step [.tick 6000, .tickSyncs 6000, .tickGoesOn 6000]
      (.init sevenHosts 0)).map (fun s => s.passed "g") = some ["a", "b", "c", "d", "e", "f"] := by
    decide +kernel
  obtain ⟨s, hs, hpassed⟩ := Option.map_eq_some_iff.mp hrun
  have hreach := reaches_run _ (along_always _ _) hs
  exact ⟨s, hs, hpassed, (bounded_overtaking sevenHosts 0 s hreach "g").1⟩

end Merossity
