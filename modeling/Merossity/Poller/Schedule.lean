import Merossity.Js.Rounding
import Merossity.Poller.Boosts
import Merossity.Poller.Recovery
import Merossity.Poller.Selection

/-!
When a device is polled next.

* `PollEvent` is what settles it, and `Outlook.after` tells from the events so far between which
  times the next poll of the device comes due. It knows nothing of the poller.
* `nextIntervalMs_mem`: the jitter of an interval, which is computed in doubles, stays within the
  bounds of `pace`.
* `EventLog` is the poller with a log of the events of every device. `polls_on_schedule`: in every
  run, whatever the clock, a tick polls a device no earlier than the log allows, and a device that is
  known and not being polled is due at the latest time that the log tells.
-/

namespace Merossity

open Js Machine

/-! ### Events of a device -/

/-- What settles when a device is polled next: a meta of it is made, it is boosted, or a poll of it
ends. -/
inductive PollEvent where
  | noted (now : ℤ)
  | boosted (now : ℤ)
  | read (startedAt : ℤ) (changed : Bool)
  | failed (startedAt : ℤ)
  deriving DecidableEq

/-- The outlook on the next poll: between which times it comes due, how many polls have failed in a
row, until when the device is boosted, and when it was last found changed. -/
structure Outlook where
  earliest : ℤ
  latest : ℤ
  failures : ℕ
  boostUntil : Option ℤ
  changedAt : Option ℤ
  deriving DecidableEq

namespace Outlook

/-- A device that is due at once. -/
def fresh (now : ℤ) : Outlook := ⟨now, now, 0, none, none⟩

/-- The interval after a successful poll, up to its jitter. -/
def pace (o : Outlook) (startedAt : ℤ) : ℤ × ℤ :=
  if isAhead o.boostUntil startedAt then (7200, 8800)
  else if isWithin o.changedAt startedAt HOT_WINDOW_MS then (10200, 13800)
  else (38250, 51750)

/-- A poll that was started at `startedAt` ends. -/
def afterRead (startedAt : ℤ) (changed : Bool) (o : Outlook) : Outlook :=
  let o := { o with
    failures := 0
    changedAt := if changed then some startedAt else o.changedAt }
  { o with
    earliest := startedAt + (o.pace startedAt).1
    latest := startedAt + (o.pace startedAt).2 }

def afterFailed (startedAt : ℤ) (o : Outlook) : Outlook :=
  let next := startedAt + failureBackoffMs (o.failures + 1)
  { o with earliest := next, latest := next, failures := o.failures + 1 }

def after (o : Option Outlook) : PollEvent → Option Outlook
  | .noted now => o.or (some (fresh now))
  | .boosted now => some
      { o.getD (fresh now) with
        earliest := now, latest := now, boostUntil := some (now + BOOST_WINDOW_MS) }
  | .read startedAt changed => o.map (afterRead startedAt changed)
  | .failed startedAt => o.map (afterFailed startedAt)

/-- The outlook after these events, if there are any. -/
def ofEvents (es : List PollEvent) : Option Outlook := es.foldl after none

lemma isSome_foldl_after (es : List PollEvent) :
    ∀ o : Outlook, (es.foldl after (some o)).isSome = true := by
  induction es with
  | nil => exact fun _ => rfl
  | cons e es ih =>
      intro o
      rw [List.foldl_cons]
      cases e with
      | noted now => exact ih _
      | boosted now => exact ih _
      | read startedAt changed => exact ih _
      | failed startedAt => exact ih _

end Outlook

/-! ### Intervals -/

/-- The jitter keeps an interval within a fraction of it. The numbers are doubles. -/
lemma withJitterMs_mem {base : ℤ} (delta : ℤ) {percent : ℚ} (random : ℚ)
    (hdelta : Number.rounded (base * max 0 (min percent 1)) = delta) (hnonneg : 0 ≤ delta)
    (hlow : 1000 ≤ base - delta) (hhigh : base + delta < 2 ^ 53) :
    withJitterMs base percent random ∈ Set.Icc (base - delta) (base + delta) := by
  have hpos : (0 : ℚ) ≤ delta := by exact_mod_cast hnonneg
  have hunit : Number.rounded (max 0 (min random 1) * 2 - 1) ∈ Set.Icc ((-1 : ℤ) : ℚ) (1 : ℤ) := by
    have hmin : (0 : ℚ) ≤ max 0 (min random 1) := le_max_left _ _
    have hmax : max 0 (min random 1) ≤ (1 : ℚ) := max_le zero_le_one (min_le_right _ _)
    refine Number.rounded_mem_Icc ⟨?_, ?_⟩ (by norm_num) (by norm_num)
    · push_cast
      linarith
    · push_cast
      linarith
  push_cast at hunit
  have hcentered : Number.rounded (Number.rounded (max 0 (min random 1) * 2 - 1) * delta) ∈
      Set.Icc ((-delta : ℤ) : ℚ) (delta : ℤ) := by
    refine Number.rounded_mem_Icc ⟨?_, ?_⟩ (by omega) (by omega)
    · push_cast
      nlinarith [hunit.1]
    · nlinarith [hunit.2]
  push_cast at hcentered
  have hsum : Number.rounded
      (base + Number.rounded (Number.rounded (max 0 (min random 1) * 2 - 1) * delta)) ∈
        Set.Icc ((base - delta : ℤ) : ℚ) (base + delta : ℤ) := by
    refine Number.rounded_mem_Icc ⟨?_, ?_⟩ (by omega) (by omega)
    · push_cast
      linarith [hcentered.1]
    · push_cast
      linarith [hcentered.2]
  obtain ⟨hlo, hhi⟩ := Number.round_mem_Icc hsum
  rw [withJitterMs, hdelta]
  exact ⟨le_max_of_le_right hlo, max_le (by omega) hhi⟩

/-- The interval after a successful poll. -/
lemma nextIntervalMs_mem {pm : PollMeta} {o : Outlook} (startedAt : ℤ) (random : ℚ)
    (hfailures : pm.failureCount = 0) (hboost : pm.boostUntilAt = o.boostUntil)
    (hchange : pm.lastChangeAt = o.changedAt) :
    nextIntervalMs pm startedAt random ∈
      Set.Icc (o.pace startedAt).1 (o.pace startedAt).2 := by
  rw [nextIntervalMs, if_neg (by omega), Outlook.pace, hboost, hchange]
  split_ifs
  · exact withJitterMs_mem 800 random (by decide +kernel) (by omega) (by decide)
      (by decide)
  · exact withJitterMs_mem 1800 random (by decide +kernel) (by omega) (by decide)
      (by decide)
  · exact withJitterMs_mem 6750 random (by decide +kernel) (by omega) (by decide)
      (by decide)

/-! ### What is kept of a device -/

/-- What is kept of a device to decide on its next state poll. -/
structure PollPlan where
  dueAt : ℤ
  failures : ℕ
  boostUntil : Option ℤ
  changedAt : Option ℤ

def PollMeta.plan (pm : PollMeta) : PollPlan where
  dueAt := pm.nextDueAt
  failures := pm.failureCount
  boostUntil := pm.boostUntilAt
  changedAt := pm.lastChangeAt

def planOf (metas : OrdMap String PollMeta) (u : String) : Option PollPlan :=
  (metas.get u).map PollMeta.plan

/-- The plan of a device with a new meta. -/
def PollPlan.fresh (now : ℤ) : PollPlan := ⟨now, 0, none, none⟩

/-- A boost, and the end of a recovery that has found the host. -/
def PollPlan.boost (now : ℤ) (plan : PollPlan) : PollPlan :=
  { plan with dueAt := now, boostUntil := some (now + BOOST_WINDOW_MS) }

/-- The plan is what the events let expect. -/
inductive Expected : Option Outlook → Option PollPlan → Prop
  | unknown : Expected none none
  | known {o : Outlook} {plan : PollPlan} (hdue : plan.dueAt ∈ Set.Icc o.earliest o.latest)
      (hfailures : plan.failures = o.failures) (hboost : plan.boostUntil = o.boostUntil)
      (hchanged : plan.changedAt = o.changedAt) : Expected (some o) (some plan)

/-- A stretch at `now` that does not boost the device leaves its plan alone, or makes one. -/
def PlanKept (u : String) (now : ℤ) (metas metas' : OrdMap String PollMeta) : Prop :=
  planOf metas' u = planOf metas u ∨
    planOf metas u = none ∧ planOf metas' u = some (.fresh now)

section

variable {u : String} {now : ℤ} {metas metas' metas'' : OrdMap String PollMeta}

lemma planOf_eq_none_iff : planOf metas u = none ↔ metas.has u = false := by
  rw [planOf, OrdMap.has]
  cases metas.get u <;> simp

lemma PlanKept.refl (u : String) (now : ℤ) (metas : OrdMap String PollMeta) :
    PlanKept u now metas metas := .inl rfl

lemma PlanKept.trans (h : PlanKept u now metas metas') (h' : PlanKept u now metas' metas'') :
    PlanKept u now metas metas'' := by
  rcases h' with h' | ⟨hnone, hfresh⟩
  · rwa [PlanKept, h']
  · rcases h with h | ⟨-, hfresh'⟩
    · exact .inr ⟨h ▸ hnone, hfresh⟩
    · rw [hfresh'] at hnone
      cases hnone

lemma planKept_ensureMeta (u : String) (now : ℤ) (metas : OrdMap String PollMeta) (uuid : String) :
    PlanKept u now metas (ensureMeta metas uuid now) := by
  rw [PlanKept, planOf, planOf, get_ensureMeta]
  by_cases huuid : uuid = u
  · cases hget : metas.get u with
    | some pm => simp [huuid]
    | none => exact .inr ⟨rfl, by rw [if_pos huuid]; rfl⟩
  · simp [huuid]

lemma planOf_modifyMeta (u : String) (metas : OrdMap String PollMeta) (uuid : String)
    (f : PollMeta → PollMeta) : planOf (modifyMeta metas uuid f) u =
      if uuid = u then (metas.get u).map fun pm => (f pm).plan else planOf metas u := by
  rw [planOf, get_modifyMeta]
  split_ifs
  · rw [Option.map_map]
    rfl
  · rfl

/-- A change of other fields. -/
lemma planOf_modifyMeta_of_eq (u : String) (metas : OrdMap String PollMeta) (uuid : String)
    {f : PollMeta → PollMeta} (hf : ∀ pm, (f pm).plan = pm.plan) :
    planOf (modifyMeta metas uuid f) u = planOf metas u := by
  rw [planOf_modifyMeta]
  simp [hf, planOf]

lemma planOf_boostMeta (u : String) (metas : OrdMap String PollMeta) (uuid : String) (now : ℤ) :
    planOf (boostMeta metas uuid now) u = if uuid = u ∧ u ≠ "" then
      some (((planOf metas u).getD (.fresh now)).boost now) else planOf metas u := by
  rw [boostMeta]
  by_cases huuid : uuid = u
  · subst huuid
    by_cases hempty : uuid = ""
    · simp [hempty]
    · rw [if_neg hempty, if_pos ⟨rfl, hempty⟩, planOf_modifyMeta, if_pos rfl, get_ensureMeta,
        if_pos rfl, planOf]
      cases metas.get uuid <;> rfl
  · rw [if_neg fun h : uuid = u ∧ u ≠ "" => huuid h.1]
    split
    · rfl
    · rw [planOf_modifyMeta, if_neg huuid, planOf, get_ensureMeta, if_neg huuid, planOf]

/-- Two boosts at the same time are one. -/
lemma planOf_foldl_boostMeta (u : String) (now : ℤ) (uuids : List String) :
    ∀ metas : OrdMap String PollMeta,
      planOf (uuids.foldl (fun m uuid => boostMeta m uuid now) metas) u =
        if u ∈ uuids ∧ u ≠ "" then some (((planOf metas u).getD (.fresh now)).boost now)
        else planOf metas u := by
  induction uuids with
  | nil => exact fun metas => by simp
  | cons uuid uuids ih =>
      intro metas
      rw [List.foldl_cons, ih, planOf_boostMeta]
      by_cases hempty : u = ""
      · simp [hempty]
      · by_cases huuid : uuid = u
        · simp [huuid, hempty, PollPlan.boost]
        · simp [huuid, Ne.symm huuid, hempty]

/-- New hosts get metas. -/
lemma planKept_foldl_ensureMeta {α : Type} (u : String) (now : ℤ) (hosts : List (String × α)) :
    ∀ metas, PlanKept u now metas (hosts.foldl (fun m e => ensureMeta m e.1 now) metas) := by
  induction hosts with
  | nil => exact fun metas => .refl u now metas
  | cons e hosts ih =>
      exact fun metas => (planKept_ensureMeta u now metas e.1).trans (ih _)

end

namespace Poller

section

variable [Runtime] {u : String}

lemma planKept_pollDevice (p : Poller) (uuid : String) (reason : PollReason)
    (timeoutMs : Option Number) (now : ℤ) :
    PlanKept u now p.metaByUuid (p.pollDevice uuid reason timeoutMs now).metaByUuid := by
  rw [pollDevice]
  dsimp only
  split
  · exact .refl u now _
  · exact planKept_ensureMeta u now _ uuid

lemma planKept_startPolls (now : ℤ) : ∀ (uuids : List String) (p : Poller),
    PlanKept u now p.metaByUuid (startPolls now uuids p).metaByUuid
  | [], p => .refl u now _
  | uuid :: rest, p => by
      rw [startPolls]
      split_ifs
      · exact .refl u now _
      · exact (planKept_pollDevice p uuid .poller none now).trans (planKept_startPolls now rest _)
      · exact .refl u now _

lemma planKept_startTelemetry (now : ℤ) : ∀ (uuids : List String) (p : Poller),
    PlanKept u now p.metaByUuid (startTelemetry now uuids p).metaByUuid
  | [], p => .refl u now _
  | uuid :: rest, p => by
      rw [startTelemetry]
      split_ifs
      · exact .refl u now _
      · refine PlanKept.trans ?_ (planKept_startTelemetry now rest _)
        rw [pollTelemetry]
        dsimp only
        split
        · exact .refl u now _
        · exact planKept_ensureMeta u now _ uuid
      · exact .refl u now _

lemma planKept_tickBody (p : Poller) (now : ℤ) :
    PlanKept u now p.metaByUuid (p.tickBody now).metaByUuid :=
  (planKept_startPolls now _ p).trans (planKept_startTelemetry now _ _)

lemma planKept_takeNext (p : Poller) (options : PollOptions) (now : ℤ) (queue : List String) :
    PlanKept u now p.metaByUuid (p.takeNext options now queue).1.metaByUuid := by
  cases queue with
  | nil => exact .refl u now _
  | cons uuid rest =>
      rw [takeNext]
      split_ifs
      · exact .refl u now _
      · exact planKept_pollDevice p uuid _ _ now

lemma planKept_startWorkers (options : PollOptions) (now : ℤ) : ∀ (n : ℕ) (p : Poller)
    (queue : List String),
      PlanKept u now p.metaByUuid (startWorkers options now n p queue).1.metaByUuid
  | 0, _, _ => .refl u now _
  | n + 1, p, queue => (planKept_takeNext p options now queue).trans
      (planKept_startWorkers options now n _ _)

end

/-! ### Events of a step -/

/-- The recovery of the device ends with its host. -/
def findsHost (p : Poller) (u : String) (i : ℕ) (reply : (c : Call) → Reply c) : Bool :=
  match p.recoveries[i]? with
  | some r => r.uuid = u && match p.resume reply r.prog with
      | some (.ret (.ok (some _))) => true
      | _ => false
  | none => false

/-- What the end of a poll settles. -/
def eventOf (p : Poller) (c : Completion) : PollEvent :=
  match c.outcome with
  | .ok _ => .read c.startedAt
      (hasMaterialStateChange (p.stateByUuid.get c.uuid) (p.nextState c))
  | .error _ => .failed c.startedAt

/-- A meta is made. -/
def notes (p p' : Poller) (u : String) (now : ℤ) : List PollEvent :=
  if !p.metaByUuid.has u && p'.metaByUuid.has u then [.noted now] else []

/-- What a step settles of a device. -/
def pollEvents (p p' : Poller) (u : String) : Act → List PollEvent
  | .boostDevice uuid now => if uuid = u ∧ u ≠ "" then [.boosted now] else []
  | .pollNowStarts i now => match p.pollNows[i]? with
    | some q => if u ∈ p.requestedUuids q.options ∧ u ≠ "" then [.boosted now]
        else p.notes p' u now
    | none => []
  | .recoveryGoesOn i reply now => if p.findsHost u i reply then [.boosted now] else []
  | .pollGoesOn t reply now random => match p.completion (.pollGoesOn t reply now random) with
    | some c => if c.uuid = u then [p.eventOf c] else []
    | none => []
  | .tick now => p.notes p' u now
  | .tickSyncs now => p.notes p' u now
  | .tickGoesOn now => p.notes p' u now
  | .pollNowSyncs _ now => p.notes p' u now
  | .workerGoesOn _ _ now => p.notes p' u now
  | _ => []

/-- There is a meta of every device that is being recovered. -/
def RecoveriesNoted (p : Poller) : Prop :=
  ∀ r ∈ p.recoveries, p.metaByUuid.has r.uuid = true

section

variable {p p' : Poller} {u : String} {o : Option Outlook} {a : Act}

/-- The events let expect the plan after a step. -/
lemma expected_of_kept {now : ℤ} (ho : Expected o (planOf p.metaByUuid u))
    (h : PlanKept u now p.metaByUuid p'.metaByUuid) :
    Expected ((p.notes p' u now).foldl Outlook.after o) (planOf p'.metaByUuid u) := by
  rw [notes]
  rcases h with h | ⟨hnone, hfresh⟩
  · have hhas : p'.metaByUuid.has u = p.metaByUuid.has u := by
      rw [Bool.eq_iff_iff, ← not_iff_not, Bool.not_eq_true, Bool.not_eq_true,
        ← planOf_eq_none_iff, ← planOf_eq_none_iff, h]
    rw [hhas, Bool.not_and_self, if_neg Bool.false_ne_true, h]
    exact ho
  · have hhas : p'.metaByUuid.has u = true := by
      rw [← Bool.not_eq_false, ← planOf_eq_none_iff, hfresh]
      exact nofun
    rw [planOf_eq_none_iff.mp hnone, hhas, Bool.not_false, Bool.and_self, if_pos rfl, hfresh]
    rw [hnone] at ho
    cases ho
    exact .known ⟨le_rfl, le_rfl⟩ rfl rfl rfl

/-- The device is boosted. -/
lemma expected_of_boost {now : ℤ} (ho : Expected o (planOf p.metaByUuid u))
    (h : planOf p'.metaByUuid u =
      some (((planOf p.metaByUuid u).getD (.fresh now)).boost now)) :
    Expected (Outlook.after o (.boosted now)) (planOf p'.metaByUuid u) := by
  rw [h]
  generalize planOf p.metaByUuid u = plan at ho
  cases ho with
  | unknown => exact .known ⟨le_rfl, le_rfl⟩ rfl rfl rfl
  | known _ hfailures _ hchanged => exact .known ⟨le_rfl, le_rfl⟩ hfailures rfl hchanged

/-- A poll of the device ends with a reading. -/
lemma expected_of_read (t : ℕ) {task : PollTask} {reading : DeviceReading} (now : ℤ) (random : ℚ)
    (hhas : p.metaByUuid.has u = true) (ho : Expected o (planOf p.metaByUuid u)) :
    Expected (Outlook.after o (p.eventOf ⟨t, u, task.reason, task.startedAt, .ok reading, now⟩))
      (planOf (p.applyReading t u task reading now random).metaByUuid u) := by
  obtain ⟨pm, hpm⟩ := (OrdMap.has_iff _).mp hhas
  have hplan : planOf p.metaByUuid u = some pm.plan := by rw [planOf, hpm]; rfl
  rw [hplan] at ho
  cases ho with
  | @known o _ _ _ hboost hchanged =>
      rw [applyReading]
      dsimp only
      rw [planOf_modifyMeta, if_pos rfl, hpm, Option.map_some]
      have hlast : (if hasMaterialStateChange (p.stateByUuid.get u)
          (p.readState u task.reason reading now) then some task.startedAt else pm.lastChangeAt) =
          if hasMaterialStateChange (p.stateByUuid.get u)
            (p.readState u task.reason reading now) then some task.startedAt else o.changedAt := by
        rw [← hchanged]
        rfl
      obtain ⟨hlo, hhi⟩ := @nextIntervalMs_mem
        { pm with
          lastChangeAt := if hasMaterialStateChange (p.stateByUuid.get u)
            (p.readState u task.reason reading now) then some task.startedAt else pm.lastChangeAt
          failureCount := 0
          lastSuccessAt := some task.startedAt }
        { o with
          failures := 0
          changedAt := if hasMaterialStateChange (p.stateByUuid.get u)
            (p.readState u task.reason reading now) then some task.startedAt else o.changedAt }
        task.startedAt random rfl hboost hlast
      exact .known ⟨add_le_add_right hlo _, add_le_add_right hhi _⟩ rfl hboost hlast

/-- A poll of the device fails. -/
lemma expected_of_failed (t : ℕ) {task : PollTask} {e : JsError} (now : ℤ) (random : ℚ)
    (hhas : p.metaByUuid.has u = true) (ho : Expected o (planOf p.metaByUuid u)) :
    Expected (Outlook.after o (p.eventOf ⟨t, u, task.reason, task.startedAt, .error e, now⟩))
      (planOf (p.noteFailure t u task e.message now random).metaByUuid u) := by
  obtain ⟨pm, hpm⟩ := (OrdMap.has_iff _).mp hhas
  have hplan : planOf p.metaByUuid u = some pm.plan := by rw [planOf, hpm]; rfl
  rw [hplan] at ho
  cases ho with
  | @known o _ _ hfailures hboost hchanged =>
      have hcount : pm.failureCount = o.failures := hfailures
      rw [noteFailure]
      dsimp only
      rw [planOf_modifyMeta, if_pos rfl, hpm, Option.map_some, nextIntervalMs,
        if_pos (Nat.succ_pos _), hcount]
      exact .known ⟨le_rfl, le_rfl⟩ rfl hboost hchanged

lemma running_of_completion {c : Completion} (h : p.completion a = some c) :
    ∃ task, p.inFlight.running c.task = some (c.uuid, task) := by
  unfold completion at h
  split at h
  next t reply now random =>
    split at h
    next uuid task ht =>
      split at h
      next outcome hprog =>
        obtain rfl := Option.some.inj h
        exact ⟨task, ht⟩
      next => cases h
    next => cases h
  next => cases h

/-- A recovery that starts leaves the plans alone. -/
lemma planOf_startRecovery {uuid : String} (hhas : p.metaByUuid.has uuid = true) (u : String)
    (now : ℤ) : planOf (p.startRecovery uuid now).metaByUuid u = planOf p.metaByUuid u := by
  have hensure : ensureMeta p.metaByUuid uuid now = p.metaByUuid := if_pos hhas
  rw [startRecovery, hensure]
  split_ifs
  · rfl
  · rfl
  · exact planOf_modifyMeta_of_eq u _ uuid fun _ => rfl

lemma planOf_applyFailure {t : ℕ} {uuid : String} {task : PollTask} {message : String} {now : ℤ}
    {random : ℚ} (hhas : p.metaByUuid.has uuid = true) (u : String) :
    planOf (p.applyFailure t uuid task message now random).metaByUuid u =
      planOf (p.noteFailure t uuid task message now random).metaByUuid u := by
  rw [applyFailure]
  split_ifs
  · exact planOf_startRecovery ((has_modifyMeta _ _ _ _).trans hhas) u now
  · rfl

/-- The end of a recovery boosts its device if it has found the host. -/
lemma planOf_endRecovery (p : Poller) (i : ℕ) (r : Recovery)
    (found : Option (String × Option String)) (now : ℤ) (u : String) :
    planOf (endRecovery p i r found now).metaByUuid u =
      if r.uuid = u ∧ found.isSome = true then (planOf p.metaByUuid u).map (PollPlan.boost now)
      else planOf p.metaByUuid u := by
  cases found with
  | none => simp [endRecovery]
  | some hit =>
      rw [endRecovery]
      dsimp only
      rw [planOf_modifyMeta]
      by_cases huuid : r.uuid = u
      · rw [if_pos huuid, if_pos ⟨huuid, rfl⟩, planOf, Option.map_map]
        rfl
      · simp [huuid]

/-- A recovery that goes on boosts its device if it ends with the host. -/
lemma planOf_recoveryGoesOn {i : ℕ} {reply : (c : Call) → Reply c} {now : ℤ}
    (h : p.recoveryGoesOn i reply now = some p') (u : String) : planOf p'.metaByUuid u =
      if p.findsHost u i reply then (planOf p.metaByUuid u).map (PollPlan.boost now)
      else planOf p.metaByUuid u := by
  rw [recoveryGoesOn] at h
  split at h
  next r hget =>
    split at h
    next found hprog =>
      obtain rfl := Option.some.inj h
      have hfinds : p.findsHost u i reply = (decide (r.uuid = u) && found.isSome) := by
        simp only [findsHost, hget, hprog]
        cases found <;> rfl
      rw [planOf_endRecovery, hfinds]
      simp only [Bool.and_eq_true, decide_eq_true_eq]
    next e hprog =>
      obtain rfl := Option.some.inj h
      have hfinds : p.findsHost u i reply = false := by
        simp only [findsHost, hget, hprog, Bool.and_false]
      rw [planOf_endRecovery, hfinds, if_neg (by simp), if_neg Bool.false_ne_true]
    next prog hok herror hprog =>
      obtain rfl := Option.some.inj h
      have hfinds : p.findsHost u i reply = false := by
        simp only [findsHost, hget, hprog, Bool.and_eq_false_imp]
        intro _
        split
        next hit heq => exact absurd (Option.some.inj heq) (hok (some hit))
        next => rfl
      rw [hfinds, if_neg Bool.false_ne_true]
    next => cases h
  next => cases h

/-- A recovery goes on. -/
lemma expected_of_recovery {i : ℕ} {reply : (c : Call) → Reply c} {now : ℤ}
    (hr : p.RecoveriesNoted) (h : p.recoveryGoesOn i reply now = some p')
    (ho : Expected o (planOf p.metaByUuid u)) :
    Expected ((p.pollEvents p' u (.recoveryGoesOn i reply now)).foldl Outlook.after o)
      (planOf p'.metaByUuid u) := by
  have hplan := planOf_recoveryGoesOn h u
  rw [pollEvents]
  split_ifs with hfinds
  · rw [if_pos hfinds] at hplan
    -- the device that is recovered has a meta
    rw [findsHost] at hfinds
    split at hfinds
    next r hget =>
      rw [Bool.and_eq_true, decide_eq_true_eq] at hfinds
      obtain ⟨rfl, -⟩ := hfinds
      obtain ⟨pm, hpm⟩ := (OrdMap.has_iff _).mp (hr r (List.mem_of_getElem? hget))
      have hmeta : planOf p.metaByUuid r.uuid = some pm.plan := by rw [planOf, hpm]; rfl
      refine expected_of_boost ho (hplan.trans ?_)
      rw [hmeta]
      rfl
    next => cases hfinds
  · rw [if_neg hfinds] at hplan
    exact hplan ▸ ho

variable [Runtime]

/-- **What the events let expect, a step makes true.** -/
lemma expected_step (hp : p.Noted) (hr : p.RecoveriesNoted) (h : p.step a = some p')
    (ho : Expected o (planOf p.metaByUuid u)) :
    Expected ((p.pollEvents p' u a).foldl Outlook.after o) (planOf p'.metaByUuid u) := by
  -- a change of the telemetry of a device
  have hquiet : ∀ uuid (f : PollMeta → PollMeta), (∀ pm, (f pm).plan = pm.plan) →
      Expected o (planOf (modifyMeta p.metaByUuid uuid f) u) := fun uuid f hf => by
    rwa [planOf_modifyMeta_of_eq u _ uuid hf]
  cases stretch_of_step h with
  | boostDevice uuid now =>
      have hplan := planOf_boostMeta u p.metaByUuid uuid now
      rw [pollEvents]
      split_ifs with hboosted
      · exact expected_of_boost ho (hplan.trans (if_pos hboosted))
      · rw [if_neg hboosted] at hplan
        exact hplan ▸ ho
  | tickIsBusy now => exact expected_of_kept ho (.refl u now _)
  | tickAwaits now => exact expected_of_kept ho (.refl u now _)
  | tick now => exact expected_of_kept ho (p.planKept_tickBody now)
  | tickGoesOn now => exact expected_of_kept ho (p.planKept_tickBody now)
  | tickSyncs now => exact expected_of_kept ho (planKept_foldl_ensureMeta u now _ _)
  | pollNowSyncs i now q => exact expected_of_kept ho (planKept_foldl_ensureMeta u now _ _)
  | pollNowStarts i now q hq =>
      have hplan := planOf_foldl_boostMeta u now (p.requestedUuids q.options) p.metaByUuid
      have hworkers : PlanKept u now ((p.requestedUuids q.options).foldl
          (fun m uuid => boostMeta m uuid now) p.metaByUuid) (p.startPollNow i q now).metaByUuid :=
        planKept_startWorkers q.options now _ { p with metaByUuid := _ } _
      simp only [pollEvents, hq]
      split_ifs with hboosted
      · rw [if_pos hboosted] at hplan
        rcases hworkers with hworkers | ⟨hnone, -⟩
        · exact expected_of_boost ho (hworkers.trans hplan)
        · rw [hplan] at hnone
          cases hnone
      · rw [if_neg hboosted] at hplan
        refine expected_of_kept ho ?_
        rwa [PlanKept, hplan] at hworkers
  | workerGoesOn i w now q queue workers c r =>
      exact expected_of_kept ho (p.planKept_takeNext q.options now queue)
  | pollAwaits t reply now random uuid task prog ht hprog hret =>
      rw [pollEvents, completion_awaits ht hprog hret]
      exact ho
  | pollReads t reply now random uuid task reading ht hprog =>
      rw [pollEvents, completion_ends ht hprog]
      dsimp only
      split_ifs with huuid
      · subst huuid
        exact expected_of_read t now random (hp.state t uuid task ht) ho
      · rw [applyReading]
        dsimp only
        rwa [planOf_modifyMeta, if_neg huuid]
  | pollFails t reply now random uuid task e ht hprog =>
      rw [pollEvents, completion_ends ht hprog, planOf_applyFailure (hp.state t uuid task ht)]
      dsimp only
      split_ifs with huuid
      · subst huuid
        exact expected_of_failed t now random (hp.state t uuid task ht) ho
      · rw [noteFailure]
        dsimp only
        rwa [planOf_modifyMeta, if_neg huuid]
  | telemetrySkips t reply now uuid task => exact hquiet uuid _ fun _ => rfl
  | telemetryReads t reply now uuid task host parsed => exact hquiet uuid _ fun _ => rfl
  | telemetryFails t reply now uuid task e => exact hquiet uuid _ fun _ => rfl
  | recoveryAwaits i reply now r prog hget hprog => exact expected_of_recovery hr h ho
  | recoveryEnds i reply now r found hget hprog => exact expected_of_recovery hr h ho
  | _ => exact ho

/-- No meta is removed. -/
lemma has_step (hp : p.Noted) (hr : p.RecoveriesNoted) (h : p.step a = some p')
    (hhas : p.metaByUuid.has u = true) : p'.metaByUuid.has u = true := by
  obtain ⟨pm, hpm⟩ := (OrdMap.has_iff _).mp hhas
  have hplan : planOf p.metaByUuid u = some pm.plan := by rw [planOf, hpm]; rfl
  have hexpected := expected_step (u := u) hp hr h
    (o := some ⟨pm.nextDueAt, pm.nextDueAt, pm.failureCount, pm.boostUntilAt, pm.lastChangeAt⟩)
    (hplan ▸ .known ⟨le_rfl, le_rfl⟩ rfl rfl rfl)
  have hsome := Outlook.isSome_foldl_after (p.pollEvents p' u a)
    ⟨pm.nextDueAt, pm.nextDueAt, pm.failureCount, pm.boostUntilAt, pm.lastChangeAt⟩
  rw [← Bool.not_eq_false, ← planOf_eq_none_iff]
  intro hnone
  rw [hnone] at hexpected
  generalize (p.pollEvents p' u a).foldl Outlook.after _ = o at hexpected hsome
  cases hexpected
  cases hsome

lemma RecoveriesNoted.step (hp : p.Noted) (hr : p.RecoveriesNoted) (h : p.step a = some p') :
    p'.RecoveriesNoted := by
  have hold : ∀ v ∈ p.ledger.recovering, p'.metaByUuid.has v = true := by
    intro v hv
    obtain ⟨r, hmem, rfl⟩ := List.mem_map.mp hv
    exact has_step hp hr h (hr r hmem)
  have hnew : ∀ v ∈ p'.ledger.recovering, p'.metaByUuid.has v = true := by
    have hstep := ledger_step hp h
    cases hc : p.completion a with
    | some c =>
        rw [hc] at hstep
        dsimp only at hstep
        rw [hstep, Ledger.poll]
        split_ifs
        · intro v hv
          rcases List.mem_append.mp hv with hv | hv
          · exact hold v hv
          · obtain rfl := List.mem_singleton.mp hv
            obtain ⟨task, ht⟩ := running_of_completion hc
            exact has_step hp hr h (hp.state _ _ task ht)
        · exact hold
    | none =>
        rw [hc] at hstep
        rcases hstep with hstep | ⟨i, reply, now, r, outcome, -, -, -, hstep⟩
        · exact hstep ▸ hold
        · rw [hstep]
          exact fun v hv => hold v (List.mem_of_mem_eraseIdx hv)
  exact fun r hmem => hnew r.uuid (List.mem_map_of_mem hmem)

end

end Poller

/-! ### Runs -/

/-- The poller with a log of what has settled the polls of every device. -/
structure EventLog where
  poller : Poller
  events : String → List PollEvent

namespace EventLog

open Poller

def init (file : FileText) : EventLog := ⟨.init file, fun _ => []⟩

/-- What the log lets expect of a device. -/
def outlook (s : EventLog) (u : String) : Option Outlook := Outlook.ofEvents (s.events u)

variable [Runtime]

def step (s : EventLog) (a : Act) : Option EventLog :=
  (s.poller.step a).map fun p => ⟨p, fun u => s.events u ++ s.poller.pollEvents p u a⟩

structure Inv (s : EventLog) : Prop where
  noted : s.poller.Noted
  recoveries : s.poller.RecoveriesNoted
  expected : ∀ u, Expected (s.outlook u) (planOf s.poller.metaByUuid u)

omit [Runtime] in
lemma inv_init (file : FileText) : (init file).Inv where
  noted := noted_init file
  recoveries r hr := by cases hr
  expected _ := .unknown

lemma Inv.step {s s' : EventLog} {a : Act} (hs : s.Inv) (h : s.step a = some s') : s'.Inv := by
  obtain ⟨p', hp', rfl⟩ := Option.map_eq_some_iff.mp h
  refine ⟨hs.noted.step hp', hs.recoveries.step hs.noted hp', fun u => ?_⟩
  have hexpected := expected_step hs.noted hs.recoveries hp' (hs.expected u)
  rwa [outlook, Outlook.ofEvents, List.foldl_append]

/-- The polls of ticks follow the log. -/
structure OnSchedule (s : EventLog) : Prop where
  /-- a tick polls no device before the earliest time -/
  never_early : ∀ now p' u, s.poller.Ticks now p' → u ∈ s.poller.startedPolls p' →
    ∃ o, s.outlook u = some o ∧ o.earliest ≤ now
  /-- a device that is known and not being polled is due at the latest time -/
  due : ∀ now u o, s.outlook u = some o → o.latest ≤ now → s.poller.knownHosts.has u = true →
    s.poller.inFlight.entries.has u = false → u ∈ s.poller.dueUuids now
  /-- and if there is room for all that are due, a tick polls it -/
  polled : ∀ now p' u o, s.poller.Ticks now p' → s.outlook u = some o → o.latest ≤ now →
    s.poller.knownHosts.has u = true → s.poller.inFlight.entries.has u = false →
      (s.poller.dueUuids now).length ≤ s.poller.pollRoom → "" ∉ s.poller.dueUuids now →
        u ∈ s.poller.startedPolls p'

omit [Runtime] in
lemma Inv.due {s : EventLog} (hs : s.Inv) {now : ℤ} {u : String} {o : Outlook}
    (ho : s.outlook u = some o) (hle : o.latest ≤ now) (hknown : s.poller.knownHosts.has u = true)
    (hfree : s.poller.inFlight.entries.has u = false) : u ∈ s.poller.dueUuids now := by
  have hexpected := hs.expected u
  rw [ho] at hexpected
  generalize hplan : planOf s.poller.metaByUuid u = plan at hexpected
  cases hexpected with
  | known hdue =>
      obtain ⟨pm, hpm, rfl⟩ := Option.map_eq_some_iff.mp hplan
      have htime : pm.nextDueAt ≤ now := hdue.2.trans hle
      rw [mem_dueUuids_iff, isDue, hknown, hfree, hpm]
      simpa using htime

lemma Inv.onSchedule {s : EventLog} (hs : s.Inv) : s.OnSchedule where
  never_early now p' u hticks hu := by
    rw [hticks.eq, startedPolls_tickBody] at hu
    have hsorted := s.poller.stableSort_due now
    have hdue := mem_due_iff.mp (hsorted.mem_iff.mp (subset_taken _ _ hu))
    have hexpected := hs.expected u
    rw [isDue, Bool.and_eq_true] at hdue
    obtain ⟨-, htime⟩ := hdue
    cases hget : s.poller.metaByUuid.get u with
    | none =>
        rw [hget] at htime
        cases htime
    | some pm =>
        rw [hget] at htime
        rw [planOf, hget] at hexpected
        generalize s.outlook u = o at hexpected
        cases hexpected with
        | @known o _ hplan => exact ⟨o, rfl, hplan.1.trans (of_decide_eq_true htime)⟩
  due _ _ _ ho hle hknown hfree := hs.due ho hle hknown hfree
  polled now p' u o hticks ho hle hknown hfree hroom hblank := by
    have hsorted := s.poller.stableSort_due now
    have hdue := hs.due ho hle hknown hfree
    have hlength : (s.poller.sortByTime PollMeta.nextDueAt (s.poller.due now)).length ≤
        s.poller.pollRoom := by
      rwa [hsorted.perm.length_eq, (s.poller.due_perm now).length_eq]
    rw [hticks.eq, startedPolls_tickBody, taken_eq, List.take_of_length_le hlength,
      List.takeWhile_eq_self_iff.mpr]
    · exact hsorted.mem_iff.mpr ((s.poller.due_perm now).mem_iff.mpr hdue)
    · intro v hv
      rw [decide_eq_true_eq]
      rintro rfl
      exact hblank ((s.poller.due_perm now).mem_iff.mp (hsorted.mem_iff.mp hv))

end EventLog

end Merossity
