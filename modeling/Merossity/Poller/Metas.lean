import Merossity.Poller.Steps

/-!
The metas of devices.

* `has_ensureMeta`, `has_modifyMeta` and `has_boostMeta` say of which devices there are metas
  after a change.
* `Noted`: there is a meta of every device with a poll under way, so that the outcome of a poll is
  always counted.
-/

namespace Merossity

/-! ### Changes of the map -/

section

variable (metas : OrdMap String PollMeta) (uuid : String) (now : ℤ) (key : String)

lemma get_ensureMeta : (ensureMeta metas uuid now).get key =
    if uuid = key then some ((metas.get key).getD (createMeta now)) else metas.get key := by
  rw [ensureMeta]
  by_cases hkey : uuid = key
  · subst hkey
    cases hget : metas.get uuid <;> simp [OrdMap.has, hget]
  · rw [if_neg hkey]
    split
    · rfl
    · exact OrdMap.get_set_of_ne _ hkey _

lemma get_modifyMeta (f : PollMeta → PollMeta) : (modifyMeta metas uuid f).get key =
    if uuid = key then (metas.get key).map f else metas.get key := by
  rw [modifyMeta]
  by_cases hkey : uuid = key
  · subst hkey
    cases hget : metas.get uuid <;> simp [hget]
  · rw [if_neg hkey]
    cases metas.get uuid with
    | some pm => exact OrdMap.get_set_of_ne _ hkey _
    | none => rfl

@[simp] lemma has_ensureMeta :
    (ensureMeta metas uuid now).has key = (decide (uuid = key) || metas.has key) := by
  rw [OrdMap.has, get_ensureMeta]
  by_cases hkey : uuid = key <;> simp [hkey, OrdMap.has]

@[simp] lemma has_modifyMeta (f : PollMeta → PollMeta) :
    (modifyMeta metas uuid f).has key = metas.has key := by
  rw [OrdMap.has, get_modifyMeta]
  by_cases hkey : uuid = key <;> simp [hkey, OrdMap.has]

@[simp] lemma has_boostMeta : (boostMeta metas uuid now).has key =
    (decide (uuid ≠ "" ∧ uuid = key) || metas.has key) := by
  rw [boostMeta]
  by_cases hempty : uuid = "" <;> simp [hempty]

end

lemma has_foldl_ensureMeta {α : Type} (now : ℤ) (key : String) (hosts : List (String × α)) :
    ∀ metas : OrdMap String PollMeta,
      (hosts.foldl (fun m e => ensureMeta m e.1 now) metas).has key = true ↔
        metas.has key = true ∨ key ∈ hosts.map Prod.fst := by
  induction hosts with
  | nil => simp
  | cons e hosts ih =>
      intro metas
      rw [List.foldl_cons, ih, has_ensureMeta, List.map_cons, List.mem_cons, Bool.or_eq_true,
        decide_eq_true_eq, eq_comm (a := key)]
      tauto

/-- The devices that `pollNow` boosts get metas. -/
lemma has_foldl_boostMeta (now : ℤ) (key : String) (uuids : List String) :
    ∀ metas : OrdMap String PollMeta,
      (uuids.foldl (fun m uuid => boostMeta m uuid now) metas).has key = true ↔
        metas.has key = true ∨ key ≠ "" ∧ key ∈ uuids := by
  induction uuids with
  | nil => simp
  | cons uuid uuids ih =>
      intro metas
      rw [List.foldl_cons, ih, has_boostMeta, List.mem_cons, Bool.or_eq_true, decide_eq_true_eq]
      by_cases hkey : uuid = key
      · subst hkey
        tauto
      · simp [hkey, Ne.symm hkey]

namespace Poller

/-- A recovery makes a meta of its device. -/
lemma has_startRecovery {p : Poller} {uuid key : String} {now : ℤ}
    (h : p.metaByUuid.has key = true) : (p.startRecovery uuid now).metaByUuid.has key = true := by
  rw [startRecovery]
  split_ifs <;> simp [h]

lemma has_applyFailure {p : Poller} {t : ℕ} {uuid : String} {task : PollTask} {message : String}
    {now : ℤ} {random : ℚ} {key : String}
    (h : (p.noteFailure t uuid task message now random).metaByUuid.has key = true) :
    (p.applyFailure t uuid task message now random).metaByUuid.has key = true := by
  rw [applyFailure]
  split_ifs
  · exact has_startRecovery h
  · exact h

lemma has_endRecovery (p : Poller) (i : ℕ) (r : Recovery) (found : Option (String × Option String))
    (now : ℤ) (key : String) :
    (endRecovery p i r found now).metaByUuid.has key = p.metaByUuid.has key := by
  cases found with
  | none => rfl
  | some f => exact has_modifyMeta _ _ _ _

/-- A call of a poll makes a meta of its device, unless it joins a poll. -/
lemma has_of_call {metas : OrdMap String PollMeta} {uuid key : String} {now : ℤ} (joins : Bool) :
    (if joins then metas else ensureMeta metas uuid now).has key = true ↔
      metas.has key = true ∨ joins = false ∧ uuid = key := by
  cases joins <;> simp [or_comm]

/-! ### Polls under way -/

/-- There is a meta of every device with a state poll or a telemetry poll under way. -/
structure Noted (p : Poller) : Prop where
  state : ∀ t uuid task, p.inFlight.running t = some (uuid, task) → p.metaByUuid.has uuid = true
  power : ∀ t uuid task, p.telemetryInFlight.running t = some (uuid, task) →
    p.metaByUuid.has uuid = true

lemma noted_init (file : FileText) : (init file).Noted where
  state _ _ _ h := by cases h
  power _ _ _ h := by cases h

section

variable {p p' : Poller}

/-- No meta is removed, and no poll is started. -/
lemma Noted.mono (hp : p.Noted)
    (hmetas : ∀ uuid, p.metaByUuid.has uuid = true → p'.metaByUuid.has uuid = true)
    (hstate : ∀ t uuid task, p'.inFlight.running t = some (uuid, task) →
      ∃ task', p.inFlight.running t = some (uuid, task'))
    (hpower : ∀ t uuid task, p'.telemetryInFlight.running t = some (uuid, task) →
      ∃ task', p.telemetryInFlight.running t = some (uuid, task')) : p'.Noted where
  state t uuid task ht := by
    obtain ⟨task', ht'⟩ := hstate t uuid task ht
    exact hmetas uuid (hp.state t uuid task' ht')
  power t uuid task ht := by
    obtain ⟨task', ht'⟩ := hpower t uuid task ht
    exact hmetas uuid (hp.power t uuid task' ht')

/-- No meta is removed, and the polls under way stay. -/
lemma Noted.metas (hp : p.Noted)
    (hmetas : ∀ uuid, p.metaByUuid.has uuid = true → p'.metaByUuid.has uuid = true)
    (hstate : p'.inFlight.tasks = p.inFlight.tasks)
    (hpower : p'.telemetryInFlight.tasks = p.telemetryInFlight.tasks) : p'.Noted := by
  refine hp.mono hmetas (fun t uuid task ht => ⟨task, ?_⟩) fun t uuid task ht => ⟨task, ?_⟩
  · rw [Flight.running_eq_some] at ht ⊢
    rwa [← hstate]
  · rw [Flight.running_eq_some] at ht ⊢
    rwa [← hpower]

end

section

variable [Runtime] {P : String → Prop} {p q : Poller}

/-- A loop makes no metas but of its devices, and removes none. -/
lemma has_enlists (h : Enlists P p q) (key : String) :
    (p.metaByUuid.has key = true → q.metaByUuid.has key = true) ∧
      (q.metaByUuid.has key = true → p.metaByUuid.has key = true ∨ P key) := by
  induction h with
  | refl => exact ⟨id, Or.inl⟩
  | @poll q _ uuid hP reason timeoutMs now ih =>
      have hcall : (q.pollDevice uuid reason timeoutMs now).metaByUuid.has key = true ↔ _ :=
        has_of_call (q.inFlight.entries.has uuid)
      rw [hcall]
      exact ⟨fun hkey => Or.inl (ih.1 hkey),
        fun hkey => hkey.elim ih.2 fun hnew => Or.inr (hnew.2 ▸ hP)⟩
  | @telemetry q _ uuid hP reason timeoutMs now ih =>
      have hcall : (q.pollTelemetry uuid reason timeoutMs now).metaByUuid.has key = true ↔ _ :=
        has_of_call (q.telemetryInFlight.entries.has uuid)
      rw [hcall]
      exact ⟨fun hkey => Or.inl (ih.1 hkey),
        fun hkey => hkey.elim ih.2 fun hnew => Or.inr (hnew.2 ▸ hP)⟩
  | boost _ uuid hP now ih =>
      rw [has_boostMeta, Bool.or_eq_true, decide_eq_true_eq]
      exact ⟨fun hkey => Or.inr (ih.1 hkey),
        fun hkey => hkey.elim (fun hnew => Or.inr (hnew.2 ▸ hP)) ih.2⟩

lemma Noted.enlists (hp : p.Noted) (h : Enlists P p q) : q.Noted := by
  induction h with
  | refl => exact hp
  | @poll q _ uuid _ reason timeoutMs now ih =>
      have hcall : ∀ key, (q.pollDevice uuid reason timeoutMs now).metaByUuid.has key = true ↔ _ :=
        fun _ => has_of_call (q.inFlight.entries.has uuid)
      refine ⟨fun t key task ht => (hcall key).mpr ?_, fun t key task ht =>
        (hcall key).mpr (Or.inl (ih.power t key task ht))⟩
      rcases Flight.running_enter ht with ht | ⟨hnew, rfl, -⟩
      · exact Or.inl (ih.state t key task ht)
      · exact Or.inr ⟨hnew, rfl⟩
  | @telemetry q _ uuid _ reason timeoutMs now ih =>
      have hcall : ∀ key,
          (q.pollTelemetry uuid reason timeoutMs now).metaByUuid.has key = true ↔ _ :=
        fun _ => has_of_call (q.telemetryInFlight.entries.has uuid)
      refine ⟨fun t key task ht => (hcall key).mpr (Or.inl (ih.state t key task ht)),
        fun t key task ht => (hcall key).mpr ?_⟩
      rcases Flight.running_enter ht with ht | ⟨hnew, rfl, -⟩
      · exact Or.inl (ih.power t key task ht)
      · exact Or.inr ⟨hnew, rfl⟩
  | boost _ uuid _ now ih => exact ih.metas (fun key hkey => by simp [hkey]) rfl rfl

/-- The outcome of every poll is counted. -/
lemma Noted.step {p' : Poller} {a : Act} (hp : p.Noted) (h : p.step a = some p') : p'.Noted := by
  cases stretch_of_step h with
  | boostDevice uuid now => exact hp.metas (fun key hkey => by simp [hkey]) rfl rfl
  | tick now =>
      obtain ⟨q, hq, heq⟩ := tickBody_enlists p now
      have hnoted : q.Noted := hp.enlists hq
      rw [heq]
      exact ⟨hnoted.state, hnoted.power⟩
  | tickGoesOn now =>
      obtain ⟨q, hq, heq⟩ := tickBody_enlists p now
      have hnoted : q.Noted := hp.enlists hq
      rw [heq]
      exact ⟨hnoted.state, hnoted.power⟩
  | tickSyncs now =>
      exact hp.metas (fun key hkey => (has_foldl_ensureMeta now key _ _).mpr (Or.inl hkey)) rfl rfl
  | pollNowSyncs i now q =>
      exact hp.metas (fun key hkey => (has_foldl_ensureMeta now key _ _).mpr (Or.inl hkey)) rfl rfl
  | pollNowStarts i now q =>
      obtain ⟨p₁, queue, workers, hp₁, -, -, heq⟩ := startPollNow_enlists p i q now
      have hnoted : p₁.Noted := hp.enlists hp₁
      rw [heq]
      exact ⟨hnoted.state, hnoted.power⟩
  | workerGoesOn i w now q queue workers c r =>
      obtain ⟨p₁, queue', worker, hp₁, -, heq⟩ :=
        collectAndTake_enlists p i q queue workers w r now
      have hnoted : p₁.Noted := hp.enlists hp₁
      rw [heq]
      exact ⟨hnoted.state, hnoted.power⟩
  | pollAwaits t reply now random uuid task prog ht =>
      exact hp.mono (fun _ hkey => hkey) (fun _ _ _ hu => Flight.WellFormed.running_advance _ ht hu)
        fun _ _ task hu => ⟨task, hu⟩
  | pollReads t reply now random uuid task reading ht =>
      exact hp.mono (fun key hkey => (has_modifyMeta _ _ _ _).trans hkey)
        (fun _ _ _ hu => Flight.WellFormed.running_advance _ ht hu) fun _ _ task hu => ⟨task, hu⟩
  | pollFails t reply now random uuid task e ht =>
      have hnoted : (p.noteFailure t uuid task e.message now random).Noted :=
        hp.mono (fun key hkey => (has_modifyMeta _ _ _ _).trans hkey)
          (fun _ _ _ hu => Flight.WellFormed.running_advance _ ht hu) fun _ _ task hu => ⟨task, hu⟩
      obtain ⟨resolving, recoveries, metas, heq⟩ :=
        applyFailure_eq p t uuid task e.message now random
      exact hnoted.metas (fun key hkey => has_applyFailure hkey) (by rw [heq]) (by rw [heq])
  | pollReturns c f hf =>
      obtain ⟨k, k', u, creator, r, -, -, rfl⟩ := Flight.leave_eq_some hf
      exact ⟨hp.state, hp.power⟩
  | telemetryAwaits t reply now uuid task prog ht =>
      exact hp.mono (fun _ hkey => hkey) (fun _ _ task hu => ⟨task, hu⟩)
        fun _ _ _ hu => Flight.WellFormed.running_advance _ ht hu
  | telemetrySkips t reply now uuid task ht =>
      exact hp.mono (fun key hkey => (has_modifyMeta _ _ _ _).trans hkey)
        (fun _ _ task hu => ⟨task, hu⟩) fun _ _ _ hu => Flight.WellFormed.running_advance _ ht hu
  | telemetryReads t reply now uuid task host parsed ht =>
      exact hp.mono (fun key hkey => (has_modifyMeta _ _ _ _).trans hkey)
        (fun _ _ task hu => ⟨task, hu⟩) fun _ _ _ hu => Flight.WellFormed.running_advance _ ht hu
  | telemetryFails t reply now uuid task e ht =>
      exact hp.mono (fun key hkey => (has_modifyMeta _ _ _ _).trans hkey)
        (fun _ _ task hu => ⟨task, hu⟩) fun _ _ _ hu => Flight.WellFormed.running_advance _ ht hu
  | telemetryReturns c f hf =>
      obtain ⟨k, k', u, creator, r, -, -, rfl⟩ := Flight.leave_eq_some hf
      exact ⟨hp.state, hp.power⟩
  | recoveryEnds i reply now r found =>
      exact hp.metas (fun key hkey => (has_endRecovery _ _ _ _ _ _).trans hkey) rfl rfl
  | _ => exact ⟨hp.state, hp.power⟩

end

end Poller

end Merossity
