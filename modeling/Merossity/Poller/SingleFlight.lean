import Merossity.Poller.Steps

/-!
Polls under way are shared.

* `single_flight`: of every device at most one state poll and at most one telemetry poll is
  under way, callers that come in meanwhile get its result, and the entry of the poll is
  removed only by the call that started it, so that none is left in the end.
* `fresh_or_joined`: what `pollNow` returns was read by a poll whose request had not been sent
  when the call began, or by the poll that was registered for the device at that moment; and
  `refresh_joins` is a run in which the request was sent before.
-/

namespace Merossity

open Js Machine

section

variable [Runtime]

/-- A state that the service can reach from its construction. -/
def Poller.Reachable (file : FileText) (p : Poller) : Prop :=
  Reaches Poller.step Always (Poller.init file) p

/-! ### Single flight -/

/-- The polls of one kind are shared. -/
structure Shared {δ ρ : Type} (f : Flight String δ ρ) : Prop where
  /-- of a device at most one poll is under way -/
  single : ∀ uuid t t' d d', f.running t = some (uuid, d) → f.running t' = some (uuid, d') → t = t'
  /-- what a call has returned is the result of the poll that it awaited -/
  result : ∀ c ∈ f.calls, ∀ r, c.result = some r → f.tasks[c.task]? = some ⟨c.key, .settled r⟩
  /-- a poll is registered as long as the call that started it has not returned -/
  own : ∀ uuid t, f.entries.get uuid = some t ↔
    (⟨uuid, t, true, none⟩ : Flight.Call String ρ) ∈ f.calls
  /-- a call that has not returned awaits a poll under way, or can return -/
  pending : ∀ (i : ℕ) (c : Flight.Call String ρ), f.calls[i]? = some c → c.result = none →
    (∃ d, f.running c.task = some (c.key, d)) ∨ (f.leave i).isSome = true
  /-- when all calls have returned, the map is empty -/
  empty : (∀ c ∈ f.calls, c.result ≠ none) → f.entries = OrdMap.empty

/-- A step keeps to the sharing of polls; `returning` is the call that returns in it. -/
structure SharedStep {δ ρ : Type} (f g : Flight String δ ρ) (returning : Option ℕ) : Prop where
  /-- a call that comes in while a poll of its device is under way joins it -/
  joins : ∀ uuid t d, f.running t = some (uuid, d) → ∀ (i : ℕ) (c : Flight.Call String ρ),
    f.calls.length ≤ i → g.calls[i]? = some c → c.key = uuid → c.task = t ∧ c.creator = false
  /-- a call keeps the poll that it awaits -/
  keeps : ∀ (i : ℕ) (c : Flight.Call String ρ), f.calls[i]? = some c →
    ∃ r, g.calls[i]? = some { c with result := r }
  /-- an entry is removed by the return of the call that started its poll, and by nothing else -/
  removed : ∀ uuid t, f.entries.get uuid = some t → g.entries.get uuid ≠ some t →
    ∃ c, returning = some c ∧ f.calls[c]? = some ⟨uuid, t, true, none⟩

/-- The call of `pollDevice` that returns. -/
def Act.pollCall : Act → Option ℕ
  | .pollReturns c => some c
  | _ => none

/-- The call of `pollTelemetry` that returns. -/
def Act.telemetryCall : Act → Option ℕ
  | .telemetryReturns c => some c
  | _ => none

section Shared

variable {δ ρ : Type} {P : String → δ → Prop} {f g : Flight String δ ρ}

omit [Runtime] in
lemma Shared.of_wellFormed (hf : f.WellFormed) : Shared f where
  single _ _ _ _ _ h h' := hf.eq_of_running h h'
  result := hf.result
  own := hf.entry
  pending _ _ hc hres := hf.pending hc hres
  empty := hf.entries_eq_empty

omit [Runtime] in
lemma SharedStep.of_advances (hf : f.WellFormed) (h : Poller.Advances P f g)
    (returning : Option ℕ) : SharedStep f g returning := by
  rcases h with h | ⟨u, k, e, s, hu, rfl⟩
  · exact ⟨fun uuid t d ht _ _ hi hc hkey => h.joins (hf.registered t uuid d ht) hi hc hkey,
      (Flight.Later.of_enters h).call, fun _ _ ht hg => absurd (h.get ht) hg⟩
  · refine ⟨fun _ _ _ _ i c hi hc => ?_, (Flight.Later.advance f s hu).call,
      fun _ _ ht hg => absurd ht hg⟩
    exact absurd (List.getElem?_eq_some_iff.mp hc).1 (not_lt.mpr hi)

omit [Runtime] in
lemma wellFormed_of_advances (hf : f.WellFormed) (h : Poller.Advances P f g) : g.WellFormed := by
  rcases h with h | ⟨u, k, e, s, hu, rfl⟩
  · exact hf.of_enters h
  · exact hf.advance s hu

omit [Runtime] in
lemma later_of_advances (h : Poller.Advances P f g) : f.Later g := by
  rcases h with h | ⟨u, k, e, s, hu, rfl⟩
  · exact .of_enters h
  · exact .advance f s hu

omit [Runtime] in
lemma SharedStep.of_leave (hf : f.WellFormed) {c : ℕ} (h : f.leave c = some g) :
    SharedStep f g (some c) where
  joins uuid t d ht i b hi hb := by
    obtain ⟨k, k', t', creator, r, hc, -, rfl⟩ := Flight.leave_eq_some h
    have hlt := (List.getElem?_eq_some_iff.mp hb).1
    rw [List.length_set] at hlt
    omega
  keeps := (Flight.Later.leave h).call
  removed _ _ ht hg := ⟨c, rfl, hf.removed h ht hg⟩

end Shared

/-- Both maps of polls are well formed. -/
def Poller.FlightsInv (p : Poller) : Prop := p.inFlight.WellFormed ∧ p.telemetryInFlight.WellFormed

lemma Poller.FlightsInv.step {p p' : Poller} {a : Act} (hp : p.FlightsInv)
    (h : p.step a = some p') : p'.FlightsInv := by
  refine ⟨?_, ?_⟩
  · rcases step_inFlight h with hadv | ⟨c, -, hleave⟩
    · exact wellFormed_of_advances hp.1 hadv
    · exact hp.1.leave hleave
  · rcases step_telemetryInFlight h with hadv | ⟨c, -, hleave⟩
    · exact wellFormed_of_advances hp.2 hadv
    · exact hp.2.leave hleave

lemma Poller.Reachable.flightsInv {file : FileText} {p : Poller} (h : p.Reachable file) :
    p.FlightsInv :=
  h.invariant ⟨Flight.wellFormed_empty, Flight.wellFormed_empty⟩ fun _ _ _ hp _ hstep =>
    hp.step hstep

/-- **Polls under way are shared**, state polls and telemetry polls, in every state that the
service can reach and in every step from there. -/
theorem single_flight (file : FileText) (p : Poller) (h : p.Reachable file) :
    Shared p.inFlight ∧ Shared p.telemetryInFlight ∧ ∀ a p', p.step a = some p' →
      SharedStep p.inFlight p'.inFlight a.pollCall ∧
        SharedStep p.telemetryInFlight p'.telemetryInFlight a.telemetryCall := by
  obtain ⟨hf, htf⟩ := h.flightsInv
  refine ⟨.of_wellFormed hf, .of_wellFormed htf, fun a p' hstep => ⟨?_, ?_⟩⟩
  · rcases Poller.step_inFlight hstep with hadv | ⟨c, rfl, hleave⟩
    · exact .of_advances hf hadv _
    · exact .of_leave hf hleave
  · rcases Poller.step_telemetryInFlight hstep with hadv | ⟨c, rfl, hleave⟩
    · exact .of_advances htf hadv _
    · exact .of_leave htf hleave

/-! ### What a refresh returns -/

/-- The device that an outcome is about. -/
def PollResult.uuid : PollResult → String
  | .state s => s.uuid
  | .error e => e.uuid

/-- An outcome that a call of `pollNow` has collected. -/
def PollNow.Collected (q : PollNow) : PollResult → Prop
  | .state s => s ∈ q.states
  | .error e => e ∈ q.errors

/-- The request of a poll has been sent, or never will be. -/
def Poller.isPastRequest (p : Poller) (t : ℕ) : Bool :=
  match p.inFlight.tasks[t]? with
  | some ⟨_, .settled _⟩ => true
  | some ⟨_, .running task⟩ => match task.prog with
    | .call (.fetchConfig _) _ => true
    | _ => false
  | none => false

/-- A state is stored under its uuid, and the result of a poll is about the device of the
poll. -/
structure Poller.Keyed (p : Poller) : Prop where
  state : ∀ uuid s, p.stateByUuid.get uuid = some s → s.uuid = uuid
  result : ∀ (t : ℕ) uuid r, p.inFlight.tasks[t]? = some ⟨uuid, .settled r⟩ → r.uuid = uuid

/-- A call of `pollNow` that began when there had been `n` calls of `pollDevice`: its workers
await later ones, and what they have collected was returned by later ones. -/
structure PollNow.Inv (n : ℕ) (f : Flight String PollTask PollResult) (q : PollNow) : Prop where
  awaits : ∀ queue workers c, q.phase = .polling queue workers → .awaiting c ∈ workers → n ≤ c
  collected : ∀ r, q.Collected r → ∃ (c : ℕ) (call : Flight.Call String PollResult), n ≤ c ∧
    f.calls[c]? = some call ∧ call.result = some r

omit [Runtime] in
lemma PollNow.Inv.mono {n : ℕ} {f g : Flight String PollTask PollResult}
    {q : PollNow} (hq : q.Inv n f) (h : f.Later g) : q.Inv n g where
  awaits := hq.awaits
  collected r hr := by
    obtain ⟨c, call, hn, hc, hres⟩ := hq.collected r hr
    exact ⟨c, call, hn, h.returned c call r hc hres, hres⟩

namespace Poller

omit [Runtime] in
lemma storedState_uuid {prev : Option DeviceStateDto} {next : DeviceStateDto}
    (h : ∀ s, prev = some s → s.uuid = next.uuid) : (storedState prev next).uuid = next.uuid := by
  cases prev with
  | none => rfl
  | some s =>
      rw [storedState]
      split
      · rfl
      · exact h s rfl

omit [Runtime] in
lemma keyed_init (file : FileText) : (init file).Keyed where
  state _ _ h := by cases h
  result _ _ _ h := by cases h

omit [Runtime] in
/-- A poll that settles on a result about its device. -/
lemma Keyed.settle {p : Poller} (hp : p.Keyed) {t : ℕ} {uuid : String} {task : PollTask}
    (ht : p.inFlight.running t = some (uuid, task)) {r : PollResult} (hr : r.uuid = uuid) (u : ℕ)
    (k : String) (r' : PollResult)
    (hu : (p.inFlight.advance t (.settled r)).tasks[u]? = some ⟨k, .settled r'⟩) : r'.uuid = k := by
  rw [Flight.WellFormed.tasks_advance _ ht] at hu
  split at hu
  next =>
    cases hu
    exact hr
  next => exact hp.result u k r' hu

omit [Runtime] in
lemma Keyed.set {p : Poller} (hp : p.Keyed) {uuid : String} {s : DeviceStateDto}
    (hs : s.uuid = uuid) (u : String) (s' : DeviceStateDto)
    (hu : (p.stateByUuid.set uuid s).get u = some s') :
    s'.uuid = u := by
  rw [OrdMap.get_set] at hu
  split at hu
  next h =>
    cases hu
    exact hs.trans h
  next => exact hp.state u s' hu

lemma Keyed.loops {p p' : Poller} (hp : p.Keyed) (h : Loops p p') : p'.Keyed :=
  ⟨fun uuid s hs => hp.state uuid s (h.stateByUuid ▸ hs),
    fun t k r ht => hp.result t k r (h.inFlight.settled ht)⟩

lemma Keyed.step {p p' : Poller} {a : Act} (hp : p.Keyed) (h : p.step a = some p') : p'.Keyed := by
  cases stretch_of_step h with
  | tick now => exact hp.loops (loops_tickBody p now)
  | tickGoesOn now => exact hp.loops (loops_tickBody p now)
  | pollNowStarts i now q => exact hp.loops (loops_startPollNow p i q now)
  | workerGoesOn i w now q queue workers c r =>
      exact hp.loops (loops_collectAndTake p i q queue workers w r now)
  | pollAwaits t reply now random uuid task prog ht =>
      refine ⟨hp.state, fun u k r hu => ?_⟩
      rw [Flight.WellFormed.tasks_advance _ ht] at hu
      split at hu
      next => cases hu
      next => exact hp.result u k r hu
  | pollReads t reply now random uuid task reading ht =>
      have hstored : (storedState (p.stateByUuid.get uuid)
          (p.readState uuid task.reason reading now)).uuid = uuid :=
        storedState_uuid fun s hs => hp.state uuid s hs
      exact ⟨hp.set hstored, hp.settle ht hstored⟩
  | pollFails t reply now random uuid task e ht =>
      obtain ⟨resolving, recoveries, metas, heq⟩ :=
        applyFailure_eq p t uuid task e.message now random
      rw [heq]
      refine ⟨fun u s hu => ?_, hp.settle ht rfl⟩
      simp only [noteFailure] at hu
      split at hu
      next =>
        have hs : (p.staleState uuid task.reason e.message now).uuid = uuid := rfl
        exact hp.set hs u s hu
      next => exact hp.state u s hu
  | pollReturns c f hf =>
      obtain ⟨k, k', u, creator, r, -, -, rfl⟩ := Flight.leave_eq_some hf
      exact ⟨hp.state, hp.result⟩
  | _ => exact ⟨hp.state, hp.result⟩

lemma Reachable.keyed {file : FileText} {p : Poller} (h : p.Reachable file) : p.Keyed :=
  h.invariant (keyed_init file) fun _ _ _ hp _ hstep => hp.step hstep

lemma step_later {p p' : Poller} {a : Act} (h : p.step a = some p') :
    p.inFlight.Later p'.inFlight := by
  rcases step_inFlight h with hadv | ⟨c, -, hleave⟩
  · exact later_of_advances hadv
  · exact .leave hleave

/-! ### Workers -/

omit [Runtime] in
/-- An outcome that is collected was collected before, or is the new one. -/
lemma collected_collect {q : PollNow} {r r' : PollResult} :
    (collect q r).Collected r' ↔ q.Collected r' ∨ r' = r := by
  cases r <;> cases r' <;> simp [PollNow.Collected, collect]

/-- A step keeps the invariant of a call of `pollNow`. -/
lemma inv_step {p p' : Poller} {a : Act} {n i : ℕ} {q : PollNow}
    (hn : n ≤ p.inFlight.calls.length) (hq : p.pollNows[i]? = some q)
    (hinv : q.Inv n p.inFlight) (h : p.step a = some p') :
    ∃ q', p'.pollNows[i]? = some q' ∧ q'.Inv n p'.inFlight := by
  have hmono := hinv.mono (step_later h)
  obtain ⟨q', hq', hproceeds⟩ := proceeds_step h hq
  refine ⟨q', hq', ?_⟩
  cases hproceeds with
  | stays => exact hmono
  | syncs => exact ⟨fun _ _ _ hpolling => (by cases hpolling), hmono.collected⟩
  | starts i now queue workers hphase hstart htakes =>
      refine ⟨fun _ _ c hpolling hc => ?_, hmono.collected⟩
      obtain ⟨rfl, rfl⟩ := PollNowPhase.polling.inj hpolling
      exact hn.trans (htakes.new c hc)
  | works queue queue' workers w c worker r hphase hw hc htakes =>
      refine ⟨fun _ _ c' hpolling hc' => ?_, fun r' hr' => ?_⟩
      · obtain ⟨rfl, rfl⟩ := PollNowPhase.polling.inj hpolling
        rcases List.mem_or_eq_of_mem_set hc' with hc' | hc'
        · exact hinv.awaits queue workers c' hphase hc'
        · exact hn.trans (htakes.new c' (List.mem_singleton.mpr hc'))
      · -- an outcome is an earlier one, or that of the call which the worker awaited
        rcases collected_collect.mp hr' with hold | rfl
        · exact hmono.collected r' hold
        · obtain ⟨call, hcall, hres⟩ := Option.bind_eq_some_iff.mp hc
          exact ⟨c, call, hinv.awaits queue workers c hphase (List.mem_of_getElem? hw),
            (step_later h).returned c call r' hcall hres, hres⟩
  | returns => exact ⟨fun _ _ _ hpolling => (by cases hpolling), hmono.collected⟩

end Poller

/-- What holds of every state after a call of `pollNow` that began in the state `s₀`. -/
structure Poller.RefreshInv (s₀ s : Poller) : Prop where
  flights : s.FlightsInv
  keyed : s.Keyed
  later : s₀.inFlight.Later s.inFlight
  refresh : ∃ q, s.pollNows[s₀.pollNows.length]? = some q ∧
    q.Inv s₀.inFlight.calls.length s.inFlight

lemma refreshInv_of_reaches {file : FileText} {s₀ s₁ s : Poller} {options : PollOptions}
    (h₀ : s₀.Reachable file) (hbegin : s₀.step (.pollNow options) = some s₁)
    (h : Reaches Poller.step Always s₁ s) : Poller.RefreshInv s₀ s := by
  refine h.invariant ?_ ?_
  · cases Option.some.inj hbegin
    refine ⟨h₀.flightsInv, ⟨h₀.keyed.state, h₀.keyed.result⟩, .refl _,
      ⟨⟨options, .syncing, [], []⟩, by simp, fun _ _ _ hpolling => (by cases hpolling), ?_⟩⟩
    intro r hr
    cases r <;> cases hr
  · rintro p a p' ⟨hf, hkeyed, hlater, q, hq, hinv⟩ - hstep
    exact ⟨hf.step hstep, hkeyed.step hstep, hlater.trans (Poller.step_later hstep),
      Poller.inv_step hlater.calls_le hq hinv hstep⟩

/-- An outcome that a call of `pollDevice` has returned, read by a poll with the property
`P`. -/
def Poller.ReadBy (p : Poller) (r : PollResult) (P : ℕ → Prop) : Prop :=
  ∃ (t c : ℕ) (creator : Bool),
    p.inFlight.calls[c]? = some ⟨r.uuid, t, creator, some r⟩ ∧
      p.inFlight.tasks[t]? = some ⟨r.uuid, .settled r⟩ ∧ P t

omit [Runtime] in
/-- An outcome that a call of `pollNow` collects was read by the poll that was registered for the
device when the call began, or by a newer one. -/
lemma Poller.RefreshInv.readBy {s₀ s : Poller} (h : Poller.RefreshInv s₀ s) {q : PollNow}
    (hq : s.pollNows[s₀.pollNows.length]? = some q) {r : PollResult} (hr : q.Collected r) :
    s.ReadBy r fun t => s₀.inFlight.entries.get r.uuid = some t ∨ s₀.inFlight.tasks.length ≤ t := by
  obtain ⟨⟨hf, -⟩, hkeyed, hlater, q', hq', hinv⟩ := h
  rw [hq] at hq'
  obtain rfl := Option.some.inj hq'
  obtain ⟨c, ⟨key, t, creator, result⟩, hn, hc, hres⟩ := hinv.collected r hr
  obtain rfl : result = some r := hres
  have htask := hf.result _ (List.mem_of_getElem? hc) r rfl
  obtain rfl : r.uuid = key := hkeyed.result t key r htask
  exact ⟨t, c, creator, hc, htask, hlater.newer c _ hn hc⟩

/-- **What a refresh returns.** An outcome that a call of `pollNow` collects was read by a poll
whose request had not been sent when the call began, or by the poll that was registered for the
device at that moment. -/
theorem fresh_or_joined (file : FileText) (s₀ s₁ s : Poller) (options : PollOptions)
    (h₀ : s₀.Reachable file) (hbegin : s₀.step (.pollNow options) = some s₁)
    (h : Reaches Poller.step Always s₁ s) (q : PollNow)
    (hq : s.pollNows[s₀.pollNows.length]? = some q) (r : PollResult) (hr : q.Collected r) :
    s.ReadBy r fun t => s₀.isPastRequest t = false ∨ s₀.inFlight.entries.get r.uuid = some t := by
  obtain ⟨t, c, creator, hc, htask, hpoll⟩ := (refreshInv_of_reaches h₀ hbegin h).readBy hq hr
  refine ⟨t, c, creator, hc, htask, ?_⟩
  rcases hpoll with hreg | hnew
  · exact Or.inr hreg
  · left
    have hnone : s₀.inFlight.tasks[t]? = none := List.getElem?_eq_none hnew
    rw [Poller.isPastRequest, hnone]

end

/-! ### A refresh that joins -/

/-- A configuration with a key and a plug. -/
def plugConfig : FileText :=
  .json (.obj [("cloud", .obj [("key", .str "k")]),
    ("hosts", .obj [("u", .obj [("host", .str "10.0.0.9")])])])

/-- The reply of a plug to `Appliance.System.All`. -/
def plugReply (onoff : ℚ) : Json :=
  .obj [("payload", .obj [("all", .obj [("digest", .obj [("togglex",
    .arr [.obj [("channel", .num (.fin 0)), ("onoff", .num (.fin onoff))]])])])])]

/-- A device that sends a reply. -/
def deviceSends (resp : Json) : (c : Call) → Reply c
  | .fetchConfig _ => .response 200 "OK" "" (.ok resp)
  | c => silence c

/-- A tick starts a poll of the plug, which sends its request. -/
def backgroundPoll : List Act :=
  [.tick 6000, .tickSyncs 6000, .tickGoesOn 6000, .pollGoesOn 0 silence 6001 0,
    .pollGoesOn 0 silence 6002 0]

/-- The options of the refresh after a command. -/
def refreshOptions (uuid : String) : PollOptions := ⟨some [uuid], some .manual, none⟩

/-- A refresh that began joins that poll, and the reply arrives. -/
def joiningRefresh : List Act :=
  [.pollNowSyncs 0 6004, .pollNowStarts 0 6005, .pollGoesOn 0 (deviceSends (plugReply 1)) 6010 0,
    .pollReturns 0, .pollReturns 1, .workerGoesOn 0 0 6011, .pollNowReturns 0 6012]

/-- A refresh may return what a poll of the background reads whose request was sent before. -/
theorem refresh_joins :
    ¬ ∀ (_ : Runtime) (file : FileText) (s₀ s₁ s : Poller) (uuid : String),
      s₀.Reachable file → s₀.step (.pollNow (refreshOptions uuid)) = some s₁ →
        Reaches Poller.step Always s₁ s → ∀ q, s.pollNows[s₀.pollNows.length]? = some q →
          ∀ r, q.Collected r → s.ReadBy r fun t => s₀.isPastRequest t = false := by
  intro hall
  obtain ⟨t, c, creator, -, htask, hfresh⟩ := hall plainRuntime plugConfig _ _ _ "u"
    (reaches_run backgroundPoll (along_always _ _) rfl) rfl
    (reaches_run joiningRefresh (along_always _ _) rfl) _ rfl (.state _) List.mem_cons_self
  cases t with
  | zero => exact absurd hfresh (by decide)
  | succ t => cases htask

/-- The refresh of that run. -/
theorem fresh_or_joined_plug : let _ := plainRuntime; ∃ s₀ s q,
    run Poller.step backgroundPoll (Poller.init plugConfig) = some s₀ ∧
    run Poller.step (.pollNow (refreshOptions "u") :: joiningRefresh) s₀ = some s ∧
    s.pollNows[0]? = some q ∧ ∀ r, q.Collected r → s.ReadBy r fun t =>
      s₀.isPastRequest t = false ∨ s₀.inFlight.entries.get r.uuid = some t := by
  let _ := plainRuntime
  refine ⟨_, _, _, rfl, rfl, rfl, fun r hr => ?_⟩
  exact fresh_or_joined plugConfig _ _ _ (refreshOptions "u")
    (reaches_run backgroundPoll (along_always _ _) rfl) rfl
    (reaches_run joiningRefresh (along_always _ _) rfl) _ rfl r hr

/-- Two refreshes of a plug share one poll. -/
theorem single_flight_plug : let _ := plainRuntime; ∃ p,
    run Poller.step (backgroundPoll ++ [.pollNow (refreshOptions "u"), .pollNowSyncs 0 6004,
      .pollNowStarts 0 6005]) (Poller.init plugConfig) = some p ∧
    p.inFlight.calls.length = 2 ∧ Shared p.inFlight ∧ Shared p.telemetryInFlight := by
  let _ := plainRuntime
  have hrun := single_flight plugConfig _ (reaches_run (backgroundPoll
    ++ [.pollNow (refreshOptions "u"), .pollNowSyncs 0 6004, .pollNowStarts 0 6005])
    (along_always _ _) rfl)
  exact ⟨_, rfl, rfl, hrun.1, hrun.2.1⟩

end Merossity
