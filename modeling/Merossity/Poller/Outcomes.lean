import Merossity.Poller.Readings

/-!
What the store says about the last poll of a device.

* `reflects_iff`: after a poll the entry of its device has the reading, or the error, of that
  poll, unless the poll fails and the device is already stale with another error.
* `attributed`: if every device that answers a poll with a readable state is the one that is
  polled, or does not say which one it is, then so is every device whose reading is shown as
  current. Nothing else in the poller sees to it: a poll does not look at the uuid of the reply.
-/

namespace Merossity

open Js Machine

section

variable [Runtime]

namespace Poller

/-! ### Polls that end -/

lemma step_of_failure {p p' : Poller} {a : Act} {c : Completion} {e : JsError}
    (h : p.step a = some p') (hc : p.completion a = some c) (herror : c.outcome = .error e) :
    ∃ task random, p.inFlight.running c.task = some (c.uuid, task) ∧
      p' = p.applyFailure c.task c.uuid task e.message c.now random := by
  obtain ⟨reply, random, task, rfl, ht, hprog, -, -⟩ := completion_eq_some hc
  rw [herror] at hprog
  rw [step, pollGoesOn, ht] at h
  simp only [hprog, Option.some.injEq] at h
  exact ⟨task, random, ht, h.symm⟩

/-- The entry of a device after a poll of it. -/
lemma get_of_completion {p p' : Poller} {a : Act} {c : Completion} (h : p.step a = some p')
    (hc : p.completion a = some c) : p'.stateByUuid.get c.uuid = some (p.stored c) := by
  rw [step_stateByUuid h, hc]
  exact if_pos rfl

/-- An entry that is not stale has no error. -/
def Clean (p : Poller) : Prop :=
  ∀ uuid s, p.stateByUuid.get uuid = some s → s.stale = false → s.error = none

omit [Runtime] in
lemma Clean.stored {p : Poller} (hp : p.Clean) (c : Completion)
    (hstale : (p.stored c).stale = false) : (p.stored c).error = none := by
  obtain ⟨t, uuid, reason, startedAt, outcome, now⟩ := c
  cases hchanged : hasMaterialStateChange (p.stateByUuid.get uuid)
      (p.nextState ⟨t, uuid, reason, startedAt, outcome, now⟩) with
  | true =>
      rw [stored_of_changed hchanged] at hstale ⊢
      cases outcome with
      | ok reading => rfl
      | error e => cases hstale
  | false =>
      obtain ⟨s, hs, -⟩ := eq_some_of_unchanged hchanged
      rw [hs] at hchanged
      rw [stored_of_unchanged hs hchanged] at hstale ⊢
      cases outcome with
      | ok reading => exact hp uuid s hs hstale
      | error e => exact hp uuid s hs hstale

lemma Clean.step {p p' : Poller} {a : Act} (hp : p.Clean) (h : p.step a = some p') : p'.Clean := by
  intro uuid s hs hstale
  rw [step_stateByUuid h] at hs
  split at hs
  next c _ =>
    split at hs
    next =>
      obtain rfl := Option.some.inj hs
      exact hp.stored c hstale
    next => exact hp uuid s hs hstale
  next => exact hp uuid s hs hstale

lemma Reachable.clean {file : FileText} {p : Poller} (h : p.Reachable file) : p.Clean :=
  h.invariant (fun _ _ hs => by cases hs) fun _ _ _ hp _ hstep => hp.step hstep

/-! ### The last poll -/

/-- The entry of a device reflects the poll `c` that ended in the step `a` from `p` to `p'`. -/
def Reflects (p p' : Poller) (a : Act) (c : Completion) : Prop :=
  match c.outcome with
  | .ok _ => ∃ s host resp, p'.stateByUuid.get c.uuid = some s ∧
      p.delivered a = some (c.uuid, host, resp) ∧
      deviceReading host resp = .ok s.toDeviceReading ∧ s.stale = false ∧ s.error = none
  | .error _ => ∃ s r, p'.stateByUuid.get c.uuid = some s ∧
      p'.inFlight.tasks[c.task]? = some ⟨c.uuid, .settled (.error r)⟩ ∧
      s.stale = true ∧ s.error = some r.message ∧
      s.toDeviceReading = ((p.stateByUuid.get c.uuid).map DeviceStateDto.toDeviceReading).getD
        (p.unknownReading c.uuid)

/-- The poll does not fail while the device is stale with another error. -/
def Renews (p : Poller) (c : Completion) : Prop :=
  ∀ e s, c.outcome = .error e → p.stateByUuid.get c.uuid = some s → s.stale = true →
    s.error = some e.message

/-- A successful poll is reflected. -/
lemma Reachable.reflects_reading {file : FileText} {p p' : Poller} {a : Act} {c : Completion}
    {reading : DeviceReading} (hp : p.Reachable file) (h : p.step a = some p')
    (hc : p.completion a = some c) (hok : c.outcome = .ok reading) : Reflects p p' a c := by
  obtain ⟨host, resp, hd, hreading⟩ := hp.delivered_of_completion hc hok
  obtain ⟨hsame, hstale⟩ := Prod.mk.inj (visible_stored_reading (p := p) hok)
  rw [Reflects, hok]
  exact ⟨p.stored c, host, resp, get_of_completion h hc, hd, by rw [hsame, hreading], hstale,
    hp.clean.stored c hstale⟩

/-- What a failed poll returns. -/
lemma settled_of_failure {p p' : Poller} {a : Act} {c : Completion} {e : JsError}
    (h : p.step a = some p') (hc : p.completion a = some c) (herror : c.outcome = .error e) :
    p'.inFlight.tasks[c.task]? = some ⟨c.uuid, .settled (.error
      { uuid := c.uuid, code := pollCodeFromError e.message, message := e.message,
        «at» := c.now })⟩ := by
  obtain ⟨task, random, ht, rfl⟩ := step_of_failure h hc herror
  obtain ⟨resolving, recoveries, metas, heq⟩ :=
    applyFailure_eq p c.task c.uuid task e.message c.now random
  rw [heq]
  exact (Flight.WellFormed.tasks_advance _ ht).trans (if_pos rfl)

/-- A failed poll is reflected, or the device was stale with another error. -/
lemma reflects_failure_iff {p p' : Poller} {a : Act} {c : Completion} {e : JsError}
    (h : p.step a = some p') (hc : p.completion a = some c) (herror : c.outcome = .error e) :
    Reflects p p' a c ↔ Renews p c := by
  have hget := get_of_completion h hc
  have hsettled := settled_of_failure h hc herror
  have hnext : p.nextState c = p.staleState c.uuid c.reason e.message c.now := by
    rw [nextState, herror]
  rw [Reflects, herror]
  constructor
  · rintro ⟨s', r, hs', hr, -, hsame, -⟩ e' s he hs hstale
    obtain rfl := Except.error.inj (herror.symm.trans he)
    -- nothing that is seen changes, and so the entry stays
    have hvisible : s.visible = (p.nextState c).visible := by
      rw [hnext, staleState, hs]
      exact Prod.ext rfl hstale
    have hchanged := (hasMaterialStateChange_eq_false s (p.nextState c)).mpr hvisible
    have hstored : p.stored c = s := by rw [stored_of_unchanged hs hchanged, herror]
    rw [hget, hstored] at hs'
    rw [hsettled] at hr
    obtain rfl := Option.some.inj hs'
    cases hr
    exact hsame
  · intro hrenews
    refine ⟨p.stored c, _, hget, hsettled, ?_⟩
    cases hchanged : hasMaterialStateChange (p.stateByUuid.get c.uuid) (p.nextState c) with
    | true =>
        rw [stored_of_changed hchanged, hnext]
        exact ⟨rfl, rfl, rfl⟩
    | false =>
        obtain ⟨s, hs, hsame⟩ := eq_some_of_unchanged hchanged
        have hstale : s.stale = true := by
          rw [hnext] at hsame
          exact congrArg Prod.snd hsame
        rw [hs] at hchanged
        rw [stored_of_unchanged hs hchanged, herror, hs]
        exact ⟨hstale, hrenews e s herror hs hstale, rfl⟩

end Poller

/-- **The last poll.** In every reachable state, the entry of a device reflects a poll of it that
ends if and only if the poll does not fail while the device is stale with another error. -/
theorem reflects_iff (file : FileText) (p p' : Poller) (a : Act) (c : Completion)
    (hp : p.Reachable file) (h : p.step a = some p') (hc : p.completion a = some c) :
    Poller.Reflects p p' a c ↔ Poller.Renews p c := by
  cases houtcome : c.outcome with
  | ok reading =>
      refine ⟨fun _ e s he => ?_, fun _ => hp.reflects_reading h hc houtcome⟩
      rw [houtcome] at he
      cases he
  | error e => exact Poller.reflects_failure_iff h hc houtcome

end

/-! ### Two failures -/

/-- The message of a poll that failed. -/
def Completion.failure (c : Completion) : Option String :=
  match c.outcome with
  | .ok _ => none
  | .error e => some e.message

/-- A poll of a device without a host fails, and then one with a host but without a key, up to
the reply that ends it. -/
def twoFailures : List Act :=
  [.pollNow (refreshOptions "u"), .pollNowSyncs 0 10, .pollNowStarts 0 10,
    .pollGoesOn 0 silence 11 0, .pollReturns 0, .workerGoesOn 0 0 12,
    .fileChanges (.json (.obj [("hosts", .obj [("u", .obj [("host", .str "10.0.0.9")])])])),
    .pollNow (refreshOptions "u"), .pollNowSyncs 1 20, .pollNowStarts 1 20,
    .pollGoesOn 1 silence 21 0, .pollGoesOn 1 silence 22 0]

/-- The entry of a device may keep the error of an earlier poll. -/
theorem keeps_old_error : ¬ ∀ (_ : Runtime) (file : FileText) (p p' : Poller) (a : Act)
    (c : Completion), p.Reachable file → p.step a = some p' → p.completion a = some c →
      Poller.Reflects p p' a c := by
  intro hall
  let _ := plainRuntime
  have hrun : (run Poller.step twoFailures (Poller.init .missing)).map (fun p =>
      ((p.step (.pollGoesOn 1 silence 23 0)).isSome,
        (p.completion (.pollGoesOn 1 silence 23 0)).map fun c => (c.uuid, c.failure),
        (p.stateByUuid.get "u").map fun s => (s.stale, s.error))) =
      some (true, some ("u", some "Missing Meross key. Login (cloud) or set MEROSS_KEY."),
        some (true, some "No LAN host known for device uuid. Resolve host first.")) := by
    decide +kernel
  obtain ⟨p, hp, hend⟩ := Option.map_eq_some_iff.mp hrun
  obtain ⟨hstep, hrest⟩ := Prod.mk.inj hend
  obtain ⟨hc, hs⟩ := Prod.mk.inj hrest
  obtain ⟨p', hp'⟩ := Option.isSome_iff_exists.mp hstep
  obtain ⟨c, hc, hfails⟩ := Option.map_eq_some_iff.mp hc
  obtain ⟨huuid, hfails⟩ := Prod.mk.inj hfails
  obtain ⟨s, hs, hstale⟩ := Option.map_eq_some_iff.mp hs
  obtain ⟨hstale, herror⟩ := Prod.mk.inj hstale
  rw [Completion.failure] at hfails
  split at hfails
  next => cases hfails
  next e he =>
    have hreach : p.Reachable .missing := reaches_run twoFailures (along_always _ _) hp
    have hrenews := (Poller.reflects_failure_iff hp' hc he).mp (hall _ _ p p' _ c hreach hp' hc)
    have hsame := hrenews e s he (huuid ▸ hs) hstale
    rw [herror, hfails] at hsame
    exact absurd hsame (by decide)

/-- The first poll of a plug is reflected. -/
theorem reflects_iff_plug : let _ := plainRuntime; ∃ p p' c,
    run Poller.step backgroundPoll (Poller.init plugConfig) = some p ∧
    p.step (.pollGoesOn 0 (deviceSends (plugReply 1)) 6010 0) = some p' ∧
    p.completion (.pollGoesOn 0 (deviceSends (plugReply 1)) 6010 0) = some c ∧
    c.failure = none ∧
    (Poller.Reflects p p' (.pollGoesOn 0 (deviceSends (plugReply 1)) 6010 0) c ↔
      Poller.Renews p c) := by
  let _ := plainRuntime
  have hrun : (run Poller.step backgroundPoll (Poller.init plugConfig)).map (fun p =>
      ((p.step (.pollGoesOn 0 (deviceSends (plugReply 1)) 6010 0)).isSome,
        (p.completion (.pollGoesOn 0 (deviceSends (plugReply 1)) 6010 0)).map
          Completion.failure)) = some (true, some none) := by decide +kernel
  obtain ⟨p, hp, hend⟩ := Option.map_eq_some_iff.mp hrun
  obtain ⟨hstep, hc⟩ := Prod.mk.inj hend
  obtain ⟨p', hp'⟩ := Option.isSome_iff_exists.mp hstep
  obtain ⟨c, hc, hfails⟩ := Option.map_eq_some_iff.mp hc
  exact ⟨p, p', c, hp, hp', hc, hfails, reflects_iff plugConfig p p' _ c
    (reaches_run backgroundPoll (along_always _ _) hp) hp' hc⟩

/-! ### Whose reading it is -/

/-- A reply identifies another device. -/
def Foreign (uuid : String) (resp : Json) : Prop :=
  ∃ other, extractLanUuid resp = some other ∧ other ≠ uuid

/-- The poller, with the reply that the last reading of each device was read off. -/
structure Attributed where
  poller : Poller
  origin : OrdMap String Json

namespace Attributed

def init (file : FileText) : Attributed := ⟨.init file, .empty⟩

variable [Runtime]

/-- The origins after a step. -/
def nextOrigin (s : Attributed) (a : Act) : OrdMap String Json :=
  match s.poller.delivered a with
  | some (uuid, host, resp) => match deviceReading host resp with
    | .ok _ => s.origin.set uuid resp
    | .error _ => s.origin
  | none => s.origin

def step (s : Attributed) (a : Act) : Option Attributed :=
  (s.poller.step a).map fun p => ⟨p, s.nextOrigin a⟩

/-- A device that answers a poll and identifies itself as another one has no readable state. -/
def AnswersItself (s : Attributed) (a : Act) : Prop :=
  ∀ uuid host resp, s.poller.delivered a = some (uuid, host, resp) → Foreign uuid resp →
    ∃ message, deviceReading host resp = .error message

/-- The reading of every device that is not stale was read off a reply, which does not identify
another device. -/
def Owned (s : Attributed) : Prop :=
  ∀ uuid e, s.poller.stateByUuid.get uuid = some e → e.stale = false →
    ∃ host resp, s.origin.get uuid = some resp ∧
      deviceReading host resp = .ok e.toDeviceReading ∧ ¬ Foreign uuid resp

/-- The origin of the device of a poll that ends is the reply it read, and stays if it failed. -/
lemma get_nextOrigin {file : FileText} {s : Attributed} {a : Act} {c : Completion}
    (hreach : s.poller.Reachable file) (hc : s.poller.completion a = some c) (uuid : String) :
    match c.outcome with
    | .ok reading => ∃ host resp, s.poller.delivered a = some (c.uuid, host, resp) ∧
        deviceReading host resp = .ok reading ∧
        (s.nextOrigin a).get uuid = if c.uuid = uuid then some resp else s.origin.get uuid
    | .error _ => s.nextOrigin a = s.origin := by
  cases houtcome : c.outcome with
  | ok reading =>
      obtain ⟨host, resp, hd, hreading⟩ := hreach.delivered_of_completion hc houtcome
      refine ⟨host, resp, hd, hreading, ?_⟩
      rw [nextOrigin, hd]
      simp only [hreading]
      exact OrdMap.get_set _ _ _ _
  | error e =>
      show s.nextOrigin a = s.origin
      rw [nextOrigin]
      split
      next uuid' host resp hd =>
        obtain ⟨c', hc', -, hout⟩ := hreach.completion_of_delivered hd
        rw [hc] at hc'
        obtain rfl := Option.some.inj hc'
        rw [houtcome] at hout
        split
        next reading hreading =>
          rw [hreading] at hout
          cases hout
        next => rfl
      next => rfl

lemma nextOrigin_of_none {file : FileText} {s : Attributed} {a : Act}
    (hreach : s.poller.Reachable file) (hc : s.poller.completion a = none) :
    s.nextOrigin a = s.origin := by
  rw [nextOrigin]
  split
  next uuid host resp hd =>
    obtain ⟨c, hc', -⟩ := hreach.completion_of_delivered hd
    rw [hc] at hc'
    cases hc'
  next => rfl

lemma Owned.step {file : FileText} {s s' : Attributed} {a : Act} (hs : s.Owned)
    (hreach : s.poller.Reachable file) (hok : s.AnswersItself a) (h : s.step a = some s') :
    s'.Owned := by
  obtain ⟨p, hp, rfl⟩ := Option.map_eq_some_iff.mp h
  intro uuid e he hstale
  show ∃ host resp, (s.nextOrigin a).get uuid = some resp ∧ _
  have hget : p.stateByUuid.get uuid = some e := he
  rw [Poller.step_stateByUuid hp] at hget
  cases hc : s.poller.completion a with
  | none =>
      rw [hc] at hget
      rw [nextOrigin_of_none hreach hc]
      exact hs uuid e hget hstale
  | some c =>
      have horigin := get_nextOrigin hreach hc uuid
      rw [hc] at hget
      cases houtcome : c.outcome with
      | ok reading =>
          rw [houtcome] at horigin
          obtain ⟨host, resp, hd, hreading, horigin⟩ := horigin
          rw [horigin]
          dsimp only at hget
          by_cases hkey : c.uuid = uuid
          · rw [if_pos hkey] at hget ⊢
            obtain rfl := Option.some.inj hget
            have hsame := congrArg Prod.fst (Poller.visible_stored_reading (p := s.poller) houtcome)
            refine ⟨host, resp, rfl, by rw [hreading]; exact congrArg _ hsame.symm, fun hf => ?_⟩
            obtain ⟨message, hm⟩ := hok c.uuid host resp hd (hkey ▸ hf)
            rw [hreading] at hm
            cases hm
          · rw [if_neg hkey] at hget ⊢
            exact hs uuid e hget hstale
      | error err =>
          rw [houtcome] at horigin
          rw [horigin]
          dsimp only at hget
          split at hget
          next =>
            obtain rfl := Option.some.inj hget
            rw [Poller.stale_stored_failure houtcome] at hstale
            cases hstale
          next => exact hs uuid e hget hstale

end Attributed

/-- **Whose reading is shown.** In every run in which a device that answers a poll and identifies
itself as another one has no readable state: the reading of every device that is not stale was
read off a reply that does not identify another device, and a reply that does makes the poll it
is delivered to fail. -/
theorem attributed [Runtime] (file : FileText) (s : Attributed)
    (h : Reaches Attributed.step Attributed.AnswersItself (Attributed.init file) s) :
    s.Owned ∧ ∀ a, s.AnswersItself a → ∀ uuid host resp,
      s.poller.delivered a = some (uuid, host, resp) → Foreign uuid resp →
        ∃ c e, s.poller.completion a = some c ∧ c.uuid = uuid ∧ c.outcome = .error e := by
  have hinv : s.poller.Reachable file ∧ s.Owned := by
    refine h.invariant (I := fun s => s.poller.Reachable file ∧ s.Owned)
      ⟨.refl, fun _ _ he => by cases he⟩ ?_
    rintro s a s' ⟨hreach, hs⟩ hok hstep
    refine ⟨?_, hs.step hreach hok hstep⟩
    obtain ⟨p, hp, rfl⟩ := Option.map_eq_some_iff.mp hstep
    exact hreach.tail a trivial hp
  refine ⟨hinv.2, fun a hok uuid host resp hd hf => ?_⟩
  obtain ⟨c, hc, huuid, houtcome⟩ := hinv.1.completion_of_delivered hd
  obtain ⟨message, hm⟩ := hok uuid host resp hd hf
  rw [hm] at houtcome
  exact ⟨c, _, hc, huuid, houtcome⟩

/-- The reply of another plug, which says so. -/
def otherPlugReply : Json :=
  .obj [("payload", .obj [("all", .obj [
    ("system", .obj [("hardware", .obj [("uuid", .str "v")])]),
    ("digest", .obj [("togglex",
      .arr [.obj [("channel", .num (.fin 0)), ("onoff", .num (.fin 1))]])])])])]

/-- The address of a device was given to another one, which is then shown as the device. -/
theorem shows_another_device : ¬ ∀ (_ : Runtime) (file : FileText) (s : Attributed),
    Reaches Attributed.step Always (Attributed.init file) s → s.Owned := by
  intro hall
  let _ := plainRuntime
  have hrun : (run Attributed.step
      (backgroundPoll ++ [.pollGoesOn 0 (deviceSends otherPlugReply) 6010 0])
      (Attributed.init plugConfig)).map (fun s => ((s.origin.get "u").map extractLanUuid,
        (s.poller.stateByUuid.get "u").map fun e => e.stale)) =
      some (some (some "v"), some false) := by decide +kernel
  obtain ⟨s, hs, hend⟩ := Option.map_eq_some_iff.mp hrun
  obtain ⟨horigin, hentry⟩ := Prod.mk.inj hend
  obtain ⟨resp, hresp, hother⟩ := Option.map_eq_some_iff.mp horigin
  obtain ⟨e, he, hstale⟩ := Option.map_eq_some_iff.mp hentry
  obtain ⟨host, resp', hresp', -, hown⟩ :=
    hall _ _ s (reaches_run _ (along_always _ _) hs) "u" e he hstale
  rw [hresp] at hresp'
  obtain rfl := Option.some.inj hresp'
  exact hown ⟨"v", hother, by decide⟩

/-- The reply that is delivered does not identify another device. -/
def Attributed.isOwnReply (s : Attributed) (a : Act) : Bool :=
  match s.poller.delivered a with
  | some (uuid, _, resp) => (extractLanUuid resp).all (· = uuid)
  | none => true

lemma Attributed.answersItself_of_isOwnReply [Runtime] {s : Attributed} {a : Act}
    (h : s.isOwnReply a = true) : s.AnswersItself a := by
  rintro uuid host resp hd ⟨other, hother, hne⟩
  rw [isOwnReply, hd] at h
  simp only [hother, Option.all_some, decide_eq_true_eq] at h
  exact absurd h hne

/-- A poll of a plug that does not say which one it is. -/
def plugAnswers : List Act :=
  backgroundPoll ++ [.pollGoesOn 0 (deviceSends (plugReply 1)) 6010 0]

/-- The reading of that plug. -/
theorem attributed_plug : let _ := plainRuntime; ∃ s,
    run Attributed.step plugAnswers (Attributed.init plugConfig) = some s ∧
    (s.poller.stateByUuid.get "u").map (fun e => e.stale) = some false ∧ s.Owned := by
  let _ := plainRuntime
  have hrun : (run Attributed.step plugAnswers (Attributed.init plugConfig)).map
      (fun s => (s.poller.stateByUuid.get "u").map fun e => e.stale) = some (some false) := by
    decide +kernel
  have hpasses : passes Attributed.step Attributed.isOwnReply plugAnswers
      (Attributed.init plugConfig) = true := by decide +kernel
  obtain ⟨s, hs, hstale⟩ := Option.map_eq_some_iff.mp hrun
  have hown := attributed plugConfig s (reaches_run plugAnswers
    (along_of_passes (fun _ _ => Attributed.answersItself_of_isOwnReply) plugAnswers _ hpasses) hs)
  exact ⟨s, hs, hstale, hown.1⟩

end Merossity
