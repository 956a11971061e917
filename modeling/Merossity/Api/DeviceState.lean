import Merossity.Api.CommandHandlers
import Merossity.Poller.Accounts
import Merossity.Poller.NormalForm

/-!
The handler for the state of a device: `get-device-state.ts`.

* `createGetDeviceStateHandler` asks the device itself. With a poller, the handler awaits a call of
  `pollNow`, and answers what `polledAnswer` makes of its outcome.
* `stateAnswer_of_reading`: both read the same off a reply of the device.
* `Gives` is the outcome of a program in surroundings that do not change, and `Polled` the invariant
  of the polls of the device in a run of the poller in such surroundings.
* `device_state_agrees`: with the same configuration and the same reply of the device, both answer
  with the same data, or both with an error.
-/

namespace Merossity

open Js Machine

/-! ### The handlers -/

/-- What both handlers read off the request: the device and the channel, or an answer. -/
def stateRequest (req : Request) : Except String (Except Response (String × ℕ)) := do
  let body := parseJsonBody req
  let uuid ← toText (coalesce (body.get? "uuid") (some (.str "")))
  let channel ← channelField body
  if uuid = "" then return .error (apiErr "Missing uuid" "missing_uuid")
  else match channel.natural? with
    | none => return .error (apiErr "Invalid channel" "invalid_channel")
    | some channel => return .ok (uuid, channel)

/-- `lightMatch ?? toggleMatch`: the channel and its switch. -/
def channelMatch (channels : List LanToggleXState) (lights : List LanLightState) (channel : ℕ) :
    Option (ℕ × Bool) :=
  let toggleMatch := channels.find? fun t => t.channel = channel
  let lightMatch := lights.find? fun t => t.channel = channel
  (lightMatch.map fun t => (t.channel, t.onoff)).or (toggleMatch.map fun t => (t.channel, t.onoff))

/-- The data of an answer. -/
def stateData (host : Json) (kind : DeviceKind) (channel : ℕ) (onoff : Bool)
    (channels : List LanToggleXState) (lights : List LanLightState) (light : Option LanLightState)
    (timerxDigest triggerxDigest : List LanScheduleDigestEntry) : Fields :=
  [("host", host), ("kind", .str kind.text), ("channel", natJson channel),
    ("onoff", onoffJson onoff), ("channels", .arr (channels.map LanToggleXState.json)),
    ("lights", .arr (lights.map LanLightState.json)),
    ("light", (light.map LanLightState.json).getD .null),
    ("timerxDigest", .arr (timerxDigest.map LanScheduleDigestEntry.json)),
    ("triggerxDigest", .arr (triggerxDigest.map LanScheduleDigestEntry.json))]

/-- The answer once `pollNow` has returned, with a poller. -/
def polledAnswer (uuid : String) (channel : ℕ) (result : PollNow) : Response :=
  match result.errors.find? fun e => e.uuid = uuid with
  | some failed => apiErr failed.message failed.code
  | none => match result.states.find? fun s => s.uuid = uuid with
    | none => apiErr "State unavailable" "state_unavailable"
    | some state => match channelMatch state.channels state.lights channel with
      | none => apiErr "Channel not found" "state_unavailable"
      | some (channel, onoff) => apiOk (stateData (.str state.host) state.kind channel onoff
          state.channels state.lights state.light state.timerxDigest state.triggerxDigest)

/-- `createGetDeviceStateHandler`, with a poller: the answer, once call `i` of `pollNow` has
returned. -/
def Poller.deviceStateAnswer (p : Poller) (i : ℕ) (uuid : String) (channel : ℕ) : Option Response :=
  (p.pollNows[i]?).bind fun q => match q.phase with
    | .returned _ => some (polledAnswer uuid channel q)
    | _ => none

variable [Runtime]

/-- What the handler without a poller makes of the reply of the device. -/
def stateAnswer (host : Json) (channel : ℕ) (data : Json) : Except String Response := do
  let togglex ← extractLanToggleX data
  let lights := (← extractLanLight data).getD []
  let timerxDigest ← extractLanTimerXDigest data
  let triggerxDigest ← extractLanTriggerXDigest data
  return match channelMatch (togglex.getD []) lights channel with
    | none => apiErr "State not found in Appliance.System.All digest" "state_unavailable"
    | some (channel, onoff) =>
        let light0 := (lights.find? fun l => l.channel = 0).or lights.head?
        let ch0 := togglex.bind fun l => (l.find? fun c => c.channel = 0).or l.head?
        let kind := match light0, ch0 with
          | some _, some _ => DeviceKind.mixed
          | some _, none => DeviceKind.light
          | none, _ => DeviceKind.togglex
        apiOk (stateData host kind channel onoff (togglex.getD []) lights light0 timerxDigest
          triggerxDigest)

/-- `createGetDeviceStateHandler`, without a poller. -/
def createGetDeviceStateHandler (req : Request) : Async Response := do
  match ← eval (stateRequest req) with
  | .error answer => return answer
  | .ok (uuid, channel) =>
      tryCatch (do
        let host ← requireLanHost uuid
        let key ← requireLanKey
        let data ← getSystemAll host key (some (.fin 3000))
        eval (stateAnswer host channel data)) lanError

/-! ### What is read off a reply -/

omit [Runtime] in
/-- The channels of a digest are sorted. -/
lemma sortedBy_extractLanToggleX {resp : Json} {channels : List LanToggleXState}
    (h : extractLanToggleX resp = .ok (some channels)) :
    SortedBy LanToggleXState.channel channels := by
  rw [extractLanToggleX] at h
  obtain ⟨out, -, h⟩ := bind_eq_ok h
  obtain ⟨l, -, rfl⟩ := Option.map_eq_some_iff.mp (Except.ok.inj h)
  exact sortedBy_sortByChannel _ l

omit [Runtime] in
/-- The poller sorts the channels once more, which changes nothing. -/
lemma normalizeChannels_eq {resp : Json} {togglex : Option (List LanToggleXState)}
    (h : extractLanToggleX resp = .ok togglex) :
    normalizeChannels (togglex.getD []) = togglex.getD [] := by
  cases togglex with
  | none => rfl
  | some channels => exact (sortedBy_extractLanToggleX h).sort_eq

/-- Where the poller reads a state off a reply, the other handler answers with its data, or that the
channel is not there. -/
lemma stateAnswer_of_reading {host : String} {data : Json} {r : DeviceReading}
    (h : deviceReading host data = .ok r) (channel : ℕ) : stateAnswer (.str host) channel data =
      .ok (match channelMatch r.channels r.lights channel with
        | none => apiErr "State not found in Appliance.System.All digest" "state_unavailable"
        | some (channel, onoff) => apiOk (stateData (.str r.host) r.kind channel onoff r.channels
            r.lights r.light r.timerxDigest r.triggerxDigest)) := by
  rw [deviceReading] at h
  obtain ⟨togglex, htogglex, h⟩ := bind_eq_ok h
  obtain ⟨lights, hlights, h⟩ := bind_eq_ok h
  rw [normalizeChannels_eq htogglex] at h
  dsimp only at h
  split at h
  next => cases h
  next =>
    split at h
    next => cases h
    next =>
      obtain ⟨timerx, htimerx, h⟩ := bind_eq_ok h
      obtain ⟨triggerx, htriggerx, h⟩ := bind_eq_ok h
      obtain rfl := Except.ok.inj h
      rw [stateAnswer, htogglex, hlights, htimerx, htriggerx]
      refine congrArg Except.ok ?_
      cases togglex with
      | none => rfl
      | some channels => rfl

omit [Runtime] in
/-- The item that stands for a list: that of channel `0`, or the first one. -/
lemma exists_primary {α : Type} {l : List α} (h : l ≠ []) (test : α → Bool) :
    ∃ a, (l.find? test).or l.head? = some a := by
  obtain ⟨a, rest, rfl⟩ := List.exists_cons_of_ne_nil h
  cases (a :: rest).find? test with
  | none => exact ⟨a, rfl⟩
  | some b => exact ⟨b, rfl⟩

/-- Where the other handler answers with a state, the poller reads one. -/
lemma reading_of_stateAnswer {host : String} {data : Json} {channel : ℕ} {answer : Response}
    (h : stateAnswer (.str host) channel data = .ok answer) (hok : answer.isOk = true) :
    ∃ r, deviceReading host data = .ok r := by
  rw [stateAnswer] at h
  obtain ⟨togglex, htogglex, h⟩ := bind_eq_ok h
  obtain ⟨lights, hlights, h⟩ := bind_eq_ok h
  obtain ⟨timerx, htimerx, h⟩ := bind_eq_ok h
  obtain ⟨triggerx, htriggerx, h⟩ := bind_eq_ok h
  obtain rfl := Except.ok.inj h
  -- a channel was found, so that there is a light or a switch
  have hfound : lights.getD [] ≠ [] ∨ togglex.getD [] ≠ [] := by
    by_contra! hnone
    rw [hnone.1, hnone.2] at hok
    cases hok
  have hempty : ¬ ((togglex.getD []).isEmpty && (lights.getD []).isEmpty) = true := by
    rw [Bool.and_eq_true, List.isEmpty_iff, List.isEmpty_iff]
    tauto
  obtain ⟨c, o, hprimary⟩ : ∃ c o, ((((lights.getD []).find? fun l => l.channel = 0).or
      (lights.getD []).head?).map fun l => (l.channel, l.onoff)).or
      ((((togglex.getD []).find? fun c => c.channel = 0).or (togglex.getD []).head?).map
        fun c => (c.channel, c.onoff)) = some (c, o) := by
    by_cases hnil : lights.getD [] = []
    · obtain ⟨t, ht⟩ := exists_primary (hfound.resolve_left (not_not.mpr hnil))
        fun c => decide (c.channel = 0)
      exact ⟨t.channel, t.onoff, by rw [hnil, ht]; rfl⟩
    · obtain ⟨l, hl⟩ := exists_primary hnil fun l => decide (l.channel = 0)
      exact ⟨l.channel, l.onoff, by rw [hl]; rfl⟩
  cases hread : deviceReading host data with
  | ok r => exact ⟨r, rfl⟩
  | error m =>
      simp only [deviceReading, htogglex, hlights, htimerx, htriggerx,
        normalizeChannels_eq htogglex, bind, Except.bind, hempty, hprimary] at hread
      cases hread

/-! ### Fixed replies -/

/-- The configuration file stays as it is, and every message to the device gets the same reply. -/
def fixedReply (file : FileText) (fetch : FetchReply) : (c : Call) → Reply c
  | .readFile => file
  | .fetchConfig _ => fetch
  | c => silence c

/-- A call to the configuration file or to the device. -/
def Call.fixed : Call → Prop
  | .readFile => True
  | .fetchConfig _ => True
  | _ => False

/-- With these replies, and no other calls, the program has this outcome. -/
structure Gives {α : Type} (file : FileText) (fetch : FetchReply) (p : Async α)
    (out : Except JsError α) : Prop where
  yields : p.run.Yields (fixedReply file fetch) Call.fixed out

/-- A configuration with a host of the device and a key. -/
structure Configured (file : FileText) (uuid host : String) (lanKey : Json) : Prop where
  host : (knownHostOf (hostOf (loadMerossConfig file) uuid)).map KnownHost.host = some host
  key : Json.opt ((loadMerossConfig file).get? "cloud") "key" = some lanKey
  truthy : truthy (some lanKey) = true

/-- The outcome of a message to a device. -/
def received (lanKey : Json) (fetch : FetchReply) : Except String Json :=
  lanKey.toText.bind fun _ => receive fetch

/-- A thrown `TypeError`. -/
def thrown {α : Type} (e : Except String α) : Except JsError α :=
  e.mapError fun message => { message }

/-- The answer of the handler without a poller. -/
def directAnswer (host : String) (channel : ℕ) (data : Except String Json) : Response :=
  match data.bind (stateAnswer (.str host) channel) with
  | .ok answer => answer
  | .error message => apiErr message "lan_error"

section Gives

variable {file : FileText} {fetch : FetchReply} {uuid host : String} {lanKey : Json}

omit [Runtime] in
lemma gives_pure {α : Type} (a : α) : Gives file fetch (pure a) (.ok a) := ⟨rfl⟩

omit [Runtime] in
lemma gives_eval {α : Type} (e : Except String α) : Gives file fetch (eval e) (thrown e) := ⟨rfl⟩

omit [Runtime] in
lemma gives_bind {α β : Type} {p : Async α} {f : α → Async β} {a : α} {out : Except JsError β}
    (hp : Gives file fetch p (.ok a)) (hf : Gives file fetch (f a) out) :
    Gives file fetch (p >>= f) out :=
  ⟨Prog.yields_bind_ok hp.yields hf.yields⟩

omit [Runtime] in
/-- A synchronous expression at the end. -/
lemma gives_bind_eval {α β : Type} {p : Async α} {f : α → Except String β} {out : Except String α}
    (hp : Gives file fetch p (thrown out)) :
    Gives file fetch (p >>= fun a => eval (f a)) (thrown (out.bind f)) := by
  cases out with
  | ok a => exact gives_bind hp (gives_eval (f a))
  | error m => exact ⟨Prog.yields_bind_error hp.yields⟩

omit [Runtime] in
lemma gives_readConfig : Gives file fetch readConfig (.ok (loadMerossConfig file)) :=
  ⟨trivial, rfl⟩

omit [Runtime] in
lemma gives_requireHost (h : Configured file uuid host lanKey) :
    Gives file fetch (requireHost (loadMerossConfig file) uuid) (.ok host) := by
  obtain ⟨known, hknown, rfl⟩ := Option.map_eq_some_iff.mp h.host
  rw [requireHost, hknown]
  exact gives_pure known.host

omit [Runtime] in
/-- The host of an entry is a text that is not empty. -/
lemma host_of_knownHostOf {entry : Option Json} {known : KnownHost}
    (h : knownHostOf entry = some known) :
    Json.opt entry "host" = some (.str known.host) ∧ known.host ≠ "" := by
  rw [knownHostOf] at h
  split at h
  next text htext =>
    split at h
    next => cases h
    next hne =>
      obtain rfl := Option.some.inj h
      exact ⟨htext, hne⟩
  next => cases h

omit [Runtime] in
lemma gives_requireLanHost (h : Configured file uuid host lanKey) :
    Gives file fetch (requireLanHost uuid) (.ok (.str host)) := by
  obtain ⟨known, hknown, rfl⟩ := Option.map_eq_some_iff.mp h.host
  obtain ⟨hhost, hne⟩ := host_of_knownHostOf hknown
  have htruthy : truthy (some (.str known.host)) = true := by simpa [truthy] using hne
  refine gives_bind gives_readConfig ?_
  dsimp only
  rw [hhost, if_pos htruthy]
  exact gives_pure _

omit [Runtime] in
lemma gives_requireLanKey (h : Configured file uuid host lanKey) :
    Gives file fetch requireLanKey (.ok lanKey) := by
  refine gives_bind gives_readConfig ?_
  dsimp only
  rw [h.key, if_pos h.truthy]
  exact gives_pure lanKey

omit [Runtime] in
/-- What the program returns in such surroundings. -/
lemma Gives.run_eq {α : Type} {p : Async α} {out : Except JsError α} (h : Gives file fetch p out)
    {env : Environment} (hfile : ∀ tr, env tr .readFile = file)
    (hfetch : ∀ tr req, env tr (.fetchConfig req) = fetch) : (Prog.run env p.run).1 = out := by
  refine Prog.run_of_yields h.yields fun tr c hc => ?_
  cases c with
  | readFile => exact hfile tr
  | fetchConfig req => exact hfetch tr req
  | _ => cases hc

omit [Runtime] in
/-- A message to the device. -/
lemma gives_getSystemAll (timeoutMs : Option Number) :
    Gives file fetch (getSystemAll (.str host) lanKey timeoutMs)
      (thrown (received lanKey fetch)) := by
  rw [received, getSystemAll, postLan, buildLanMessage]
  cases lanKey.toText with
  | error m => exact ⟨Prog.yields_bind_error rfl⟩
  | ok text => exact gives_bind (gives_eval _) (gives_bind (gives_eval _) ⟨⟨trivial, rfl⟩⟩)

/-- The outcome of a poll. -/
lemma gives_readDevice (h : Configured file uuid host lanKey) (timeoutMs : Option Number) :
    Gives file fetch (readDevice uuid timeoutMs)
      (thrown ((received lanKey fetch).bind (deviceReading host))) :=
  gives_bind gives_readConfig (gives_bind (gives_requireHost h)
    (gives_bind (gives_requireLanKey h) (gives_bind_eval (gives_getSystemAll _))))

/-- The answer of the handler without a poller. -/
lemma gives_stateHandler (h : Configured file uuid host lanKey) {req : Request} {channel : ℕ}
    (hreq : stateRequest req = .ok (.ok (uuid, channel))) :
    Gives file fetch (createGetDeviceStateHandler req)
      (.ok (directAnswer host channel (received lanKey fetch))) := by
  have htry : Gives file fetch (do
      let host ← requireLanHost uuid
      let key ← requireLanKey
      let data ← getSystemAll host key (some (.fin 3000))
      eval (stateAnswer host channel data))
      (thrown ((received lanKey fetch).bind (stateAnswer (.str host) channel))) :=
    gives_bind (gives_requireLanHost h) (gives_bind (gives_requireLanKey h)
      (gives_bind_eval (gives_getSystemAll _)))
  rw [createGetDeviceStateHandler, hreq, directAnswer]
  refine gives_bind (gives_eval _) ?_
  cases hdata : (received lanKey fetch).bind (stateAnswer (.str host) channel) with
  | ok answer =>
      rw [hdata] at htry
      exact ⟨Prog.yields_tryCatch_ok htry.yields lanError⟩
  | error m =>
      rw [hdata] at htry
      exact ⟨Prog.yields_tryCatch_error htry.yields rfl⟩

end Gives

/-! ### What the poller answers -/

/-- Two answers agree: both are errors, or both are the same data. -/
def Response.Agrees (r r' : Response) : Prop := r.isOk = r'.isOk ∧ (r.isOk = true → r = r')

/-- The outcome of a poll is passed on. -/
def PollResult.Tells (out : Except JsError DeviceReading) (r : PollResult) : Prop :=
  match out, r with
  | .ok reading, .state s => s.toDeviceReading = reading
  | .error _, .error _ => True
  | _, _ => False

section Outcomes

variable {uuid : String} {q : PollNow}

omit [Runtime] in
/-- The answer for a reading that is passed on. -/
lemma polledAnswer_of_reading {r : DeviceReading} (hsome : ∃ o, q.Collected o ∧ o.uuid = uuid)
    (htells : ∀ o, q.Collected o → o.uuid = uuid → o.Tells (.ok r)) (channel : ℕ) :
    polledAnswer uuid channel q = match channelMatch r.channels r.lights channel with
      | none => apiErr "Channel not found" "state_unavailable"
      | some (channel, onoff) => apiOk (stateData (.str r.host) r.kind channel onoff r.channels
          r.lights r.light r.timerxDigest r.triggerxDigest) := by
  have herrors : q.errors.find? (fun e => decide (e.uuid = uuid)) = none := by
    rw [List.find?_eq_none]
    intro e he huuid
    exact htells (.error e) he (of_decide_eq_true huuid)
  obtain ⟨o, ho, huuid⟩ := hsome
  cases o with
  | error e => exact absurd (htells _ ho huuid) id
  | state s =>
      cases hfind : q.states.find? fun s => decide (s.uuid = uuid) with
      | none => exact absurd (decide_eq_true huuid) (List.find?_eq_none.mp hfind s ho)
      | some s' =>
          have huuid' : s'.uuid = uuid := by simpa using List.find?_some hfind
          have hsame : s'.toDeviceReading = r :=
            htells (.state s') (List.mem_of_find?_eq_some hfind) huuid'
          rw [polledAnswer, herrors, hfind, ← hsame]

omit [Runtime] in
/-- The answer for a failure that is passed on. -/
lemma isOk_polledAnswer_of_error {e : JsError} (hsome : ∃ o, q.Collected o ∧ o.uuid = uuid)
    (htells : ∀ o, q.Collected o → o.uuid = uuid → o.Tells (.error e)) (channel : ℕ) :
    (polledAnswer uuid channel q).isOk = false := by
  obtain ⟨o, ho, huuid⟩ := hsome
  cases o with
  | state s => exact absurd (htells _ ho huuid) id
  | error e =>
      cases hfind : q.errors.find? fun e => decide (e.uuid = uuid) with
      | none => exact absurd (decide_eq_true huuid) (List.find?_eq_none.mp hfind e ho)
      | some failed =>
          rw [polledAnswer, hfind]
          rfl

/-- Without a reading, the answer of the handler without a poller is an error. -/
lemma isOk_directAnswer_of_error {host : String} {channel : ℕ} {data : Except String Json}
    {m : String} (h : data.bind (deviceReading host) = .error m) :
    (directAnswer host channel data).isOk = false := by
  cases data with
  | error m => rfl
  | ok resp =>
      have hread : deviceReading host resp = .error m := h
      rw [directAnswer, Except.bind]
      cases hanswer : stateAnswer (.str host) channel resp with
      | error m => rfl
      | ok answer =>
          rw [← Bool.not_eq_true]
          intro hok
          obtain ⟨r, hr⟩ := reading_of_stateAnswer hanswer hok
          rw [hread] at hr
          cases hr

/-- The answers to the same reply of the device agree. -/
lemma agrees_of_tells {host : String} {channel : ℕ} {data : Except String Json}
    (hsome : ∃ o, q.Collected o ∧ o.uuid = uuid) (htells : ∀ o, q.Collected o → o.uuid = uuid →
      o.Tells (thrown (data.bind (deviceReading host)))) :
    (polledAnswer uuid channel q).Agrees (directAnswer host channel data) := by
  cases hout : data.bind (deviceReading host) with
  | error m =>
      rw [hout] at htells
      have hdirect : (directAnswer host channel data).isOk = false :=
        isOk_directAnswer_of_error hout
      have hpolled := isOk_polledAnswer_of_error hsome htells channel
      exact ⟨hpolled.trans hdirect.symm, fun hok => by rw [hpolled] at hok; cases hok⟩
  | ok reading =>
      rw [hout] at htells
      rw [polledAnswer_of_reading hsome htells channel]
      cases data with
      | error m => cases hout
      | ok resp =>
          have hread : deviceReading host resp = .ok reading := hout
          rw [directAnswer, Except.bind, stateAnswer_of_reading hread channel]
          cases channelMatch reading.channels reading.lights channel with
          | none => exact ⟨rfl, fun hok => by cases hok⟩
          | some found => exact ⟨rfl, fun _ => rfl⟩

end Outcomes

/-! ### Runs with fixed replies -/

namespace Poller

/-- The configuration file stays as it is, and the messages of the polls of the device get the same
reply. -/
def Steady (uuid : String) (fetch : FetchReply) (p : Poller) (a : Act) : Prop :=
  (∀ p', p.step a = some p' → p'.file = p.file) ∧
    ∀ t reply now random task, a = .pollGoesOn t reply now random →
      p.inFlight.running t = some (uuid, task) → ∀ req, reply (.fetchConfig req) = fetch

/-- The polls of the device that are newer than the first `n` polls have the outcome `out`, and so
will those under way. -/
structure Polled (file : FileText) (uuid : String) (fetch : FetchReply) (n : ℕ)
    (out : Except JsError DeviceReading) (p : Poller) : Prop where
  keeps : p.file = file
  running : ∀ t task, p.inFlight.running t = some (uuid, task) →
    task.prog.Yields (fixedReply file fetch) Call.fixed out
  settled : ∀ (t : ℕ) r, n ≤ t → p.inFlight.tasks[t]? = some ⟨uuid, .settled r⟩ → r.Tells out

variable {file : FileText} {uuid host : String} {lanKey : Json} {fetch : FetchReply} {n : ℕ}
  {out : Except JsError DeviceReading} {p p' : Poller} {a : Act}

omit [Runtime] in
/-- A program goes on to the outcome that it has. -/
lemma yields_of_resume {α : Type} {prog prog' : Prog Call Reply α} {b : α}
    {reply : (c : Call) → Reply c} (hfile : p.file = file)
    (hreply : ∀ req, reply (.fetchConfig req) = fetch)
    (hprog : prog.Yields (fixedReply file fetch) Call.fixed b)
    (h : p.resume reply prog = some prog') :
    prog'.Yields (fixedReply file fetch) Call.fixed b := by
  obtain ⟨c, k, rfl, rfl⟩ := resume_eq_some h
  obtain ⟨hc, hk⟩ := hprog
  cases c with
  | readFile => exact hfile ▸ hk
  | fetchConfig req => exact hreply req ▸ hk
  | _ => cases hc

lemma Polled.step (hconf : Configured file uuid host lanKey)
    (hout : out = thrown ((received lanKey fetch).bind (deviceReading host)))
    (hp : p.Polled file uuid fetch n out) (hsteady : p.Steady uuid fetch a)
    (h : p.step a = some p') : p'.Polled file uuid fetch n out where
  keeps := (hsteady.1 p' h).trans hp.keeps
  running t task ht := by
    refine running_step (P := fun u prog => u = uuid →
      prog.Yields (fixedReply file fetch) Call.fixed out) ?_ ?_
      (fun t u task ht hu => hp.running t task (hu ▸ ht)) h t uuid task ht rfl
    · rintro u timeoutMs rfl
      rw [hout]
      exact (gives_readDevice hconf timeoutMs).yields
    · rintro i reply now random u d prog ha hrun hprog hresume - rfl
      exact yields_of_resume hp.keeps (hsteady.2 i reply now random d ha hrun) (hprog rfl) hresume
  settled t r hn ht := by
    rcases settled_step h ht with ht | ⟨c, hc, -, rfl, rfl⟩
    · exact hp.settled t r hn ht
    · obtain ⟨reply, random, task, ha, hrun, hresume, -, -⟩ := completion_eq_some hc
      have hyields := yields_of_resume hp.keeps (hsteady.2 _ _ _ _ task ha hrun)
        (hp.running c.task task hrun) hresume
      have houtcome : c.outcome = out := hyields
      rw [resultOf, ← houtcome]
      cases hok : c.outcome with
      | ok reading => exact congrArg Prod.fst (visible_stored_reading hok)
      | error e => trivial

section

variable {file₀ : FileText} {p₀ p₁ : Poller} (h₀ : p₀.Reachable file₀)
  (hidle : p₀.inFlight.entries.get uuid = none)
  (hbegin : p₀.step (.pollNow (refreshOptions uuid)) = some p₁)

include h₀ hidle hbegin

/-- All polls of the device after the call has begun are new. -/
lemma polled_of_begin :
    p₁.Polled p₀.file uuid fetch p₀.inFlight.tasks.length out := by
  obtain rfl := Option.some.inj hbegin
  refine ⟨rfl, fun t task ht => ?_, fun t r hn ht => ?_⟩
  · rw [h₀.flightsInv.1.registered t uuid task ht] at hidle
    cases hidle
  · exact absurd (List.getElem?_eq_some_iff.mp ht).1 (not_lt.mpr hn)

/-- **The answer of the poller**, whenever the call returns. -/
theorem agrees_of_returned (hconf : Configured p₀.file uuid host lanKey)
    (hnamed : uuid ∈ (refreshOptions uuid).named)
    (h : Reaches Poller.step (Steady uuid fetch) p₁ p) {q : PollNow} {now : ℤ}
    (hq : p.pollNows[p₀.pollNows.length]? = some q) (hphase : q.phase = .returned now)
    (channel : ℕ) : (polledAnswer uuid channel q).Agrees
      (directAnswer host channel (received lanKey fetch)) := by
  have hpolled : p.Polled p₀.file uuid fetch p₀.inFlight.tasks.length
      (thrown ((received lanKey fetch).bind (deviceReading host))) :=
    h.invariant (I := Polled p₀.file uuid fetch p₀.inFlight.tasks.length _)
      (polled_of_begin h₀ hidle hbegin) fun p a p' hp hsteady hstep =>
        hp.step hconf rfl hsteady hstep
  have hreach : p.Reachable file₀ := (h₀.tail _ trivial hbegin).trans h.always
  have hbegun : p₁.pollNows[p₀.pollNows.length]? =
      some ⟨refreshOptions uuid, .syncing, [], []⟩ := by
    obtain rfl := Option.some.inj hbegin
    simp
  obtain ⟨q', hq', hoptions⟩ := options_of_reaches h hbegun
  obtain rfl := Option.some.inj (hq.symm.trans hq')
  refine agrees_of_tells (hreach.outcome_of_named (List.mem_of_getElem? hq) hphase
    (hoptions ▸ hnamed)) fun o ho huuid => ?_
  obtain ⟨t, c, creator, -, htask, hnew⟩ :=
    (refreshInv_of_reaches h₀ hbegin h.always).readBy hq ho
  rw [huuid] at htask hnew
  rcases hnew with hregistered | hnew
  · rw [hidle] at hregistered
    cases hregistered
  · exact hpolled.settled t o hnew htask

end

/-! ### The call can return -/

/-- A refresh of one device starts one worker, which polls the device. -/
lemma startPollNow_refresh (htrim : trim uuid = uuid) (hne : uuid ≠ "") (p : Poller) (i : ℕ)
    {q : PollNow} (hq : q.options = refreshOptions uuid) (now : ℤ) :
    p.startPollNow i q now = (Poller.pollDevice { p with
        metaByUuid := boostMeta p.metaByUuid uuid now } uuid .manual none now).setPollNow i
      { q with phase := .polling [] [.awaiting p.inFlight.calls.length] } := by
  have hrequested : p.requestedUuids q.options = [uuid] := by
    rw [hq, refreshOptions, requestedUuids]
    simp [htrim, hne, List.eraseDups_cons]
  have hworkers : ∀ b : Poller, startWorkers q.options now 1 b [uuid] =
      (b.pollDevice uuid .manual none now, [], [.awaiting b.inFlight.calls.length]) := by
    intro b
    simp only [startWorkers, takeNext, if_neg hne, hq]
    rfl
  have hcount : max 1 (min POLL_MAX_CONCURRENCY (max 1 [uuid].length)) = 1 := rfl
  simp only [startPollNow, hrequested, hcount, List.foldl_cons, List.foldl_nil, hworkers]

/-- A step that leaves the file as it is, and is not one of a poll. -/
lemma steady_of_file (h : p.step a = some p') (hfile : p'.file = p.file)
    (ha : ∀ t reply now random, a ≠ .pollGoesOn t reply now random) : p.Steady uuid fetch a :=
  ⟨fun p'' h' => by rw [← Option.some.inj (h.symm.trans h')]; exact hfile,
    fun t reply now random _ hpoll => absurd hpoll (ha t reply now random)⟩

/-- A step of a poll with a fixed reply. -/
lemma steady_pollGoesOn (t : ℕ) (now : ℤ) (random : ℚ) :
    p.Steady uuid fetch (.pollGoesOn t (fixedReply file fetch) now random) := by
  refine ⟨fun p' h => ?_, fun i reply now random task ha _ req => ?_⟩
  · cases stretch_of_step h with
    | pollFails t reply now random uuid task e ht =>
        obtain ⟨resolving, recoveries, metas, heq⟩ :=
          applyFailure_eq p t uuid task e.message now random
        rw [heq]
        rfl
    | _ => rfl
  · obtain ⟨rfl, rfl, rfl, rfl⟩ := Act.pollGoesOn.inj ha
    rfl

/-- A call whose one worker awaits a call that has returned returns as well. -/
lemma exists_returned_of_result (fetch : FetchReply) {i c : ℕ} {q : PollNow} {r : PollResult}
    (hq : p.pollNows[i]? = some q) (hphase : q.phase = .polling [] [.awaiting c])
    (hres : (p.inFlight.calls[c]?).bind Flight.Call.result = some r) : ∃ p' q now,
    Reaches Poller.step (Steady uuid fetch) p p' ∧ p'.pollNows[i]? = some q ∧
      q.phase = .returned now := by
  obtain ⟨hi, -⟩ := List.getElem?_eq_some_iff.mp hq
  -- the worker collects the outcome, and ends
  have hworks : p.step (.workerGoesOn i 0 0) =
      some (p.setPollNow i { collect q r with phase := .polling [] [.finished] }) := by
    simp only [step, workerGoesOn, hq, hphase, List.getElem?_cons_zero, hres]
    rfl
  have hq' : (p.setPollNow i { collect q r with phase := .polling [] [.finished] }).pollNows[i]? =
      some { collect q r with phase := .polling [] [.finished] } := List.getElem?_set_self hi
  have hreturns : (p.setPollNow i { collect q r with phase := .polling [] [.finished] }).step
      (.pollNowReturns i 0) = some ((p.setPollNow i { collect q r with
        phase := .polling [] [.finished] }).setPollNow i { collect q r with
          phase := .returned 0 }) := by
    simp only [step, hq']
    rfl
  refine ⟨_, { collect q r with phase := .returned 0 }, 0, .head _ ?_ hworks (.head _ ?_ hreturns
    .refl), ?_, rfl⟩
  · exact steady_of_file hworks rfl (by simp)
  · exact steady_of_file hreturns rfl (by simp)
  · simp [setPollNow, hi]

/-- A call whose one worker awaits a poll that has settled can return. -/
lemma exists_returned_of_settled (fetch : FetchReply) {i c t : ℕ} {q : PollNow} {creator : Bool}
    {r : PollResult}
    (hq : p.pollNows[i]? = some q) (hphase : q.phase = .polling [] [.awaiting c])
    (hcall : p.inFlight.calls[c]? = some ⟨uuid, t, creator, none⟩)
    (hsettled : p.inFlight.tasks[t]? = some ⟨uuid, .settled r⟩) : ∃ p' q now,
    Reaches Poller.step (Steady uuid fetch) p p' ∧ p'.pollNows[i]? = some q ∧
      q.phase = .returned now := by
  obtain ⟨p₁, hreturns, hres, hpollNows, hfile⟩ := step_leaves hcall hsettled
  obtain ⟨p', q', now, hreach, hq', hphase'⟩ :=
    exists_returned_of_result fetch (hpollNows ▸ hq) hphase hres
  exact ⟨p', q', now, .head _ (steady_of_file hreturns hfile (by simp)) hreturns hreach, hq',
    hphase'⟩

/-- When none of the device is under way, the call starts a poll, which its worker awaits. -/
lemma exists_polling {p₀ p₁ : Poller} (hbegin : p₀.step (.pollNow (refreshOptions uuid)) = some p₁)
    (htrim : trim uuid = uuid) (hne : uuid ≠ "") (fetch : FetchReply) : ∃ p,
    Reaches Poller.step (Steady uuid fetch) p₁ p ∧
      p.pollNows[p₀.pollNows.length]? = some ⟨refreshOptions uuid,
        .polling [] [.awaiting p₀.inFlight.calls.length], [], []⟩ ∧
      p.inFlight = p₀.inFlight.enter uuid ⟨.manual, 0, (readDevice uuid none).run⟩ := by
  obtain ⟨hq₁, hflight₁⟩ : p₁.pollNows[p₀.pollNows.length]? =
      some ⟨refreshOptions uuid, .syncing, [], []⟩ ∧ p₁.inFlight = p₀.inFlight := by
    obtain rfl := Option.some.inj hbegin
    exact ⟨by simp, rfl⟩
  -- `pollNow` reads the configuration
  obtain ⟨p₂, hsyncs, hq₂, hflight₂, hfile₂⟩ : ∃ p₂,
      p₁.step (.pollNowSyncs p₀.pollNows.length 0) = some p₂ ∧
        p₂.pollNows[p₀.pollNows.length]? = some ⟨refreshOptions uuid, .synced, [], []⟩ ∧
        p₂.inFlight = p₀.inFlight ∧ p₂.file = p₁.file := by
    refine ⟨(p₁.syncKnownHosts 0).setPollNow p₀.pollNows.length
      ⟨refreshOptions uuid, .synced, [], []⟩, by simp only [step, hq₁], ?_, hflight₁, rfl⟩
    exact List.getElem?_set_self (List.getElem?_eq_some_iff.mp hq₁).1
  -- then it starts its worker
  have hstarts : p₂.step (.pollNowStarts p₀.pollNows.length 0) = some (p₂.startPollNow
      p₀.pollNows.length ⟨refreshOptions uuid, .synced, [], []⟩ 0) := by
    simp only [step, hq₂]
  rw [startPollNow_refresh htrim hne p₂ _ rfl] at hstarts
  refine ⟨_, .head _ (steady_of_file hsyncs hfile₂ (by simp)) hsyncs
    (.head _ (steady_of_file hstarts rfl (by simp)) hstarts .refl), ?_, ?_⟩
  · rw [hflight₂]
    exact List.getElem?_set_self (List.getElem?_eq_some_iff.mp hq₂).1
  · rw [← hflight₂]
    rfl

/-- **The call can return.** -/
theorem exists_returned {p₀ p₁ : Poller} (hidle : p₀.inFlight.entries.get uuid = none)
    (hbegin : p₀.step (.pollNow (refreshOptions uuid)) = some p₁) (htrim : trim uuid = uuid)
    (hne : uuid ≠ "") (fetch : FetchReply) : ∃ p q now,
    Reaches Poller.step (Steady uuid fetch) p₁ p ∧
      p.pollNows[p₀.pollNows.length]? = some q ∧ q.phase = .returned now := by
  obtain ⟨p₂, hpolling, hq, hflight⟩ := exists_polling hbegin htrim hne fetch
  rw [Flight.enter_starts hidle] at hflight
  have hrunning : p₂.inFlight.running p₀.inFlight.tasks.length =
      some (uuid, ⟨.manual, 0, (readDevice uuid none).run⟩) := by
    rw [Flight.running_eq_some, hflight]
    simp
  have hok : ∀ (p : Poller) t, p.Steady uuid fetch
      (.pollGoesOn t (fixedReply p₂.file fetch) 0 0) := fun _ t => steady_pollGoesOn t 0 0
  obtain ⟨p₃, r, hsettles, hsettled, hcalls, hpollNows⟩ :=
    exists_settled hok _ p₂ _ hrunning rfl (by rintro r ⟨⟩)
  have hcall : p₃.inFlight.calls[p₀.inFlight.calls.length]? =
      some ⟨uuid, p₀.inFlight.tasks.length, true, none⟩ := by
    rw [hcalls, hflight]
    simp
  obtain ⟨p, q, now, hreturns, hreturned⟩ :=
    exists_returned_of_settled fetch (hpollNows ▸ hq) rfl hcall hsettled
  exact ⟨p, q, now, hpolling.trans (hsettles.trans hreturns), hreturned⟩

omit [Runtime] in
/-- The answer is there when the call has returned. -/
lemma deviceStateAnswer_eq_some {i channel : ℕ} {polled : Response} :
    p.deviceStateAnswer i uuid channel = some polled ↔ ∃ q now, p.pollNows[i]? = some q ∧
      q.phase = .returned now ∧ polledAnswer uuid channel q = polled := by
  rw [deviceStateAnswer, Option.bind_eq_some_iff]
  constructor
  · rintro ⟨q, hq, hanswer⟩
    split at hanswer
    next now hphase => exact ⟨q, now, hq, hphase, Option.some.inj hanswer⟩
    next => cases hanswer
  · rintro ⟨q, now, hq, hphase, rfl⟩
    exact ⟨q, hq, by rw [hphase]⟩

end Poller

/-! ### Both handlers -/

omit [Runtime] in
/-- A request that is not answered at once names a device. -/
lemma uuid_ne_of_stateRequest {req : Request} {uuid : String} {channel : ℕ}
    (h : stateRequest req = .ok (.ok (uuid, channel))) : uuid ≠ "" := by
  rw [stateRequest] at h
  obtain ⟨text, -, h⟩ := bind_eq_ok h
  obtain ⟨number, -, h⟩ := bind_eq_ok h
  split at h
  next => cases h
  next hne =>
    split at h
    next => cases h
    next =>
      obtain ⟨rfl, -⟩ := Prod.mk.inj (Except.ok.inj (Except.ok.inj h))
      exact hne

/-- **Both handlers agree.** If no poll of the device is under way when the request comes in, and
the configuration and the reply of the device are the same for both, then their answers are the same
data, or both are errors, however the poller gets to its answer; and it can get to one. -/
theorem device_state_agrees (file₀ : FileText) (p₀ p₁ : Poller) (h₀ : p₀.Reachable file₀)
    (req : Request) (uuid host : String) (lanKey : Json) (channel : ℕ)
    (hreq : stateRequest req = .ok (.ok (uuid, channel))) (htrim : trim uuid = uuid)
    (hidle : p₀.inFlight.entries.get uuid = none) (hconf : Configured p₀.file uuid host lanKey)
    (hbegin : p₀.step (.pollNow (refreshOptions uuid)) = some p₁) (fetch : FetchReply)
    (env : Environment) (hfile : ∀ tr, env tr .readFile = p₀.file)
    (hfetch : ∀ tr message, env tr (.fetchConfig message) = fetch) : ∃ answer,
      (Prog.run env (createGetDeviceStateHandler req).run).1 = .ok answer ∧
      (∀ p polled, Reaches Poller.step (Poller.Steady uuid fetch) p₁ p →
        p.deviceStateAnswer p₀.pollNows.length uuid channel = some polled →
          polled.Agrees answer) ∧
      ∃ p polled, Reaches Poller.step (Poller.Steady uuid fetch) p₁ p ∧
        p.deviceStateAnswer p₀.pollNows.length uuid channel = some polled := by
  have hne := uuid_ne_of_stateRequest hreq
  have hnamed : uuid ∈ (refreshOptions uuid).named := by
    simp [refreshOptions, PollOptions.named, htrim, hne]
  refine ⟨_, (gives_stateHandler hconf hreq).run_eq hfile hfetch, ?_, ?_⟩
  · intro p polled hreach hanswer
    obtain ⟨q, now, hq, hphase, rfl⟩ := Poller.deviceStateAnswer_eq_some.mp hanswer
    exact Poller.agrees_of_returned h₀ hidle hbegin hconf hnamed hreach hq hphase channel
  · obtain ⟨p, q, now, hreach, hq, hphase⟩ :=
      Poller.exists_returned hidle hbegin htrim hne fetch
    exact ⟨p, _, hreach, Poller.deviceStateAnswer_eq_some.mpr ⟨q, now, hq, hphase, rfl⟩⟩

omit [Runtime] in
/-- A plug that is configured. -/
lemma configured_plug : Configured plugConfig "u" "10.0.0.9" (.str "k") := ⟨rfl, rfl, rfl⟩

/-- A plug that is on replies. -/
def plugIsOn : FetchReply := .response 200 "OK" "" (.ok (plugReply 1))

/-- A request for its state. -/
def plugRequest : Request := ⟨"application/json", some (.obj [("uuid", .str "u")])⟩

omit [Runtime] in
/-- Both handlers say that the plug is on. -/
theorem device_state_agrees_plug : let _ := plainRuntime; ∃ p₁ answer,
    (Poller.init plugConfig).step (.pollNow (refreshOptions "u")) = some p₁ ∧
      (Prog.run (fun _ => fixedReply plugConfig plugIsOn)
        (createGetDeviceStateHandler plugRequest).run).1 = .ok answer ∧ answer.isOk = true ∧
      (∀ p polled, Reaches Poller.step (Poller.Steady "u" plugIsOn) p₁ p →
        p.deviceStateAnswer 0 "u" 0 = some polled → polled.Agrees answer) ∧
      ∃ p polled, Reaches Poller.step (Poller.Steady "u" plugIsOn) p₁ p ∧
        p.deviceStateAnswer 0 "u" 0 = some polled := by
  let _ := plainRuntime
  obtain ⟨answer, hrun, hagree, hexists⟩ := device_state_agrees plugConfig (Poller.init plugConfig)
    _ .refl plugRequest "u" "10.0.0.9" (.str "k") 0 rfl rfl rfl configured_plug rfl plugIsOn
    (fun _ => fixedReply plugConfig plugIsOn) (fun _ => rfl) fun _ _ => rfl
  refine ⟨_, answer, rfl, hrun, ?_, hagree, hexists⟩
  obtain rfl := Except.ok.inj hrun
  rfl

end Merossity
