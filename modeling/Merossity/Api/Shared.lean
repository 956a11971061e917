import Merossity.Lib.Prog
import Merossity.Meross.Config

/-!
What the API handlers share: `api/shared.ts`, `meross/lan/http.ts`, `meross/lan/message.ts`.

A handler is a program in the sense of `Prog`: it calls the file system, the network,
the clock and the poller, and is suspended at every call. `Call` lists these calls,
`Reply` the type of the reply to each, and `Async` is the type of a handler, which may
also throw.

* `readConfig`, `writeConfig`, `requireLanHost`, `requireLanKey` and `postConfig` are
  the functions of that name in the source.
* Writing the file is two calls, `beginWrite` and `endWrite`: the file is not whole in
  between.
* `Makes P` is a program whose calls all satisfy `P`; `lanLog` keeps the messages that a
  run exchanges with a device, and `lanLog_run` reads them off a run.
-/

namespace Merossity

open Js

/-! ### Calls and replies -/

/-- A message to a device. Of its header it has what `buildLanMessage` is given: the
message id and the timestamp are left out, and the key stands for the signature. -/
structure LanMessage where
  ns : String
  method : String
  payload : Json
  key : String

/-- The request of `postConfig`. -/
structure LanRequest where
  host : String
  message : LanMessage
  timeoutMs : Number

/-- What `fetch` gives: a failure, or a response with its body as text and as JSON. -/
inductive FetchReply where
  | failed (message : String)
  | response (status : ℕ) (statusText text : String) (json : Except String Json)

/-- A request of `authenticatedPost`, without its nonce, timestamp and signature. -/
structure CloudRequest where
  scheme : String
  domain : String
  endpoint : String
  params : Json
  authorization : String
  timeoutMs : Number

/-- What the cloud gives: a failure, or a status and the JSON of the body, if it is JSON. -/
inductive CloudReply where
  | failed (message : String)
  | response (status : ℕ) (json : Option Json)

/-- A device that answered during a scan: its address, its reply to `Appliance.System.All`
and the time at which the reply was handled. -/
structure Probe where
  ip : String
  resp : Json
  time : String

/-- The calls of the handlers. -/
inductive Call where
  | readFile
  | makeDirectory
  | beginWrite (base : Json) (edit : ConfigEdit)
  | endWrite (base : Json) (edit : ConfigEdit)
  | nowIso
  | env (name : String)
  | fetchConfig (req : LanRequest)
  | cloudFetch (req : CloudRequest)
  | suggestedCidr
  | pingSweep (cidr : String)
  | runCmd (cmd : List String)
  | probeHosts (ips : List String) (key : Json) (timeoutMs : Number) (workers : ℕ)
  | boostDevice (uuid : String)
  | pollNow (uuid : String)

/-- The reply to each call. The workers of a scan run side by side; their reply is the list of
the devices that answered, in the order in which their replies were handled. -/
abbrev Reply : Call → Type
  | .readFile => FileText
  | .nowIso => String
  | .env _ => Option String
  | .fetchConfig _ => FetchReply
  | .cloudFetch _ => CloudReply
  | .suggestedCidr => Option String
  | .runCmd _ => String
  | .probeHosts .. => List Probe
  | _ => Unit

/-- Surroundings choose the reply to each call, from the calls and replies so far. -/
abbrev Environment : Type := List (Prog.Event Call Reply) → (c : Call) → Reply c

/-- Surroundings in which there is no file, no network and no device. -/
def silence : (c : Call) → Reply c
  | .readFile => .missing
  | .makeDirectory => ()
  | .beginWrite _ _ => ()
  | .endWrite _ _ => ()
  | .nowIso => "1970-01-01T00:00:00.000Z"
  | .env _ => none
  | .fetchConfig _ => .failed "fetch failed"
  | .cloudFetch _ => .failed "fetch failed"
  | .suggestedCidr => none
  | .pingSweep _ => ()
  | .runCmd _ => ""
  | .probeHosts .. => []
  | .boostDevice _ => ()
  | .pollNow _ => ()

/-! ### Errors and responses -/

/-- A thrown error: its message, and for a `MerossCloudError` what the cloud said. -/
structure JsError where
  message : String
  cloud : Option (Option Number × Option Json) := none

/-- The asynchronous functions of the source. -/
abbrev Async (α : Type) : Type := ExceptT JsError (Prog Call Reply) α

/-- Calls out and awaits the reply. -/
def call (c : Call) : Async (Reply c) := ExceptT.lift (Prog.perform c)

/-- `throw new Error(message)`. -/
def throwNew {α : Type} (message : String) : Async α := throw { message }

/-- A synchronous expression that may throw a `TypeError`. -/
def eval {α : Type} (e : Except String α) : Async α :=
  ExceptT.mk (.ret (e.mapError fun message => { message }))

/-- An expression that has not thrown has a value. -/
lemma eq_ok_of_exec_eval {α τ : Type} {e : Except String α} {h : τ → (c : Call) → Reply c × τ}
    {t : τ} {a : α} (hok : (Prog.exec h (eval e).run t).1 = .ok a) : e = .ok a :=
  mapError_eq_ok hok

lemma eq_of_exec_pure {α τ : Type} {b a : α} {h : τ → (c : Call) → Reply c × τ} {t : τ}
    (hok : (Prog.exec h (pure b : Async α).run t).1 = .ok a) : b = a :=
  Except.ok.inj hok

/-- The envelope of a response. -/
inductive Response where
  | ok (data : Json)
  | err (message : String) (code : String) (details : Option Json) (status : ℕ)

/-- `apiOk`. -/
def apiOk (data : Fields) : Response := .ok (.obj data)

/-- `apiErr`. -/
def apiErr (message code : String) (details : Option Json := none) (status : ℕ := 200) :
    Response :=
  .err message code details status

/-- The answer is `{ ok: true, … }`. -/
def Response.isOk : Response → Bool
  | ok _ => true
  | err .. => false

/-- A request: its content type, and its body if that is JSON. -/
structure Request where
  contentType : String
  body : Option Json

/-- `(await parseJsonBody(req)) ?? {}`. -/
def parseJsonBody (req : Request) : Json :=
  if includes (toLowerCase req.contentType) "application/json" then
    match req.body with
    | none => .obj []
    | some .null => .obj []
    | some v => v
  else .obj []

lemma includes_json : includes (toLowerCase "application/json") "application/json" = true := by
  decide +kernel

/-- `String(body.k ?? '')`. -/
def textField (body : Json) (k : String) : Async String :=
  eval (toText (coalesce (body.get? k) (some (.str ""))))

/-- The numbers accepted from outside: `typeof v === 'string' && v.trim()` is read as a
numeral, a number is itself, and the rest is `NaN`; `none` if not finite. -/
def coerceFiniteNumber : Option Json → Option ℚ
  | some (.str s) => if trim s ≠ "" then (numberOfString s).finite? else none
  | some (.num n) => n.finite?
  | _ => none

/-! ### The configuration -/

/-- `readConfig`. -/
def readConfig : Async Json := do
  let text ← call .readFile
  return loadMerossConfig text

/-- `writeConfig`, that is `saveMerossConfig`, of the literal `edit` spread from `cfg`. -/
def writeConfig (cfg : Json) (edit : ConfigEdit) : Async Unit := do
  call .makeDirectory
  call (.beginWrite cfg edit)
  call (.endWrite cfg edit)

/-- `requireLanHost`. -/
def requireLanHost (uuid : String) : Async Json := do
  let cfg ← readConfig
  let host := Json.opt (hostOf cfg uuid) "host"
  if truthy host then return host.getD .null
  else throwNew s!"No LAN host known for device uuid={uuid}. Resolve host first."

/-- `requireLanKey`. -/
def requireLanKey : Async Json := do
  let cfg ← readConfig
  let key := Json.opt (cfg.get? "cloud") "key"
  if truthy key then return key.getD .null
  else
    let fromEnv ← call (.env "MEROSS_KEY")
    match fromEnv with
    | some k =>
        if k ≠ "" then return .str k
        else throwNew "Missing Meross key. Login (cloud) or set MEROSS_KEY."
    | none => throwNew "Missing Meross key. Login (cloud) or set MEROSS_KEY."

/-! ### The LAN protocol -/

/-- What `postConfig` makes of a response: a status outside 200–299 throws, and so does
a body that is no JSON. -/
def receive : FetchReply → Except String Json
  | .failed message => .error message
  | .response status statusText text json =>
      if 200 ≤ status ∧ status < 300 then json
      else .error (s!"POST /config failed: {status} {statusText}"
        ++ if text ≠ "" then s!": {text}" else "")

/-- `buildLanMessage`. The key is put into a template, and so has to have a text. -/
def buildLanMessage (ns method : String) (payload key : Json) : Except String LanMessage :=
  key.toText.map fun key => { ns, method, payload, key }

/-- `postConfig`. -/
def postConfig (host : Json) (message : LanMessage) (timeoutMs : Option Number) : Async Json := do
  let host ← eval host.toText
  let reply ← call (.fetchConfig { host, message, timeoutMs := timeoutMs.getD (.fin 5000) })
  eval (receive reply)

/-- What the functions of `meross/lan` have in common: a message built and posted. -/
def postLan (ns method : String) (payload host key : Json) (timeoutMs : Option Number) :
    Async Json := do
  let message ← eval (buildLanMessage ns method payload key)
  postConfig host message timeoutMs

/-- `asFiniteInt`, and `lanErrorCode` apart from the path it reads. -/
def asFiniteInt (v : Option Json) : Option ℤ := (coerceFiniteNumber v).map Number.round

/-- `lanErrorCode`. -/
def lanErrorCode (resp : Json) : Option ℤ := asFiniteInt (resp.path ["payload", "error", "code"])

/-- The device refuses a command inside a reply with status 200. -/
def refused (resp : Json) : Bool :=
  match lanErrorCode resp with
  | none => false
  | some code => code ≠ 0

/-- The `catch` of every handler that talks to a device. -/
def lanError (e : JsError) : Async Response := pure (apiErr e.message "lan_error")

/-- What a successful command asks of the poller: `boostDevice` and a `pollNow` whose
outcome nobody waits for. -/
def refreshAfter (poller : Bool) (uuid : String) : Async Unit :=
  if poller then do
    call (.boostDevice uuid)
    call (.pollNow uuid)
  else pure ()

/-! ### Looking up a device of the cloud list -/

/-- `list.find((d) => String(d.uuid ?? '') === uuid)`; `strict` if the source reads
`d.uuid` and not `d?.uuid`, which throws on a null item. -/
def findByUuid (strict : Bool) (uuid : String) : List Json → Except String (Option Json)
  | [] => .ok none
  | d :: ds =>
      if strict = true ∧ d matches .null then .error "null is not an object (evaluating 'd.uuid')"
      else (toText (coalesce (d.get? "uuid") (some (.str "")))).bind fun t =>
        if t = uuid then .ok (some d) else findByUuid strict uuid ds

/-- `(cfg.devices?.list ?? []).find(…)`. -/
def findCloudDevice (strict : Bool) (cfg : Json) (uuid : String) : Except String (Option Json) :=
  match coalesce (Json.opt (cfg.get? "devices") "list") (some (.arr [])) with
  | some (.arr items) => findByUuid strict uuid items
  | _ => .error "list.find is not a function"

/-! ### The calls a program makes -/

/-- A program all of whose calls satisfy `P`. -/
def Makes {α : Type} (P : Call → Prop) (p : Async α) : Prop := Prog.Only P p.run

section Makes

variable {α β : Type} {P P' : Call → Prop}

lemma Makes.mono {p : Async α} (h : Makes P p) (hP : ∀ c, P c → P' c) : Makes P' p := by
  have key : ∀ q : Prog Call Reply (Except JsError α), q.Only P → q.Only P' := by
    intro q
    induction q with
    | ret a => exact fun _ => trivial
    | call c k ih => exact fun hq => ⟨hP c hq.1, fun r => ih r (hq.2 r)⟩
  exact key _ h

lemma Makes.only {p : Async α} (h : Makes P p) : Prog.Only P p.run := h

lemma makes_throw (e : JsError) : Makes P (throw e : Async α) := trivial

lemma makes_pure (a : α) : Makes P (pure a : Async α) := trivial

lemma makes_throwNew (m : String) : Makes P (throwNew m : Async α) := makes_throw _

lemma makes_eval (e : Except String α) : Makes P (eval e) := trivial

lemma makes_call {c : Call} (h : P c) : Makes P (call c) := ⟨h, fun _ => trivial⟩

lemma makes_bind {p : Async α} {f : α → Async β} (hp : Makes P p) (hf : ∀ a, Makes P (f a)) :
    Makes P (p >>= f) := by
  rw [Makes, ExceptT.run_bind]
  refine Prog.Only.bind hp fun r => ?_
  cases r with
  | ok a => exact hf a
  | error e => exact trivial

lemma makes_tryCatch {p : Async α} {f : JsError → Async α} (hp : Makes P p)
    (hf : ∀ e, Makes P (f e)) : Makes P (tryCatch p f) := by
  rw [Makes, ExceptT.run_tryCatch]
  refine Prog.Only.bind hp fun r => ?_
  cases r with
  | ok a => exact trivial
  | error e => exact hf e

lemma makes_ite {c : Prop} [Decidable c] {p q : Async α} (hp : Makes P p) (hq : Makes P q) :
    Makes P (if c then p else q) := by
  split
  · exact hp
  · exact hq

end Makes

-- The rules are all that a proof needs of it; unfolding it runs the program.
attribute [irreducible] Makes

/-- A call that reads the configuration or the environment. -/
def Call.reads : Call → Prop
  | .readFile => True
  | .env _ => True
  | _ => False

/-- A call to a device. -/
def Call.lan : Call → Prop
  | .fetchConfig _ => True
  | _ => False

lemma readConfig_makes : Makes Call.reads readConfig :=
  makes_bind (makes_call trivial) fun _ => makes_pure _

lemma requireLanHost_makes (uuid : String) : Makes Call.reads (requireLanHost uuid) :=
  makes_bind readConfig_makes fun _ => makes_ite (makes_pure _) (makes_throwNew _)

lemma requireLanKey_makes : Makes Call.reads requireLanKey := by
  refine makes_bind readConfig_makes fun cfg => makes_ite (makes_pure _) ?_
  refine makes_bind (makes_call trivial) fun k => ?_
  cases k with
  | none => exact makes_throwNew _
  | some k => exact makes_ite (makes_pure _) (makes_throwNew _)

/-! ### The messages a run exchanges with the device -/

/-- A message to a device with what came back. -/
abbrev Exchange : Type := LanRequest × FetchReply

/-- The monitor that permits everything and keeps the messages to the device. -/
def lanLog : Monitor Call Reply (List Exchange) where
  ok _ _ := True
  next log c := match c with
    | .fetchConfig req => fun r => log ++ [(req, r)]
    | _ => fun _ => log

/-- The messages to the device among the calls of a run. -/
def exchanges (tr : List (Prog.Event Call Reply)) : List Exchange :=
  tr.filterMap fun ev => match ev with
    | ⟨.fetchConfig req, r⟩ => some (req, r)
    | _ => none

/-- What the monitor establishes holds of the messages of every run. -/
lemma lanLog_run {α : Type} {p : Async α} {Q : List Exchange → Except JsError α → Prop}
    (hp : Prog.ewp lanLog p (fun log a => Q log (.ok a)) (fun log e => Q log (.error e)) [])
    (env : Environment) :
    Q (exchanges (Prog.run env p.run).2) (Prog.run env p.run).1 := by
  have hstep : ∀ (tr : List (Prog.Event Call Reply)) (log : List Exchange) (c : Call),
      exchanges tr = log → lanLog.ok log c →
      exchanges (Prog.recording env tr c).2 = lanLog.next log c (Prog.recording env tr c).1 := by
    rintro tr _ c rfl _
    rw [exchanges, Prog.recording, List.filterMap_append]
    cases c with
    | fetchConfig req => rfl
    | _ => exact List.append_nil _
  have hstart : exchanges [] = [] := rfl
  obtain ⟨log, hlog, hQ⟩ := Prog.wp_exec (Prog.recording env) (fun tr log => exchanges tr = log)
    (Prog.wp_run_iff.mpr hp) hstart hstep
  rw [Prog.run, hlog]
  exact hQ

/-- A synchronous expression returns or throws. -/
lemma ewp_eval {α σ : Type} {M : Monitor Call Reply σ} {Q : σ → α → Prop} {Qe : σ → JsError → Prop}
    {s : σ} {e : Except String α} (hthrow : ∀ message, e = .error message → Qe s { message })
    (hok : ∀ a, e = .ok a → Q s a) : Prog.ewp M (eval e) Q Qe s := by
  rw [eval, Prog.ewp_mk_ret]
  cases e with
  | ok a => exact hok a rfl
  | error message => exact hthrow message rfl

/-- A handler that talks to a device answers also when it throws. -/
lemma ewp_tryCatch_lanError {σ : Type} {M : Monitor Call Reply σ} {Q : σ → Response → Prop}
    {Qe : σ → JsError → Prop} {s : σ} {p : Async Response}
    (h : Prog.ewp M p Q (fun s' e => Q s' (apiErr e.message "lan_error")) s) :
    Prog.ewp M (tryCatch p lanError) Q Qe s := by
  rw [Prog.ewp_tryCatch]
  exact Prog.ewp_mono h (fun _ _ hQ => hQ) fun _ _ hQ => Prog.ewp_pure.mpr hQ

lemma ewp_textField {σ : Type} {M : Monitor Call Reply σ} {Q : σ → String → Prop}
    {Qe : σ → JsError → Prop} {s : σ} {body : Json} {k : String} (hthrow : ∀ e, Qe s e)
    (htext : ∀ text, toText (coalesce (body.get? k) (some (.str ""))) = .ok text → Q s text) :
    Prog.ewp M (textField body k) Q Qe s :=
  ewp_eval (fun _ _ => hthrow _) htext

/-! ### Outcomes -/

/-- The device refuses the command, inside a reply that is received. -/
def Refused (ex : Exchange) : Prop := ∃ resp, receive ex.2 = .ok resp ∧ refused resp = true

/-- The message or its reply is lost. -/
def Failed (ex : Exchange) : Prop := ∃ m, receive ex.2 = .error m

lemma Failed.not_refused {ex : Exchange} (h : Failed ex) : ¬ Refused ex := by
  rintro ⟨resp, hresp, -⟩
  obtain ⟨m, hm⟩ := h
  rw [hm] at hresp
  cases hresp

/-- The answer is `{ ok: true, … }`. -/
def Answered (r : Except JsError Response) : Prop := ∃ data, r = .ok (.ok data)

lemma not_answered_error (e : JsError) : ¬ Answered (.error e) := by
  rintro ⟨data, hdata⟩
  cases hdata

lemma not_answered_err {m code : String} {details : Option Json} {status : ℕ} :
    ¬ Answered (.ok (.err m code details status)) := by
  rintro ⟨data, hdata⟩
  cases hdata

section LanLog

variable {α : Type} {Q : List Exchange → α → Prop} {Qe : List Exchange → JsError → Prop}
  {log : List Exchange}

/-- A program that sends nothing to the device leaves the log as it is. -/
lemma ewp_lanLog_of_makes {P : Call → Prop} {p : Async α} (hp : Makes P p)
    (hP : ∀ c, P c → ¬ c.lan) (hQ : ∀ a, Q log a) (hQe : ∀ e, Qe log e) :
    Prog.ewp lanLog p Q Qe log := by
  refine Prog.ewp_of_only (· = log) ?_ hp.only rfl (fun s a hs => hs ▸ hQ a)
    fun s e hs => hs ▸ hQe e
  intro s c hc hs
  refine ⟨trivial, fun r => ?_⟩
  have hlan := hP c hc
  cases c <;> first | exact hs | exact absurd trivial hlan

/-- Asking the poller to refresh sends nothing, and does not throw. -/
lemma ewp_refreshAfter {poller : Bool} {uuid : String} {f : Unit → Async α}
    (hf : Prog.ewp lanLog (f ()) Q Qe log) :
    Prog.ewp lanLog (refreshAfter poller uuid >>= f) Q Qe log := by
  rw [Prog.ewp_bind, refreshAfter]
  refine Prog.ewp_ite (fun _ => ?_) fun _ => Prog.ewp_pure.mpr hf
  rw [Prog.ewp_bind, call, Prog.ewp_perform]
  exact ⟨trivial, fun _ => Prog.ewp_perform.mpr ⟨trivial, fun _ => hf⟩⟩

lemma Call.reads.not_lan (c : Call) (h : c.reads) : ¬ c.lan := by
  cases c <;> first | exact id | exact h.elim

/-- What every handler that talks to a device begins with sends nothing. -/
lemma ewp_requireLan {uuid : String} {f : Json → Json → Async α} (hQe : ∀ e, Qe log e)
    (hf : ∀ host key, Prog.ewp lanLog (f host key) Q Qe log) :
    Prog.ewp lanLog (do
      let host ← requireLanHost uuid
      let key ← requireLanKey
      f host key) Q Qe log := by
  rw [Prog.ewp_bind]
  refine ewp_lanLog_of_makes (requireLanHost_makes uuid) Call.reads.not_lan (fun host => ?_) hQe
  rw [Prog.ewp_bind]
  exact ewp_lanLog_of_makes requireLanKey_makes Call.reads.not_lan (fun key => hf host key) hQe

/-- The host and the key have texts, as the URL and the signature need them. -/
def Sendable (host key : Json) : Prop := ∃ h k, host.toText = .ok h ∧ key.toText = .ok k

/-- A message that can be sent is one exchange; the reply is received or throws. -/
lemma ewp_postLan {Q : List Exchange → Json → Prop} {ns method : String} {payload host key : Json}
    {timeoutMs : Option Number} (hthrow : ¬ Sendable host key → ∀ e, Qe log e)
    (hsend : Sendable host key → ∀ ex : Exchange, ex.1.message.method = method →
      ex.1.message.payload = payload → (∀ resp, receive ex.2 = .ok resp → Q (log ++ [ex]) resp) ∧
      (∀ message, receive ex.2 = .error message → Qe (log ++ [ex]) { message })) :
    Prog.ewp lanLog (postLan ns method payload host key timeoutMs) Q Qe log := by
  rw [postLan, Prog.ewp_bind]
  refine ewp_eval (fun m hm => hthrow ?_ _) fun message hmessage => ?_
  · rintro ⟨h, k, -, hkey⟩
    rw [buildLanMessage, hkey] at hm
    cases hm
  rw [postConfig, Prog.ewp_bind]
  refine ewp_eval (fun m hm => hthrow ?_ _) fun h hhost => ?_
  · rintro ⟨h, k, hhost, -⟩
    rw [hhost] at hm
    cases hm
  rw [Prog.ewp_bind, call, Prog.ewp_perform]
  refine ⟨trivial, fun r => ?_⟩
  obtain ⟨k, hkey, rfl⟩ : ∃ k, key.toText = .ok k ∧ ⟨ns, method, payload, k⟩ = message := by
    rw [buildLanMessage] at hmessage
    exact map_eq_ok hmessage
  have hex := hsend ⟨h, k, hhost, hkey⟩
    (⟨h, ⟨ns, method, payload, k⟩, timeoutMs.getD (.fin 5000)⟩, r) rfl rfl
  exact ewp_eval hex.2 hex.1

end LanLog

end Merossity
