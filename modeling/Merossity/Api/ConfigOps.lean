import Merossity.Api.ConfigHandlers

/-!
What an operation does to the configuration file, proved once for each of the six.

* `Operation` are the operations that write the configuration, and `Operation.Writes` are the
  literals that each of them may write.
* `watchWrites` is a monitor that permits a write only of the configuration that was read last,
  and only one; `Operation.spec` says that every operation keeps to it, and that it succeeds
  exactly if it has written.
-/

namespace Merossity

open Js

/-- The operations that write the configuration. -/
inductive Operation where
  | login (req : Request)
  | refresh (req : Request)
  | resolve (req : Request)
  | discover (req : Request)
  | network (req : Request)
  | recover (uuid : String)

namespace Operation

/-- The operation, with whether it answers `{ ok: true }`, or finds a host. -/
def prog : Operation → Async Bool
  | login req => Response.isOk <$> createLoginCloudHandler req
  | refresh req => Response.isOk <$> createRefreshCloudDevicesHandler req
  | resolve req => Response.isOk <$> createResolveHostHandler req
  | discover req => Response.isOk <$> createDiscoverHostsHandler req
  | network req => Response.isOk <$> createNetworkCidrHandler req
  | recover uuid => Option.isSome <$> tryResolveHost uuid

/-- The literals that an operation may write, when the devices of `probed` have answered. -/
def Writes : Operation → List Probe → ConfigEdit → Prop
  | login _, _, .cloud _ => True
  | refresh _, _, .devices _ _ => True
  | resolve req, _, .host uuid _ _ _ =>
      toText (coalesce ((parseJsonBody req).get? "uuid") (some (.str ""))) = .ok uuid
  | discover _, probed, .hosts found => found = probed.filterMap foundHost
  | network req, _, .network cidr _ => ∃ text,
      toText (coalesce ((parseJsonBody req).get? "cidr") (some (.str ""))) = .ok text ∧
        cidr = trim text
  | recover uuid, _, .host uuid' _ _ _ => uuid' = uuid
  | _, _, _ => False

end Operation

/-! ### Watching the writes -/

/-- What an operation has read last, the devices that have answered, and what it has written. -/
structure Progress where
  seen : Option Json
  probed : List Probe
  commit : Option Commit

/-- An operation at its start. -/
def Progress.start : Progress := ⟨none, [], none⟩

/-- The monitor that permits one write, of one of the literals spread from the configuration
that was read last, and no scan after it. -/
def watchWrites (writes : List Probe → ConfigEdit → Prop) : Monitor Call Reply Progress where
  ok s c := match c with
    | .beginWrite base edit => s.seen = some base ∧ s.commit = none ∧ writes s.probed edit
    | .endWrite base edit => s.seen = some base ∧ s.commit = none ∧ writes s.probed edit
    | .probeHosts .. => s.commit = none
    | _ => True
  next s c := match c with
    | .readFile => fun text => { s with seen := some (loadMerossConfig text) }
    | .probeHosts .. => fun probes => { s with probed := s.probed ++ probes }
    | .endWrite base edit => fun _ => { s with commit := some ⟨base, edit⟩ }
    | _ => fun _ => s

/-- A call that has nothing to do with the configuration file, and is no scan. -/
def Call.remote : Call → Prop
  | .readFile => False
  | .beginWrite _ _ => False
  | .endWrite _ _ => False
  | .probeHosts .. => False
  | _ => True

/-- A call that has nothing to do with the configuration file. -/
def Call.scans : Call → Prop
  | .probeHosts .. => True
  | c => c.remote

lemma Call.remote.scans (c : Call) (h : c.remote) : c.scans := by
  cases c <;> first | exact h | exact trivial

/-- A write, for a monitor that only its end changes. -/
lemma ewp_writeConfig_of_end {σ : Type} {M : Monitor Call Reply σ} {s : σ} {Q : σ → Unit → Prop}
    {Qe : σ → JsError → Prop} {cfg : Json} {edit : ConfigEdit}
    (hmake : M.ok s .makeDirectory ∧ M.next s .makeDirectory () = s)
    (hbegin : M.ok s (.beginWrite cfg edit) ∧ M.next s (.beginWrite cfg edit) () = s)
    (hend : M.ok s (.endWrite cfg edit)) (hQ : Q (M.next s (.endWrite cfg edit) ()) ()) :
    Prog.ewp M (writeConfig cfg edit) Q Qe s := by
  rw [writeConfig, Prog.ewp_bind, call, Prog.ewp_perform]
  refine ⟨hmake.1, fun _ => ?_⟩
  rw [hmake.2, Prog.ewp_bind, call, Prog.ewp_perform]
  refine ⟨hbegin.1, fun _ => ?_⟩
  rw [hbegin.2, call, Prog.ewp_perform]
  exact ⟨hend, fun _ => hQ⟩

section Rules

variable {α : Type} {writes : List Probe → ConfigEdit → Prop} {Q : Progress → α → Prop}
  {Qe : Progress → JsError → Prop} {s : Progress}

/-- A program that keeps away from the file, and does not scan. -/
lemma ewp_remote {p : Async α} (hp : Makes Call.remote p) (hQ : ∀ a, Q s a) (hQe : ∀ e, Qe s e) :
    Prog.ewp (watchWrites writes) p Q Qe s := by
  refine Prog.ewp_of_only (· = s) ?_ hp.only rfl (fun s' a hs => hs ▸ hQ a)
    fun s' e hs => hs ▸ hQe e
  intro s' c hc hs
  cases c <;> first | exact hc.elim | exact ⟨trivial, fun _ => hs⟩

/-- A program that keeps away from the file, but may scan. -/
lemma ewp_scans {p : Async α} (hp : Makes Call.scans p) (hs : s.commit = none)
    (hQ : ∀ s a, s.commit = none → Q s a) (hQe : ∀ s e, s.commit = none → Qe s e) :
    Prog.ewp (watchWrites writes) p Q Qe s := by
  refine Prog.ewp_of_only (fun s => s.commit = none) ?_ hp.only hs hQ hQe
  intro s c hc hs
  cases c <;> first | exact hc.elim | exact ⟨trivial, fun _ => hs⟩ | exact ⟨hs, fun _ => hs⟩

/-- A program that only reads. -/
lemma ewp_reads {p : Async α} (hp : Makes Call.reads p)
    (hQ : ∀ seen a, Q { s with seen } a) (hQe : ∀ seen e, Qe { s with seen } e) :
    Prog.ewp (watchWrites writes) p Q Qe s := by
  refine Prog.ewp_of_only (fun s' => ∃ seen, s' = { s with seen }) ?_ hp.only ⟨s.seen, rfl⟩ ?_ ?_
  · rintro _ c hc ⟨seen, rfl⟩
    cases c <;> first | exact hc.elim | exact ⟨trivial, fun _ => ⟨_, rfl⟩⟩
  · rintro _ a ⟨seen, rfl⟩
    exact hQ seen a
  · rintro _ e ⟨seen, rfl⟩
    exact hQe seen e

lemma ewp_readConfig {Q : Progress → Json → Prop}
    (hQ : ∀ cfg, Q { s with seen := some cfg } cfg) :
    Prog.ewp (watchWrites writes) readConfig Q Qe s := by
  rw [readConfig, Prog.ewp_bind, call, Prog.ewp_perform]
  exact ⟨trivial, fun text => Prog.ewp_pure.mpr (hQ _)⟩

lemma ewp_nowIso {Q : Progress → String → Prop} (hQ : ∀ t, Q s t) :
    Prog.ewp (watchWrites writes) (call .nowIso) Q Qe s := by
  rw [call, Prog.ewp_perform]
  exact ⟨trivial, hQ⟩

lemma ewp_probeAll {Q : Progress → List Probe → Prop} {ips : List String} {key : Json}
    {timeoutMs : Number} {workers : ℕ} (hs : s.commit = none)
    (hQ : ∀ probes, Q { s with probed := s.probed ++ probes } probes) :
    Prog.ewp (watchWrites writes) (probeAll ips key timeoutMs workers) Q Qe s := by
  refine Prog.ewp_ite (fun _ => Prog.ewp_pure.mpr ?_) fun _ => ?_
  · have hnil := hQ []
    rwa [List.append_nil] at hnil
  · rw [call, Prog.ewp_perform]
    exact ⟨hs, hQ⟩

/-- The configuration that was read last is written. -/
lemma ewp_writeConfig {Q : Progress → Unit → Prop} {cfg : Json} {edit : ConfigEdit}
    (hseen : s.seen = some cfg) (hs : s.commit = none) (hedit : writes s.probed edit)
    (hQ : Q { s with commit := some ⟨cfg, edit⟩ } ()) :
    Prog.ewp (watchWrites writes) (writeConfig cfg edit) Q Qe s :=
  ewp_writeConfig_of_end ⟨trivial, rfl⟩ ⟨⟨hseen, hs, hedit⟩, rfl⟩ ⟨hseen, hs, hedit⟩ hQ

/-- Reading and writing back. -/
lemma ewp_saveHost {Q : Progress → Unit → Prop} {uuid host : String} {mac : Option String}
    (hs : s.commit = none) (hwrites : ∀ probed time, writes probed (.host uuid host time mac))
    (hQ : ∀ s : Progress, s.commit.isSome → Q s ()) :
    Prog.ewp (watchWrites writes) (saveHost uuid host mac) Q Qe s := by
  rw [saveHost, Prog.ewp_bind]
  refine ewp_readConfig fun cfg => ?_
  rw [Prog.ewp_bind]
  exact ewp_nowIso fun t => ewp_writeConfig rfl hs (hwrites _ t) (hQ _ rfl)

end Rules

/-! ### Programs that keep away from the file -/

lemma throwCloud_remote {α : Type} (m : String) (n : Option Number) (info : Option Json) :
    Makes Call.remote (throwCloud m n info : Async α) := makes_throw _

section Cloud

variable {P : Call → Prop} {endpoint scheme : String} {params : Json} {token : Option Json}
  {timeoutMs : Number}

lemma authenticatedPost_makes {domain : String} (hP : ∀ authorization, P (.cloudFetch
      { scheme, domain, endpoint, params, authorization, timeoutMs })) :
    Makes P (authenticatedPost endpoint params token scheme domain timeoutMs) := by
  refine makes_bind (makes_eval _) fun auth => makes_bind (makes_call (hP auth)) fun reply => ?_
  cases reply with
  | failed m => exact makes_throwNew m
  | response status json =>
      cases json with
      | none => exact makes_throw _
      | some v =>
          dsimp only
          split
          · exact makes_pure v
          · exact makes_throw _

lemma followRedirects_makes {post : String → Async Json} (hpost : ∀ d, Makes P (post d))
    (attempts : ℕ) : ∀ domain, Makes P (followRedirects post attempts domain) := by
  induction attempts with
  | zero => exact fun domain => makes_bind (hpost domain) fun _ => makes_pure _
  | succ n ih =>
      refine fun domain => makes_bind (hpost domain) fun resp => ?_
      cases redirectDomain resp with
      | none => exact makes_pure _
      | some next => exact ih next

lemma postWithRedirect_makes (hP : ∀ authorization domain, P (.cloudFetch
      { scheme, domain, endpoint, params, authorization, timeoutMs })) (domain : String) :
    Makes P (postWithRedirect endpoint params token scheme domain timeoutMs) :=
  followRedirects_makes (fun domain => authenticatedPost_makes fun auth => hP auth domain) 2 _

lemma signInLoop_makes {post : String → Async (String × Json)} (hpost : ∀ d, Makes P (post d))
    (ds : List String) : Makes P (signInLoop post ds) := by
  induction ds with
  | nil => exact makes_pure _
  | cons d ds ih =>
      exact makes_bind (hpost d) fun _ => makes_ite ih (makes_pure _)

end Cloud

/-- A sign-in makes requests that have the texts it is given, and no other calls. -/
lemma merossCloudLogin_makes {P : Call → Prop} {email password : String}
    {mfaCode domain scheme : Option String} {timeoutMs : Option Number}
    (hP : ∀ req : CloudRequest, req.scheme = scheme.getD "https" →
      req.endpoint = "/v1/Auth/signIn" → req.params.get? "email" = some (.str email) →
      req.params.get? "password" = some (.str password) →
      (∀ code, mfaCode = some code → code ≠ "" → req.params.get? "mfaCode" = some (.str code)) →
      P (.cloudFetch req)) :
    Makes P (merossCloudLogin email password mfaCode domain scheme timeoutMs) := by
  unfold merossCloudLogin
  dsimp only
  refine makes_bind (signInLoop_makes (fun _ => postWithRedirect_makes (fun auth host => ?_) _) _)
    fun result => ?_
  · refine hP _ rfl rfl rfl rfl fun code hcode hne => ?_
    subst hcode
    dsimp only
    rw [if_pos hne]
    rfl
  · cases result with
    | none => exact makes_throw _
    | some r =>
        refine makes_ite (makes_throw _) ?_
        refine makes_bind (makes_eval _) fun token => makes_bind (makes_eval _) fun key => ?_
        refine makes_bind (makes_eval _) fun userId => makes_bind (makes_eval _) fun userEmail => ?_
        exact makes_ite (makes_throw _) (makes_pure _)

lemma merossCloudLogin_remote (email password : String) (mfaCode domain scheme : Option String)
    (timeoutMs : Option Number) :
    Makes Call.remote (merossCloudLogin email password mfaCode domain scheme timeoutMs) :=
  merossCloudLogin_makes fun _ _ _ _ _ _ => trivial

lemma merossCloudListDevices_remote (creds : Json) (timeoutMs : Option Number) :
    Makes Call.remote (merossCloudListDevices creds timeoutMs) := by
  rw [merossCloudListDevices]
  split
  · refine makes_bind (postWithRedirect_makes (fun _ _ => trivial) _) fun r => ?_
    refine makes_ite (throwCloud_remote _ _ _) ?_
    cases extractCloudDeviceList (r.2.get? "data") with
    | none => exact throwCloud_remote _ _ _
    | some list => exact makes_pure list
  · exact makes_throwNew _

lemma pingSweep_remote (cidr : String) : Makes Call.remote (pingSweep cidr) :=
  makes_ite (makes_call trivial) (makes_pure _)

lemma effectiveCidr_remote (cidr : String) : Makes Call.remote (effectiveCidr cidr) :=
  makes_ite (makes_pure _) (makes_bind (makes_call trivial) fun _ => makes_pure _)

lemma resolveIpv4FromMac_remote (mac : String) : Makes Call.remote (resolveIpv4FromMac mac) := by
  refine makes_bind (makes_eval _) fun target => makes_bind (makes_call trivial) fun arpOut => ?_
  cases findInArp target (splitOn arpOut '\n') with
  | some ip => exact makes_pure _
  | none => exact makes_bind (makes_call trivial) fun _ => makes_pure _

lemma resolveHostByUuidScan_scans (uuid cidr : String) (key : Json)
    (perHostTimeoutMs : Option Number) (targetMac : Option String) :
    Makes Call.scans (resolveHostByUuidScan uuid cidr key perHostTimeoutMs targetMac) := by
  rw [resolveHostByUuidScan]
  split
  · exact makes_pure _
  · exact makes_pure _
  · exact makes_bind (makes_call trivial) fun _ => makes_pure _

lemma findByMac_remote (cidr : String) (mac : Option String) :
    Makes Call.remote (findByMac cidr mac) := by
  cases mac with
  | none => exact makes_pure _
  | some mac =>
      exact makes_bind (pingSweep_remote _) fun _ =>
        makes_tryCatch (resolveIpv4FromMac_remote mac) fun _ => makes_pure _

lemma findHost_scans (uuid cidr : String) (key : Json) (mac : Option String) :
    Makes Call.scans (findHost uuid cidr key mac) := by
  refine makes_bind ((findByMac_remote cidr mac).mono Call.remote.scans) fun host => ?_
  cases host with
  | some host => exact makes_pure _
  | none =>
      exact makes_ite (makes_pure _) (makes_bind (resolveHostByUuidScan_scans _ _ _ _ _) fun _ =>
        makes_pure _)

lemma notFoundByUuid_remote (cidr : String) : Makes Call.remote (notFoundByUuid cidr) :=
  makes_bind (makes_call trivial) fun _ => makes_pure _

/-! ### The operations -/

/-- An operation answers `{ ok: true }` exactly if it has written. -/
def Reports (s : Progress) (ok : Bool) : Prop := ok = true ↔ s.commit.isSome = true

/-- An operation that throws has not written. -/
def Idle (s : Progress) (_ : JsError) : Prop := s.commit = none

lemma reports_apiErr {s : Progress} {m code : String} {details : Option Json} {status : ℕ}
    (hs : s.commit = none) : Reports s (apiErr m code details status).isOk := by
  rw [Reports, hs]
  exact iff_of_false Bool.false_ne_true Bool.false_ne_true

lemma reports_apiOk {s : Progress} {data : Fields} (hs : s.commit.isSome = true) :
    Reports s (apiOk data).isOk :=
  iff_of_true rfl hs

section Specs

variable {writes : List Probe → ConfigEdit → Prop} {s : Progress}

lemma answerHost_spec {uuid : String} {found : Option (String × Option String)}
    {notFound : Async String} (hs : s.commit = none) (hnot : Makes Call.remote notFound)
    (hwrites : ∀ probed host time mac, writes probed (.host uuid host time mac)) :
    Prog.ewp (watchWrites writes) (answerHost uuid found notFound)
      (fun s r => Reports s r.isOk) Idle s := by
  rw [answerHost]
  split
  · rw [Prog.ewp_bind]
    refine ewp_saveHost hs (fun probed time => hwrites probed _ time _) fun s hs => ?_
    exact Prog.ewp_pure.mpr (reports_apiOk hs)
  · rw [Prog.ewp_bind]
    exact ewp_remote hnot (fun m => Prog.ewp_pure.mpr (reports_apiErr hs)) fun e => hs

/-- The rule of the login handler, where `T` is what is known of credentials that a sign-in
returns. -/
lemma ewp_login {req : Request} {T : Fields → Prop} {Q : Progress → Response → Prop}
    (hlogin : ∀ email password mfaCode domain scheme timeoutMs (Q : Progress → Fields → Prop)
      (Qe : Progress → JsError → Prop), (∀ creds, T creds → Q .start creds) →
      (∀ e, Qe .start e) → Prog.ewp (watchWrites (Operation.login req).Writes)
        (merossCloudLogin email password mfaCode domain scheme timeoutMs) Q Qe .start)
    (hfail : ∀ resp, resp.isOk = false → Q .start resp)
    (hsave : ∀ base creds updatedAt, T creds →
      Q ⟨some base, [], some ⟨base, .cloud (.obj (Assoc.set creds "updatedAt" (.str updatedAt)))⟩⟩
        (apiOk [("cloud", .obj (summarizeCloud creds))])) :
    Prog.ewp (watchWrites (Operation.login req).Writes) (createLoginCloudHandler req) Q Idle
      .start := by
  rw [createLoginCloudHandler, Prog.ewp_bind]
  refine ewp_textField (fun _ => rfl) fun email _ => ?_
  rw [Prog.ewp_bind]
  refine ewp_textField (fun _ => rfl) fun password _ => ?_
  rw [Prog.ewp_bind]
  refine ewp_eval (fun _ _ => rfl) fun mfaCode _ => ?_
  rw [Prog.ewp_bind]
  refine ewp_eval (fun _ _ => rfl) fun domain _ => ?_
  dsimp only
  rw [Prog.ewp_bind]
  refine ewp_eval (fun _ _ => rfl) fun timeoutMs _ => ?_
  refine Prog.ewp_ite (fun _ => Prog.ewp_pure.mpr (hfail _ rfl)) fun _ => ?_
  rw [Prog.ewp_tryCatch, Prog.ewp_bind]
  refine hlogin _ _ _ _ _ _ _ _ (fun creds hcreds => ?_) fun e => ?_
  · rw [Prog.ewp_bind]
    refine ewp_readConfig fun cfg => ?_
    rw [Prog.ewp_bind]
    refine ewp_nowIso fun t => ?_
    rw [Prog.ewp_bind]
    exact ewp_writeConfig rfl rfl trivial (Prog.ewp_pure.mpr (hsave _ _ _ hcreds))
  · rw [Prog.ewp_bind]
    refine ewp_eval (fun _ _ => rfl) fun mfa _ => ?_
    refine Prog.ewp_ite (fun _ => Prog.ewp_pure.mpr (hfail _ rfl)) fun _ => ?_
    split
    · exact Prog.ewp_pure.mpr (hfail _ rfl)
    · exact Prog.ewp_pure.mpr (hfail _ rfl)

lemma login_spec (req : Request) :
    Prog.ewp (watchWrites (Operation.login req).Writes) (createLoginCloudHandler req)
      (fun s r => Reports s r.isOk) Idle .start := by
  refine ewp_login (T := fun _ => True) ?_ (fun resp hresp => ?_) fun base creds updatedAt _ => ?_
  · intro email password mfaCode domain scheme timeoutMs Q Qe hQ hQe
    exact ewp_remote (merossCloudLogin_remote _ _ _ _ _ _) (fun creds => hQ creds trivial) hQe
  · rw [hresp]
    exact iff_of_false Bool.false_ne_true Bool.false_ne_true
  · exact reports_apiOk rfl

lemma refresh_spec (req : Request) :
    Prog.ewp (watchWrites (Operation.refresh req).Writes) (createRefreshCloudDevicesHandler req)
      (fun s r => Reports s r.isOk) Idle .start := by
  rw [createRefreshCloudDevicesHandler, Prog.ewp_bind]
  refine ewp_eval (fun _ _ => rfl) fun timeoutMs _ => ?_
  rw [Prog.ewp_bind]
  refine ewp_readConfig fun cfg => ?_
  refine Prog.ewp_ite (fun _ => ?_) fun _ => Prog.ewp_pure.mpr (reports_apiErr rfl)
  rw [Prog.ewp_tryCatch, Prog.ewp_bind]
  refine ewp_remote (merossCloudListDevices_remote _ _) (fun list => ?_) fun e => ?_
  · rw [Prog.ewp_bind]
    refine ewp_nowIso fun t => ?_
    rw [Prog.ewp_bind]
    exact ewp_writeConfig rfl rfl trivial (Prog.ewp_pure.mpr (reports_apiOk rfl))
  · split
    · exact Prog.ewp_pure.mpr (reports_apiErr rfl)
    · exact Prog.ewp_pure.mpr (reports_apiErr rfl)

lemma network_spec (req : Request) :
    Prog.ewp (watchWrites (Operation.network req).Writes) (createNetworkCidrHandler req)
      (fun s r => Reports s r.isOk) Idle .start := by
  rw [createNetworkCidrHandler, Prog.ewp_bind]
  refine ewp_textField (fun _ => rfl) fun text htext => ?_
  dsimp only
  refine Prog.ewp_ite (fun _ => Prog.ewp_pure.mpr (reports_apiErr rfl)) fun _ => ?_
  rw [Prog.ewp_bind]
  refine ewp_readConfig fun cfg => ?_
  rw [Prog.ewp_bind]
  refine ewp_nowIso fun t => ?_
  rw [Prog.ewp_bind]
  exact ewp_writeConfig rfl rfl ⟨text, htext, rfl⟩ (Prog.ewp_pure.mpr (reports_apiOk rfl))

lemma discover_spec (req : Request) :
    Prog.ewp (watchWrites (Operation.discover req).Writes) (createDiscoverHostsHandler req)
      (fun s r => Reports s r.isOk) Idle .start := by
  rw [createDiscoverHostsHandler, Prog.ewp_bind]
  refine ewp_eval (fun _ _ => rfl) fun text _ => ?_
  rw [Prog.ewp_bind]
  refine ewp_remote (effectiveCidr_remote _) (fun cidr => ?_) fun e => rfl
  rw [Prog.ewp_bind]
  refine ewp_eval (fun _ _ => rfl) fun timeoutMs _ => ?_
  rw [Prog.ewp_bind]
  refine ewp_eval (fun _ _ => rfl) fun concurrency _ => ?_
  refine Prog.ewp_ite (fun _ => Prog.ewp_pure.mpr (reports_apiErr rfl)) fun _ => ?_
  rw [Prog.ewp_bind]
  refine ewp_reads requireLanKey_makes (fun seen key => ?_) fun seen e => rfl
  rw [Prog.ewp_bind]
  refine ewp_remote (pingSweep_remote _) (fun _ => ?_) fun e => rfl
  cases listHostsInCidr cidr with
  | error m => exact Prog.ewp_pure.mpr (reports_apiErr rfl)
  | ok ips =>
      dsimp only
      rw [Prog.ewp_bind]
      refine ewp_eval (fun _ _ => rfl) fun workers _ => ?_
      rw [Prog.ewp_bind]
      refine ewp_probeAll rfl fun probes => ?_
      rw [Prog.ewp_bind]
      refine ewp_readConfig fun cfg => ?_
      rw [Prog.ewp_bind]
      exact ewp_writeConfig rfl rfl rfl (Prog.ewp_pure.mpr (reports_apiOk rfl))

lemma resolve_spec (req : Request) :
    Prog.ewp (watchWrites (Operation.resolve req).Writes) (createResolveHostHandler req)
      (fun s r => Reports s r.isOk) Idle .start := by
  rw [createResolveHostHandler, Prog.ewp_bind]
  refine ewp_textField (fun _ => rfl) fun uuid huuid => ?_
  have hwrites : ∀ probed host time mac,
      (Operation.resolve req).Writes probed (.host uuid host time mac) := fun _ _ _ _ => huuid
  rw [Prog.ewp_bind]
  refine ewp_eval (fun _ _ => rfl) fun mac _ => ?_
  rw [Prog.ewp_bind]
  refine ewp_eval (fun _ _ => rfl) fun text _ => ?_
  rw [Prog.ewp_bind]
  refine ewp_eval (fun _ _ => rfl) fun timeoutMs _ => ?_
  refine Prog.ewp_ite (fun _ => Prog.ewp_pure.mpr (reports_apiErr rfl)) fun _ => ?_
  refine Prog.ewp_ite (fun _ => ?_) fun _ => ?_
  · -- by the MAC address, and then by a scan
    rw [Prog.ewp_bind]
    refine ewp_remote (pingSweep_remote _) (fun _ => ?_) fun e => rfl
    rw [Prog.ewp_bind]
    refine ewp_remote (resolveIpv4FromMac_remote _) (fun ip => ?_) fun e => rfl
    cases ip with
    | some ip => exact answerHost_spec rfl (makes_pure _) hwrites
    | none =>
        dsimp only
        rw [Prog.ewp_bind]
        refine ewp_remote (effectiveCidr_remote _) (fun cidr => ?_) fun e => rfl
        refine Prog.ewp_ite (fun _ => answerHost_spec rfl (makes_pure _) hwrites) fun _ => ?_
        rw [Prog.ewp_bind]
        refine ewp_reads requireLanKey_makes (fun seen key => ?_) fun seen e => rfl
        rw [Prog.ewp_bind]
        refine ewp_remote (pingSweep_remote _) (fun _ => ?_) fun e => rfl
        rw [Prog.ewp_bind]
        refine ewp_scans (resolveHostByUuidScan_scans _ _ _ _ _) rfl (fun s hit hs => ?_)
          fun s e hs => hs
        exact answerHost_spec hs (makes_pure _) hwrites
  · rw [Prog.ewp_bind]
    refine ewp_remote (effectiveCidr_remote _) (fun cidr => ?_) fun e => rfl
    refine Prog.ewp_ite (fun _ => Prog.ewp_pure.mpr (reports_apiErr rfl)) fun _ => ?_
    rw [Prog.ewp_bind]
    refine ewp_reads requireLanKey_makes (fun seen key => ?_) fun seen e => rfl
    rw [Prog.ewp_bind]
    refine ewp_remote (pingSweep_remote _) (fun _ => ?_) fun e => rfl
    rw [Prog.ewp_bind]
    refine ewp_scans (resolveHostByUuidScan_scans _ _ _ _ _) rfl (fun s hit hs => ?_)
      fun s e hs => hs
    exact answerHost_spec hs (notFoundByUuid_remote cidr) hwrites

lemma recover_spec (uuid : String) :
    Prog.ewp (watchWrites (Operation.recover uuid).Writes) (tryResolveHost uuid)
      (fun s r => Reports s r.isSome) Idle .start := by
  have hnone : ∀ s : Progress, s.commit = none →
      Reports s (none : Option (String × Option String)).isSome := by
    intro s hs
    rw [Reports, hs]
    exact Iff.rfl
  have hcatch : ∀ (s : Progress) (e : JsError), s.commit = none →
      Prog.ewp (watchWrites (Operation.recover uuid).Writes)
        (pure none : Async (Option (String × Option String)))
        (fun s r => Reports s r.isSome) Idle s :=
    fun s _ hs => Prog.ewp_pure.mpr (hnone s hs)
  rw [tryResolveHost, Prog.ewp_tryCatch, Prog.ewp_bind]
  refine ewp_readConfig fun cfg => ?_
  rw [Prog.ewp_bind]
  refine ewp_reads requireLanKey_makes (fun seen key => ?_) fun seen e => hcatch _ e rfl
  rw [Prog.ewp_bind]
  refine ewp_eval (fun m _ => hcatch _ { message := m } rfl) fun stored _ => ?_
  rw [Prog.ewp_bind]
  refine ewp_remote (effectiveCidr_remote _) (fun cidr => ?_) fun e => hcatch _ e rfl
  rw [Prog.ewp_bind]
  refine ewp_eval (fun m _ => hcatch _ { message := m } rfl) fun cloudDevice _ => ?_
  rw [Prog.ewp_bind]
  refine ewp_eval (fun m _ => hcatch _ { message := m } rfl) fun raw _ => ?_
  dsimp only
  rw [Prog.ewp_bind]
  refine ewp_scans (findHost_scans _ _ _ _) rfl (fun s found hs => ?_) fun s e hs => hcatch s e hs
  cases found with
  | none => exact Prog.ewp_pure.mpr (hnone s hs)
  | some hit =>
      dsimp only
      rw [Prog.ewp_bind]
      refine ewp_saveHost hs (fun _ _ => rfl) fun s hs => Prog.ewp_pure.mpr ?_
      exact iff_of_true rfl hs

end Specs

/-- Every operation writes at most once, one of its literals, spread from the configuration it
has read last; it succeeds exactly if it has written. -/
theorem Operation.spec (op : Operation) :
    Prog.ewp (watchWrites op.Writes) op.prog Reports Idle .start := by
  cases op with
  | login req => exact Prog.ewp_map.mpr (login_spec req)
  | refresh req => exact Prog.ewp_map.mpr (refresh_spec req)
  | resolve req => exact Prog.ewp_map.mpr (resolve_spec req)
  | discover req => exact Prog.ewp_map.mpr (discover_spec req)
  | network req => exact Prog.ewp_map.mpr (network_spec req)
  | recover uuid => exact Prog.ewp_map.mpr (recover_spec uuid)

end Merossity
