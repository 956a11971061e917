import Merossity.Api.ConfigOps

/-!
Which requests to resolve or to discover hosts are answered.

* `hears` is a monitor that keeps what a handler is told: the configuration it reads first, the
  key in the environment, the suggested range, and the neighbour tables.
* `HostHandler.Answerable` is the condition under which a handler settles with an answer, and
  `answers_iff` says that it is exact: a handler throws what the conversions of the request,
  `normalizeMac`, `requireLanKey` and the number of workers throw.
-/

namespace Merossity

open Js

/-! ### What a handler is told -/

/-- What a handler has been told so far: the file it has read first, the key in the environment,
the suggested range, and the output of the two commands. -/
structure Heard where
  file : Option FileText
  key : Option String
  suggested : Option (Option String)
  arp : Option String
  neigh : Option String

/-- A handler that has been told nothing. -/
def Heard.nothing : Heard := ⟨none, none, none, none, none⟩

/-- The monitor that keeps what a handler is told. -/
def hears : Monitor Call Reply Heard where
  ok _ _ := True
  next s c := match c with
    | .readFile => fun text => { s with file := s.file.or (some text) }
    | .env _ => fun key => { s with key }
    | .suggestedCidr => fun cidr => { s with suggested := s.suggested.or (some cidr) }
    | .runCmd cmd => fun out =>
        if cmd = ["arp", "-a"] then { s with arp := some out } else { s with neigh := some out }
    | _ => fun _ => s

/-- What a handler has been told in the calls of its run. -/
def heard (history : List (Prog.Event Call Reply)) : Heard :=
  history.foldl (fun s ev => hears.next s ev.1 ev.2) .nothing

namespace Heard

/-- There is a Meross key, in the configuration or in the environment. -/
def HasKey (s : Heard) : Prop :=
  truthy (Json.opt ((loadMerossConfig (s.file.getD .missing)).get? "cloud") "key") = true ∨
    ∃ k, s.key = some k ∧ k ≠ ""

/-- The range to scan: the one of the request, or else the suggested one. -/
def range (s : Heard) (cidr : String) : String :=
  if cidr ≠ "" then cidr else (s.suggested.getD none).getD ""

/-- The address that the neighbour tables have for a MAC address. -/
def address (s : Heard) (target : String) : Option String :=
  (findInArp target (splitOn (s.arp.getD "") '\n')).or
    (findInNeigh target (splitOn (s.neigh.getD "") '\n'))

end Heard

/-! ### The conditions -/

/-- The fields of a request to resolve a host: the uuid, the MAC address and the range. -/
def resolveFields (req : Request) : Except String (String × String × String) := do
  let body := parseJsonBody req
  let uuid ← toText (coalesce (body.get? "uuid") (some (.str "")))
  let mac ← toText (coalesce (body.get? "mac") (coalesce (body.get? "macAddress") (some (.str ""))))
  let cidr ← truthyText (body.get? "cidr")
  let _ ← optionalNumber (body.get? "perHostTimeoutMs")
  return (uuid, mac, cidr)

/-- The fields of a request to discover hosts: the range and the number of workers. -/
def discoverFields (req : Request) : Except String (String × Option Number) := do
  let body := parseJsonBody req
  let cidr ← truthyText (body.get? "cidr")
  let _ ← optionalNumber (body.get? "perHostTimeoutMs")
  let concurrency ← optionalNumber (body.get? "concurrency")
  return (cidr, concurrency)

/-- The two handlers. -/
inductive HostHandler where
  | resolve
  | discover

namespace HostHandler

/-- The handler as a program. -/
def prog : HostHandler → Request → Async Response
  | resolve => createResolveHostHandler
  | discover => createDiscoverHostsHandler

/-- A request that is answered. The fields of the request have texts and numbers; a MAC address
is well formed; the number of workers is the length of an array, if there is a range to scan; and
there is a key, if a scan is needed. -/
def Answerable (h : HostHandler) (req : Request) (s : Heard) : Prop :=
  match h with
  | resolve => ∃ uuid mac cidr, resolveFields req = .ok (uuid, mac, cidr) ∧ (uuid = "" ∨
      if mac = "" then s.range cidr ≠ "" → s.HasKey
      else ∃ target, normalizeMac mac = .ok target ∧
        (s.address target = none → s.range cidr ≠ "" → s.HasKey))
  | discover => ∃ cidr concurrency, discoverFields req = .ok (cidr, concurrency) ∧
      (s.range cidr ≠ "" → s.HasKey ∧ ∀ ips, listHostsInCidr (s.range cidr) = .ok ips →
        ∃ workers, workerCount (concurrency.getD (.fin 24)) = .ok workers)

end HostHandler

/-! ### Rules -/

/-- A call that tells a handler nothing of this. -/
def Call.quiet : Call → Prop
  | .readFile => False
  | .env _ => False
  | .suggestedCidr => False
  | .runCmd _ => False
  | _ => True

section Rules

variable {α : Type} {Q : Heard → α → Prop} {Qe : Heard → JsError → Prop} {s : Heard}

lemma hears_quiet {c : Call} {Q : Heard → Reply c → Prop} (hc : c.quiet) (hQ : ∀ r, Q s r) :
    Prog.ewp hears (call c) Q Qe s := by
  rw [call, Prog.ewp_perform]
  refine ⟨trivial, fun r => ?_⟩
  cases c <;> first | exact hc.elim | exact hQ r

lemma hears_pingSweep {Q : Heard → Unit → Prop} {cidr : String} (hQ : Q s ()) :
    Prog.ewp hears (pingSweep cidr) Q Qe s :=
  Prog.ewp_ite (fun _ => hears_quiet trivial fun _ => hQ) fun _ => Prog.ewp_pure.mpr hQ

lemma hears_readConfig {Q : Heard → Json → Prop}
    (hQ : ∀ text, Q { s with file := s.file.or (some text) } (loadMerossConfig text)) :
    Prog.ewp hears readConfig Q Qe s := by
  rw [readConfig, Prog.ewp_bind, call, Prog.ewp_perform]
  exact ⟨trivial, fun text => Prog.ewp_pure.mpr (hQ text)⟩

lemma hears_writeConfig {Q : Heard → Unit → Prop} {cfg : Json} {edit : ConfigEdit} (hQ : Q s ()) :
    Prog.ewp hears (writeConfig cfg edit) Q Qe s := by
  rw [writeConfig, Prog.ewp_bind]
  refine hears_quiet trivial fun _ => ?_
  rw [Prog.ewp_bind]
  exact hears_quiet trivial fun _ => hears_quiet trivial fun _ => hQ

/-- A range is given, or suggested. -/
lemma hears_effectiveCidr {Q : Heard → String → Prop} {cidr : String} (hs : s.suggested = none)
    (hQ : ∀ suggested, (cidr = "" → suggested.isSome = true) →
      Q { s with suggested } (Heard.range { s with suggested } cidr)) :
    Prog.ewp hears (effectiveCidr cidr) Q Qe s := by
  refine Prog.ewp_ite (fun hcidr => Prog.ewp_pure.mpr ?_) fun hcidr => ?_
  · have hgiven := hQ none fun hempty => absurd hempty hcidr
    rw [Heard.range, if_pos hcidr, ← hs] at hgiven
    exact hgiven
  · rw [Prog.ewp_bind, call, Prog.ewp_perform]
    refine ⟨trivial, fun cidr' => Prog.ewp_pure.mpr ?_⟩
    have hsuggested := hQ (some cidr') fun _ => rfl
    rw [Heard.range, if_neg hcidr] at hsuggested
    show Q { s with suggested := s.suggested.or (some cidr') } _
    rw [hs]
    exact hsuggested

/-- The key is found in the configuration or in the environment, or it is missing. -/
lemma hears_requireLanKey {Q : Heard → Json → Prop} (hfile : s.file = none) (hkey : s.key = none)
    (hQ : ∀ file key v, Heard.HasKey { s with file, key } → file.isSome = true →
      Q { s with file, key } v)
    (hQe : ∀ file key e, ¬ Heard.HasKey { s with file, key } → Qe { s with file, key } e) :
    Prog.ewp hears requireLanKey Q Qe s := by
  rw [requireLanKey, Prog.ewp_bind]
  refine hears_readConfig fun text => ?_
  rw [hfile, Option.none_or]
  refine Prog.ewp_ite (fun hcfg => Prog.ewp_pure.mpr ?_) fun hcfg => ?_
  · have hfound := hQ (some text) none
    rw [← hkey] at hfound
    exact hfound _ (Or.inl hcfg) rfl
  · rw [Prog.ewp_bind, call, Prog.ewp_perform]
    refine ⟨trivial, fun key => ?_⟩
    have hmissing : (∀ k, key = some k → k = "") →
        ¬ Heard.HasKey { s with file := some text, key } := by
      rintro hnone (hc | ⟨k, hk, hne⟩)
      · exact hcfg hc
      · exact hne (hnone k hk)
    cases key with
    | none => exact Prog.ewp_throw.mpr (hQe _ _ _ (hmissing fun k hk => by cases hk))
    | some k =>
        refine Prog.ewp_ite (fun hk => Prog.ewp_pure.mpr ?_) fun hk => Prog.ewp_throw.mpr ?_
        · exact hQ _ _ _ (Or.inr ⟨k, rfl, hk⟩) rfl
        · refine hQe _ _ _ (hmissing fun k' hk' => ?_)
          rw [← Option.some.inj hk']
          exact not_not.mp hk

/-- The lookup of a MAC address in the neighbour tables. -/
lemma hears_resolveIpv4FromMac {Q : Heard → Option String → Prop} {mac : String}
    (hneigh : s.neigh = none) (hmal : ∀ e m, normalizeMac mac = .error m → Qe s e)
    (hQ : ∀ target arp neigh, normalizeMac mac = .ok target →
      Q { s with arp, neigh } (Heard.address { s with arp, neigh } target)) :
    Prog.ewp hears (resolveIpv4FromMac mac) Q Qe s := by
  rw [resolveIpv4FromMac, Prog.ewp_bind]
  refine ewp_eval (fun m hm => hmal _ m hm) fun target htarget => ?_
  rw [Prog.ewp_bind, call, Prog.ewp_perform]
  refine ⟨trivial, fun arp => ?_⟩
  cases hfound : findInArp target (splitOn arp '\n') with
  | some ip =>
      have hQ' := hQ target (some arp) none htarget
      rw [Heard.address, Option.getD_some, hfound, Option.some_or, ← hneigh] at hQ'
      exact Prog.ewp_pure.mpr hQ'
  | none =>
      dsimp only
      rw [Prog.ewp_bind, call, Prog.ewp_perform]
      refine ⟨trivial, fun neigh => Prog.ewp_pure.mpr ?_⟩
      have hQ' := hQ target (some arp) (some neigh) htarget
      rw [Heard.address, Option.getD_some, hfound, Option.none_or, Option.getD_some] at hQ'
      exact hQ'

/-- What a handler has been told when it answers: nothing new of the key, the commands, the file
if it has read it, and the suggested range if it has asked for it. -/
structure Heard.Later (s s' : Heard) : Prop where
  file : s.file.isSome = true → s'.file = s.file
  key : s'.key = s.key
  suggested : s.suggested.isSome = true → s'.suggested = s.suggested
  arp : s'.arp = s.arp
  neigh : s'.neigh = s.neigh

lemma Heard.Later.refl (s : Heard) : Heard.Later s s := ⟨fun _ => rfl, rfl, fun _ => rfl, rfl, rfl⟩

lemma Heard.Later.readFile (s : Heard) (text : FileText) :
    Heard.Later s { s with file := s.file.or (some text) } := by
  refine ⟨fun hfile => ?_, rfl, fun _ => rfl, rfl, rfl⟩
  obtain ⟨text', htext'⟩ := Option.isSome_iff_exists.mp hfile
  rw [htext', Option.some_or]

lemma Heard.Later.hasKey {s s' : Heard} (h : s.Later s') (hfile : s.file.isSome = true)
    (hkey : s.HasKey) : s'.HasKey := by
  rw [Heard.HasKey, h.file hfile, h.key]
  exact hkey

lemma Heard.Later.range {s s' : Heard} (h : s.Later s') {cidr : String}
    (hcidr : cidr = "" → s.suggested.isSome = true) : s'.range cidr = s.range cidr := by
  rw [Heard.range, Heard.range]
  by_cases hempty : cidr = ""
  · rw [h.suggested (hcidr hempty)]
  · rw [if_pos hempty, if_pos hempty]

lemma Heard.Later.address {s s' : Heard} (h : s.Later s') (target : String) :
    s'.address target = s.address target := by
  rw [Heard.address, Heard.address, h.arp, h.neigh]

/-- A scan tells a handler nothing of this, and does not throw. -/
lemma hears_scan {Q : Heard → Option (String × Option String) → Prop} {uuid cidr : String}
    {key : Json} {perHostTimeoutMs : Option Number} {targetMac : Option String}
    (hQ : ∀ hit, Q s hit) :
    Prog.ewp hears (resolveHostByUuidScan uuid cidr key perHostTimeoutMs targetMac) Q Qe s := by
  rw [resolveHostByUuidScan]
  split
  · exact Prog.ewp_pure.mpr (hQ _)
  · exact Prog.ewp_pure.mpr (hQ _)
  · rw [Prog.ewp_bind]
    exact hears_quiet trivial fun probes => Prog.ewp_pure.mpr (hQ _)

lemma hears_probeAll {Q : Heard → List Probe → Prop} {ips : List String} {key : Json}
    {timeoutMs : Number} {workers : ℕ} (hQ : ∀ probes, Q s probes) :
    Prog.ewp hears (probeAll ips key timeoutMs workers) Q Qe s :=
  Prog.ewp_ite (fun _ => Prog.ewp_pure.mpr (hQ [])) fun _ => hears_quiet trivial hQ

/-- The end of the resolve handler answers, whatever it has found. -/
lemma hears_answerHost {Q : Heard → Response → Prop} {uuid : String}
    {found : Option (String × Option String)} {notFound : Async String}
    (hnot : ∀ Q' : Heard → String → Prop, (∀ s' m, s.Later s' → Q' s' m) →
      Prog.ewp hears notFound Q' Qe s)
    (hQ : ∀ s' r, s.Later s' → Q s' r) :
    Prog.ewp hears (answerHost uuid found notFound) Q Qe s := by
  rw [answerHost]
  split
  · rw [saveHost, Prog.ewp_bind, Prog.ewp_bind]
    refine hears_readConfig fun text => ?_
    rw [Prog.ewp_bind]
    refine hears_quiet trivial fun time => hears_writeConfig ?_
    exact Prog.ewp_pure.mpr (hQ _ _ (.readFile s text))
  · rw [Prog.ewp_bind]
    exact hnot _ fun s' m hs' => Prog.ewp_pure.mpr (hQ _ _ hs')

lemma hears_pure_message (m : String) (Q : Heard → String → Prop)
    (hQ : ∀ s' m, s.Later s' → Q s' m) : Prog.ewp hears (pure m : Async String) Q Qe s :=
  Prog.ewp_pure.mpr (hQ s m (.refl s))

lemma hears_notFoundByUuid (cidr : String) (Q : Heard → String → Prop)
    (hQ : ∀ s' m, s.Later s' → Q s' m) : Prog.ewp hears (notFoundByUuid cidr) Q Qe s := by
  rw [notFoundByUuid, Prog.ewp_bind, call, Prog.ewp_perform]
  refine ⟨trivial, fun suggested => Prog.ewp_pure.mpr (hQ _ _ ?_)⟩
  refine ⟨fun _ => rfl, rfl, fun hsome => ?_, rfl, rfl⟩
  obtain ⟨cidr', hcidr'⟩ := Option.isSome_iff_exists.mp hsome
  show s.suggested.or _ = s.suggested
  rw [hcidr', Option.some_or]

end Rules

/-! ### The handlers -/

lemma resolveFields_eq {req : Request} {uuid mac cidr : String} {timeoutMs : Option Number}
    (huuid : toText (coalesce ((parseJsonBody req).get? "uuid") (some (.str ""))) = .ok uuid)
    (hmac : toText (coalesce ((parseJsonBody req).get? "mac")
      (coalesce ((parseJsonBody req).get? "macAddress") (some (.str "")))) = .ok mac)
    (hcidr : truthyText ((parseJsonBody req).get? "cidr") = .ok cidr)
    (htimeout : optionalNumber ((parseJsonBody req).get? "perHostTimeoutMs") = .ok timeoutMs) :
    resolveFields req = .ok (uuid, mac, cidr) := by
  simp only [resolveFields, huuid, hmac, hcidr, htimeout]
  rfl

lemma answerable_resolve_iff {req : Request} {uuid mac cidr : String}
    (hreq : resolveFields req = .ok (uuid, mac, cidr)) (huuid : uuid ≠ "") (s : Heard) :
    HostHandler.resolve.Answerable req s ↔ if mac = ""
      then s.range cidr ≠ "" → s.HasKey
      else ∃ target, normalizeMac mac = .ok target ∧
        (s.address target = none → s.range cidr ≠ "" → s.HasKey) := by
  constructor
  · rintro ⟨uuid', mac', cidr', hreq', hcond⟩
    obtain ⟨rfl, heq⟩ := Prod.mk.inj (Except.ok.inj (hreq.symm.trans hreq'))
    obtain ⟨rfl, rfl⟩ := Prod.mk.inj heq
    exact hcond.resolve_left huuid
  · exact fun hcond => ⟨uuid, mac, cidr, hreq, Or.inr hcond⟩

lemma answerable_discover_iff {req : Request} {cidr : String} {concurrency : Option Number}
    (hreq : discoverFields req = .ok (cidr, concurrency)) (s : Heard) :
    HostHandler.discover.Answerable req s ↔ (s.range cidr ≠ "" → s.HasKey ∧
      ∀ ips, listHostsInCidr (s.range cidr) = .ok ips →
        ∃ workers, workerCount (concurrency.getD (.fin 24)) = .ok workers) := by
  constructor
  · rintro ⟨cidr', concurrency', hreq', hcond⟩
    obtain ⟨rfl, rfl⟩ := Prod.mk.inj (Except.ok.inj (hreq.symm.trans hreq'))
    exact hcond
  · exact fun hcond => ⟨cidr, concurrency, hreq, hcond⟩

lemma resolve_answers (req : Request) :
    Prog.ewp hears (createResolveHostHandler req)
      (fun s _ => HostHandler.resolve.Answerable req s)
      (fun s _ => ¬ HostHandler.resolve.Answerable req s) .nothing := by
  have hfields : ∀ {m : String} {s : Heard}, resolveFields req = .error m →
      ¬ HostHandler.resolve.Answerable req s := by
    rintro m s hm ⟨uuid, mac, cidr, hok, -⟩
    rw [hm] at hok
    cases hok
  rw [createResolveHostHandler, Prog.ewp_bind]
  refine ewp_eval (fun m hm => hfields (m := m) ?_) fun uuid huuid => ?_
  · simp only [resolveFields, hm]
    rfl
  rw [Prog.ewp_bind]
  refine ewp_eval (fun m hm => hfields (m := m) ?_) fun mac hmac => ?_
  · simp only [resolveFields, huuid, hm]
    rfl
  rw [Prog.ewp_bind]
  refine ewp_eval (fun m hm => hfields (m := m) ?_) fun text htext => ?_
  · simp only [resolveFields, huuid, hmac, hm]
    rfl
  rw [Prog.ewp_bind]
  refine ewp_eval (fun m hm => hfields (m := m) ?_) fun timeoutMs htimeout => ?_
  · simp only [resolveFields, huuid, hmac, htext, hm]
    rfl
  have hreq := resolveFields_eq huuid hmac htext htimeout
  refine Prog.ewp_ite (fun hempty => Prog.ewp_pure.mpr ⟨uuid, mac, text, hreq, Or.inl hempty⟩)
    fun huuid' => ?_
  simp only [answerable_resolve_iff hreq huuid']
  refine Prog.ewp_ite (fun hmac' => ?_) fun hmac' => ?_
  · -- by the MAC address, and then by a scan
    simp only [if_neg hmac']
    rw [Prog.ewp_bind]
    refine hears_pingSweep ?_
    rw [Prog.ewp_bind]
    refine hears_resolveIpv4FromMac rfl (fun e m hm => ?_) fun target arp neigh htarget => ?_
    · rintro ⟨target, htarget, -⟩
      rw [hm] at htarget
      cases htarget
    cases haddr : Heard.address { Heard.nothing with arp, neigh } target with
    | some ip =>
        refine hears_answerHost (hears_pure_message _) fun s' r hs' => ?_
        refine ⟨target, htarget, fun hnone => ?_⟩
        rw [hs'.address, haddr] at hnone
        cases hnone
    | none =>
        dsimp only
        rw [Prog.ewp_bind]
        refine hears_effectiveCidr rfl fun suggested hsuggested => ?_
        refine Prog.ewp_ite (fun hrange => ?_) fun hrange => ?_
        · refine hears_answerHost (hears_pure_message _) fun s' r hs' => ?_
          refine ⟨target, htarget, fun _ hne => absurd hrange ?_⟩
          rwa [hs'.range hsuggested] at hne
        rw [Prog.ewp_bind]
        refine hears_requireLanKey rfl rfl (fun file key v hkey hfile => ?_)
          fun file key e hmissing => ?_
        · rw [Prog.ewp_bind]
          refine hears_pingSweep ?_
          rw [Prog.ewp_bind]
          refine hears_scan fun hit => ?_
          refine hears_answerHost (hears_pure_message _) fun s' r hs' => ?_
          exact ⟨target, htarget, fun _ _ => hs'.hasKey hfile hkey⟩
        · rintro ⟨target', htarget', hcond⟩
          obtain rfl := Except.ok.inj (htarget.symm.trans htarget')
          exact hmissing (hcond haddr hrange)
  · have hempty := not_not.mp hmac'
    simp only [if_pos hempty]
    rw [Prog.ewp_bind]
    refine hears_effectiveCidr rfl fun suggested hsuggested => ?_
    refine Prog.ewp_ite (fun hrange => ?_) fun hrange => ?_
    · exact Prog.ewp_pure.mpr fun hne => absurd hrange hne
    rw [Prog.ewp_bind]
    refine hears_requireLanKey rfl rfl (fun file key v hkey hfile => ?_)
      fun file key e hmissing hcond => hmissing (hcond hrange)
    rw [Prog.ewp_bind]
    refine hears_pingSweep ?_
    rw [Prog.ewp_bind]
    refine hears_scan fun hit => hears_answerHost (hears_notFoundByUuid _) fun s' r hs' => ?_
    exact fun _ => hs'.hasKey hfile hkey

lemma discover_answers (req : Request) :
    Prog.ewp hears (createDiscoverHostsHandler req)
      (fun s _ => HostHandler.discover.Answerable req s)
      (fun s _ => ¬ HostHandler.discover.Answerable req s) .nothing := by
  have hfields : ∀ {m : String} {s : Heard}, discoverFields req = .error m →
      ¬ HostHandler.discover.Answerable req s := by
    rintro m s hm ⟨cidr, concurrency, hok, -⟩
    rw [hm] at hok
    cases hok
  rw [createDiscoverHostsHandler, Prog.ewp_bind]
  refine ewp_eval (fun m hm => hfields (m := m) ?_) fun text htext => ?_
  · simp only [discoverFields, hm]
    rfl
  rw [Prog.ewp_bind]
  refine hears_effectiveCidr rfl fun suggested hsuggested => ?_
  rw [Prog.ewp_bind]
  refine ewp_eval (fun m hm => hfields (m := m) ?_) fun timeoutMs htimeout => ?_
  · simp only [discoverFields, htext, hm]
    rfl
  rw [Prog.ewp_bind]
  refine ewp_eval (fun m hm => hfields (m := m) ?_) fun concurrency hconcurrency => ?_
  · simp only [discoverFields, htext, htimeout, hm]
    rfl
  have hreq : discoverFields req = .ok (text, concurrency) := by
    simp only [discoverFields, htext, htimeout, hconcurrency]
    rfl
  simp only [answerable_discover_iff hreq]
  refine Prog.ewp_ite (fun hrange => Prog.ewp_pure.mpr fun hne => absurd hrange hne)
    fun hrange => ?_
  rw [Prog.ewp_bind]
  refine hears_requireLanKey rfl rfl (fun file key v hkey hfile => ?_)
    fun file key e hmissing hcond => hmissing (hcond hrange).1
  rw [Prog.ewp_bind]
  refine hears_pingSweep ?_
  cases hips : listHostsInCidr (Heard.range { Heard.nothing with suggested } text) with
  | error m =>
      refine Prog.ewp_pure.mpr fun _ => ⟨hkey, fun ips hok => ?_⟩
      exact absurd (hips.symm.trans hok) (by simp)
  | ok ips =>
      dsimp only
      rw [Prog.ewp_bind]
      refine ewp_eval (fun m hm hcond => ?_) fun workers hworkers => ?_
      · obtain ⟨workers, hworkers⟩ := (hcond hrange).2 ips hips
        rw [hm] at hworkers
        cases hworkers
      rw [Prog.ewp_bind]
      refine hears_probeAll fun probes => ?_
      rw [Prog.ewp_bind]
      refine hears_readConfig fun cfg => ?_
      rw [Prog.ewp_bind]
      refine hears_writeConfig (Prog.ewp_pure.mpr fun _ => ⟨?_, fun _ _ => ⟨workers, hworkers⟩⟩)
      exact (Heard.Later.readFile _ cfg).hasKey hfile hkey

/-- **Answers**: in any surroundings, a handler settles with an answer exactly if the request
is answerable. -/
theorem answers_iff (h : HostHandler) (req : Request) (env : Environment) :
    (∃ r, (Prog.run env (h.prog req).run).1 = .ok r) ↔
      h.Answerable req (heard (Prog.run env (h.prog req).run).2) := by
  have hspec : Prog.ewp hears (h.prog req) (fun s _ => h.Answerable req s)
      (fun s _ => ¬ h.Answerable req s) .nothing := by
    cases h with
    | resolve => exact resolve_answers req
    | discover => exact discover_answers req
  have hrun := Prog.wp_run_foldl (Prog.wp_run_iff (P := fun s r => (∃ a, r = .ok a) ↔
    h.Answerable req s).mpr (Prog.ewp_mono hspec (fun s a ha => ?_) fun s e he => ?_)) env
  · exact hrun
  · exact iff_of_true ⟨a, rfl⟩ ha
  · exact iff_of_false (fun ⟨a, ha⟩ => by cases ha) he

/-- A malformed MAC address is not answered with an error: the handler throws. -/
theorem resolve_throws :
    ¬ ∀ (h : HostHandler) (req : Request) (env : Environment),
      ∃ r, (Prog.run env (h.prog req).run).1 = .ok r := by
  intro hall
  obtain ⟨r, hr⟩ := hall .resolve (⟨"application/json",
    some (.obj [("uuid", .str "plug"), ("mac", .str "unknown")])⟩) fun _ => silence
  have hthrow : ((Prog.run (fun _ => silence) (HostHandler.resolve.prog ⟨"application/json",
      some (.obj [("uuid", .str "plug"), ("mac", .str "unknown")])⟩).run).1.toOption).isSome
      = false := by
    decide +kernel
  rw [hr] at hthrow
  cases hthrow

end Merossity
