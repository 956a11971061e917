import Merossity.Api.ConfigSequence
import Merossity.Meross.Mac

/-!
Where the MAC addresses come from that the operations write.

* `storedMac` and `knownMac` read the MAC address of a host, `suppliedMac`, `rawMac` and
  `wantedMac` are those that a request and a recovery begin with.
* `trail` is a monitor that keeps the configuration an operation has read first, the devices
  that have answered, and what was written; `Wrote` says which MAC address an operation writes,
  and the specifications that it does.
* `runOp_ends` reads the specification off an operation that has run.
-/

namespace Merossity

open Js

/-! ### MAC addresses of the configuration -/

/-- `hosts[uuid].mac`. -/
def storedMac (cfg : Json) (uuid : String) : Option Json := Json.opt (hostOf cfg uuid) "mac"

/-- The MAC address that is known of a host, one that is not empty. -/
def knownMac (cfg : Json) (uuid : String) : Option Json :=
  (storedMac cfg uuid).filter fun mac => truthy (some mac)

/-- The MAC address that a request to resolve a host supplies, if it is well formed. -/
def suppliedMac (req : Request) : Option String :=
  let body := parseJsonBody req
  match toText (coalesce (body.get? "mac") (coalesce (body.get? "macAddress") (some (.str ""))))
  with
  | .ok mac => (normalizeMac mac).toOption
  | .error _ => none

/-- The MAC address that a recovery begins with: that of the host, or that of the cloud list. -/
def rawMac (cfg : Json) (uuid : String) : Except String String := do
  let cloudDevice ← findCloudDevice true cfg uuid
  toText (coalesce (storedMac cfg uuid) (coalesce (Json.opt cloudDevice "macAddress")
    (coalesce (Json.opt cloudDevice "mac") (some (.str "")))))

/-- A MAC address as a recovery spells it: canonical, if it can be normalized. -/
def tidyMac (raw : String) : String := (normalizeMac (trim raw)).toOption.getD (trim raw)

/-- The MAC address that a recovery looks for. -/
def wantedMac (raw : String) : Option String := if trim raw = "" then none else some (tidyMac raw)

/-- What a recovery makes of the devices that answered its scan: the host to write, and its MAC
address. -/
def scanned (uuid : String) (wanted : Option String) (probed : List Probe) :
    Option (String × Option String) :=
  ((lastOr (scanMatch uuid wanted) none probed).map fun hit => (hit.1, hit.2.or wanted)).filter
    fun hit => hit.1 ≠ ""

/-- The last device that answered as this one. -/
def lastAnswer (uuid : String) (probed : List Probe) : Option Probe :=
  lastOr (fun p => if extractLanUuid p.resp = some uuid then some p else none) none probed

/-! ### What an operation writes -/

/-- The configuration that an operation has read first, the devices that have answered, and
what it has written. -/
structure Trail where
  config : Option Json
  probed : List Probe
  edit : Option ConfigEdit

/-- An operation at its start. -/
def Trail.start : Trail := ⟨none, [], none⟩

/-- The monitor that keeps the trail of an operation, which writes only after it has read. -/
def trail : Monitor Call Reply Trail where
  ok s c := match c with
    | .endWrite _ _ => s.config.isSome = true
    | _ => True
  next s c := match c with
    | .readFile => fun text => { s with config := s.config.or (some (loadMerossConfig text)) }
    | .probeHosts .. => fun probes => { s with probed := s.probed ++ probes }
    | .endWrite _ edit => fun _ => { s with edit := some edit }
    | _ => fun _ => s

/-- A MAC address for a host that a request supplies, or that the host itself reports. -/
def Given (req : Request) (uuid : String) (probed : List Probe) (mac : String) : Prop :=
  suppliedMac req = some mac ∨
    ∃ p ∈ probed, extractLanUuid p.resp = some uuid ∧ extractLanMac p.resp = some mac

/-- What a recovery writes: the address found for the MAC address it looks for, or a device that
answered its scan. -/
inductive Recovered (cfg : Json) (uuid : String) (s : Trail) : ConfigEdit → Prop where
  | lookup {raw host time mac : String} (hraw : rawMac cfg uuid = .ok raw)
      (hmac : wantedMac raw = some mac) (hwell : ∃ n, normalizeMac mac = .ok n)
      (hscan : s.probed = []) : Recovered cfg uuid s (.host uuid host time (some mac))
  | scan {raw host time : String} {mac : Option String} (hraw : rawMac cfg uuid = .ok raw)
      (hscan : scanned uuid (wantedMac raw) s.probed = some (host, mac)) :
      Recovered cfg uuid s (.host uuid host time mac)

/-- What an operation has written at its end. -/
def Wrote : Operation → Trail → Prop
  | .resolve req, s => ∀ uuid host time mac, s.edit = some (.host uuid host time (some mac)) →
      Given req uuid s.probed mac
  | .discover _, s => s.edit = none → s.probed = []
  | .recover uuid, s => ∃ cfg, s.config = some cfg ∧ match s.edit with
      | none => ∀ raw, rawMac cfg uuid = .ok raw → scanned uuid (wantedMac raw) s.probed = none
      | some edit => Recovered cfg uuid s edit
  | _, _ => True

section Rules

variable {α : Type} {Q : Trail → α → Prop} {Qe : Trail → JsError → Prop} {s : Trail}

/-- A program that keeps away from the file, and does not scan. -/
lemma trail_remote {p : Async α} (hp : Makes Call.remote p) (hQ : ∀ a, Q s a)
    (hQe : ∀ e, Qe s e) : Prog.ewp trail p Q Qe s := by
  refine Prog.ewp_of_only (· = s) ?_ hp.only rfl (fun s' a hs => hs ▸ hQ a)
    fun s' e hs => hs ▸ hQe e
  intro s' c hc hs
  cases c <;> first | exact hc.elim | exact ⟨trivial, fun _ => hs⟩

/-- A sweep does not throw. -/
lemma trail_pingSweep {Q : Trail → Unit → Prop} {cidr : String} (hQ : Q s ()) :
    Prog.ewp trail (pingSweep cidr) Q Qe s := by
  refine Prog.ewp_ite (fun _ => ?_) fun _ => Prog.ewp_pure.mpr hQ
  rw [call, Prog.ewp_perform]
  exact ⟨trivial, fun _ => hQ⟩

/-- A program that only reads. -/
lemma trail_reads {p : Async α} (hp : Makes Call.reads p)
    (hQ : ∀ config a, (s.config.isSome = true → config = s.config) → Q { s with config } a)
    (hQe : ∀ config e, (s.config.isSome = true → config = s.config) → Qe { s with config } e) :
    Prog.ewp trail p Q Qe s := by
  refine Prog.ewp_of_only (fun s' => ∃ config, (s.config.isSome = true → config = s.config) ∧
    s' = { s with config }) ?_ hp.only ⟨s.config, fun _ => rfl, rfl⟩ ?_ ?_
  · rintro _ c hc ⟨config, hconfig, rfl⟩
    cases c <;> try exact hc.elim
    case readFile =>
      refine ⟨trivial, fun text => ⟨config.or (some (loadMerossConfig text)), fun hsome => ?_, rfl⟩⟩
      rw [hconfig hsome]
      cases hc : s.config with
      | none => simp [hc] at hsome
      | some cfg => rfl
    case env => exact ⟨trivial, fun _ => ⟨_, hconfig, rfl⟩⟩
  · rintro _ a ⟨config, hconfig, rfl⟩
    exact hQ config a hconfig
  · rintro _ e ⟨config, hconfig, rfl⟩
    exact hQe config e hconfig

lemma trail_readConfig {Q : Trail → Json → Prop}
    (hQ : ∀ cfg, Q { s with config := s.config.or (some cfg) } cfg) :
    Prog.ewp trail readConfig Q Qe s := by
  rw [readConfig, Prog.ewp_bind, call, Prog.ewp_perform]
  exact ⟨trivial, fun text => Prog.ewp_pure.mpr (hQ _)⟩

lemma trail_writeConfig {Q : Trail → Unit → Prop} {cfg : Json} {edit : ConfigEdit}
    (hs : s.config.isSome = true) (hQ : Q { s with edit := some edit } ()) :
    Prog.ewp trail (writeConfig cfg edit) Q Qe s :=
  ewp_writeConfig_of_end ⟨trivial, rfl⟩ ⟨trivial, rfl⟩ hs hQ

/-- Reading and writing back. -/
lemma trail_saveHost {Q : Trail → Unit → Prop} {uuid host : String} {mac : Option String}
    (hQ : ∀ cfg time, Q { s with config := s.config.or (some cfg)
                                 edit := some (.host uuid host time mac) } ()) :
    Prog.ewp trail (saveHost uuid host mac) Q Qe s := by
  rw [saveHost, Prog.ewp_bind]
  refine trail_readConfig fun cfg => ?_
  rw [Prog.ewp_bind, call, Prog.ewp_perform]
  refine ⟨trivial, fun time => trail_writeConfig ?_ (hQ cfg time)⟩
  show (s.config.or (some cfg)).isSome = true
  cases s.config <;> rfl

lemma trail_probeAll {Q : Trail → List Probe → Prop} {ips : List String} {key : Json}
    {timeoutMs : Number} {workers : ℕ}
    (hQ : ∀ probes, Q { s with probed := s.probed ++ probes } probes) :
    Prog.ewp trail (probeAll ips key timeoutMs workers) Q Qe s := by
  refine Prog.ewp_ite (fun _ => Prog.ewp_pure.mpr ?_) fun _ => ?_
  · have hnil := hQ []
    rwa [List.append_nil] at hnil
  · rw [call, Prog.ewp_perform]
    exact ⟨trivial, hQ⟩

/-- A lookup returns only if the MAC address is well formed. -/
lemma trail_resolveIpv4FromMac {Q : Trail → Option String → Prop} {mac : String}
    (hQ : ∀ ip n, normalizeMac mac = .ok n → Q s ip) (hQe : ∀ e, Qe s e) :
    Prog.ewp trail (resolveIpv4FromMac mac) Q Qe s := by
  rw [resolveIpv4FromMac, Prog.ewp_bind]
  refine ewp_eval (fun _ _ => hQe _) fun n hn => ?_
  rw [Prog.ewp_bind, call, Prog.ewp_perform]
  refine ⟨trivial, fun arpOut => ?_⟩
  split
  · exact Prog.ewp_pure.mpr (hQ _ n hn)
  · rw [Prog.ewp_bind, call, Prog.ewp_perform]
    exact ⟨trivial, fun _ => Prog.ewp_pure.mpr (hQ _ n hn)⟩

/-- A scan returns the last of the devices that match. -/
lemma trail_scan {Q : Trail → Option (String × Option String) → Prop} {uuid cidr : String}
    {key : Json} {perHostTimeoutMs : Option Number} {targetMac : Option String}
    (hQ : ∀ probes, Q { s with probed := s.probed ++ probes }
      (lastOr (scanMatch uuid targetMac) none probes)) :
    Prog.ewp trail (resolveHostByUuidScan uuid cidr key perHostTimeoutMs targetMac) Q Qe s := by
  have hnil := hQ []
  rw [List.append_nil] at hnil
  rw [resolveHostByUuidScan]
  split
  · exact Prog.ewp_pure.mpr hnil
  · exact Prog.ewp_pure.mpr hnil
  · rw [Prog.ewp_bind, call, Prog.ewp_perform]
    exact ⟨trivial, fun probes => Prog.ewp_pure.mpr (hQ probes)⟩

end Rules

/-! ### The operations that write hosts -/

lemma trail_discover (req : Request) :
    Prog.ewp trail (createDiscoverHostsHandler req)
      (fun s _ => Wrote (.discover req) s) (fun s _ => s.edit = none ∧ s.probed = []) .start := by
  have hearly : ∀ config, Wrote (.discover req) { Trail.start with config } := fun _ _ => rfl
  rw [createDiscoverHostsHandler, Prog.ewp_bind]
  refine ewp_eval (fun _ _ => ⟨rfl, rfl⟩) fun text _ => ?_
  rw [Prog.ewp_bind]
  refine trail_remote (effectiveCidr_remote _) (fun cidr => ?_) fun _ => ⟨rfl, rfl⟩
  rw [Prog.ewp_bind]
  refine ewp_eval (fun _ _ => ⟨rfl, rfl⟩) fun timeoutMs _ => ?_
  rw [Prog.ewp_bind]
  refine ewp_eval (fun _ _ => ⟨rfl, rfl⟩) fun concurrency _ => ?_
  refine Prog.ewp_ite (fun _ => Prog.ewp_pure.mpr (hearly _)) fun _ => ?_
  rw [Prog.ewp_bind]
  refine trail_reads requireLanKey_makes (fun config key _ => ?_) fun _ _ _ => ⟨rfl, rfl⟩
  rw [Prog.ewp_bind]
  refine trail_remote (pingSweep_remote _) (fun _ => ?_) fun _ => ⟨rfl, rfl⟩
  cases listHostsInCidr cidr with
  | error m => exact Prog.ewp_pure.mpr (hearly _)
  | ok ips =>
      dsimp only
      rw [Prog.ewp_bind]
      refine ewp_eval (fun _ _ => ⟨rfl, rfl⟩) fun workers _ => ?_
      rw [Prog.ewp_bind]
      refine trail_probeAll fun probes => ?_
      rw [Prog.ewp_bind]
      refine trail_readConfig fun cfg => ?_
      rw [Prog.ewp_bind]
      refine trail_writeConfig ?_ (Prog.ewp_pure.mpr fun hnone => by cases hnone)
      show (config.or (some cfg)).isSome = true
      cases config <;> rfl

/-- A scan gives the MAC address looked for, or the one that the device itself reports. -/
lemma reported_of_scan {uuid ip mac : String} {wanted : Option String} {probed : List Probe}
    (h : lastOr (scanMatch uuid wanted) none probed = some (ip, some mac)) :
    wanted = some mac ∨
      ∃ p ∈ probed, extractLanUuid p.resp = some uuid ∧ extractLanMac p.resp = some mac := by
  obtain ⟨p, hp, hscan⟩ := lastOr_eq_some h
  rw [scanMatch] at hscan
  split at hscan
  next hmatch =>
    obtain ⟨-, hmac⟩ := Prod.mk.inj (Option.some.inj hscan)
    rcases hmatch with huuid | ⟨-, htarget, -⟩
    · exact Or.inr ⟨p, hp, huuid, hmac⟩
    · exact Or.inl (htarget.trans hmac)
  next => cases hscan

lemma trail_answerHost {req : Request} {uuid : String} {found : Option (String × Option String)}
    {notFound : Async String} {s : Trail} (hs : s.edit = none) (hnot : Makes Call.remote notFound)
    (hfound : ∀ ip mac, found = some (ip, some mac) → Given req uuid s.probed mac) :
    Prog.ewp trail (answerHost uuid found notFound) (fun s _ => Wrote (.resolve req) s)
      (fun s _ => s.edit = none) s := by
  have hnone : Wrote (.resolve req) s := by
    intro uuid host time mac hedit
    rw [hs] at hedit
    cases hedit
  rw [answerHost]
  split
  next ip mac hhit =>
    rw [Prog.ewp_bind]
    refine trail_saveHost fun cfg time => Prog.ewp_pure.mpr ?_
    intro uuid' host time' mac' hedit
    obtain ⟨rfl, -, -, rfl⟩ := ConfigEdit.host.inj (Option.some.inj hedit)
    exact hfound ip mac' (Option.filter_eq_some_iff.mp hhit).1
  next =>
    rw [Prog.ewp_bind]
    exact trail_remote hnot (fun m => Prog.ewp_pure.mpr hnone) fun e => hs

lemma suppliedMac_eq {req : Request} {mac : String}
    (h : toText (coalesce ((parseJsonBody req).get? "mac")
      (coalesce ((parseJsonBody req).get? "macAddress") (some (.str "")))) = .ok mac) :
    suppliedMac req = (normalizeMac mac).toOption := by
  unfold suppliedMac
  simp only [h]

lemma trail_resolve (req : Request) :
    Prog.ewp trail (createResolveHostHandler req)
      (fun s _ => Wrote (.resolve req) s) (fun s _ => s.edit = none) .start := by
  have hearly : ∀ config, Wrote (.resolve req) { Trail.start with config } := by
    intro config uuid host time mac hedit
    cases hedit
  rw [createResolveHostHandler, Prog.ewp_bind]
  refine ewp_textField (fun _ => rfl) fun uuid _ => ?_
  rw [Prog.ewp_bind]
  refine ewp_eval (fun _ _ => rfl) fun mac hmac => ?_
  have hsupplied := suppliedMac_eq hmac
  rw [Prog.ewp_bind]
  refine ewp_eval (fun _ _ => rfl) fun text _ => ?_
  rw [Prog.ewp_bind]
  refine ewp_eval (fun _ _ => rfl) fun timeoutMs _ => ?_
  refine Prog.ewp_ite (fun _ => Prog.ewp_pure.mpr (hearly _)) fun _ => ?_
  refine Prog.ewp_ite (fun _ => ?_) fun hempty => ?_
  · -- by the MAC address, and then by a scan
    dsimp only
    rw [← hsupplied, Prog.ewp_bind]
    refine trail_remote (pingSweep_remote _) (fun _ => ?_) fun e => rfl
    rw [Prog.ewp_bind]
    refine trail_remote (resolveIpv4FromMac_remote _) (fun ip => ?_) fun e => rfl
    cases ip with
    | some ip =>
        refine trail_answerHost rfl (makes_pure _) fun ip' mac' hfound => Or.inl ?_
        exact (Prod.mk.inj (Option.some.inj hfound)).2
    | none =>
        dsimp only
        rw [Prog.ewp_bind]
        refine trail_remote (effectiveCidr_remote _) (fun cidr => ?_) fun e => rfl
        refine Prog.ewp_ite (fun _ => ?_) fun _ => ?_
        · exact trail_answerHost rfl (makes_pure _) fun _ _ hfound => by cases hfound
        rw [Prog.ewp_bind]
        refine trail_reads requireLanKey_makes (fun config key _ => ?_) fun _ _ _ => rfl
        rw [Prog.ewp_bind]
        refine trail_remote (pingSweep_remote _) (fun _ => ?_) fun e => rfl
        rw [Prog.ewp_bind]
        refine trail_scan fun probes => ?_
        refine trail_answerHost rfl (makes_pure _) fun ip' mac' hfound => ?_
        obtain ⟨⟨ip, reported⟩, hscan, heq⟩ := Option.map_eq_some_iff.mp hfound
        obtain ⟨-, hmac'⟩ := Prod.mk.inj heq
        cases reported with
        | none =>
            dsimp only at hmac'
            rw [Option.none_or] at hmac'
            exact Or.inl hmac'
        | some reported =>
            obtain rfl := Option.some.inj hmac'
            exact reported_of_scan hscan
  · have hnone : suppliedMac req = none := by
      rw [hsupplied, not_not.mp hempty]
      decide
    rw [Prog.ewp_bind]
    refine trail_remote (effectiveCidr_remote _) (fun cidr => ?_) fun e => rfl
    refine Prog.ewp_ite (fun _ => Prog.ewp_pure.mpr (hearly _)) fun _ => ?_
    rw [Prog.ewp_bind]
    refine trail_reads requireLanKey_makes (fun config key _ => ?_) fun _ _ _ => rfl
    rw [Prog.ewp_bind]
    refine trail_remote (pingSweep_remote _) (fun _ => ?_) fun e => rfl
    rw [Prog.ewp_bind, ← hnone]
    refine trail_scan fun probes => trail_answerHost rfl (notFoundByUuid_remote cidr) ?_
    exact fun ip mac hscan => reported_of_scan hscan

/-- What a recovery finds: the address of the MAC address it looks for, or a device that answered
its scan. -/
lemma trail_findHost {uuid cidr : String} {key : Json} {wanted : Option String}
    {Q : Trail → Option (String × Option String) → Prop} {Qe : Trail → JsError → Prop} {s : Trail}
    (hs : s.probed = [])
    (hlookup : ∀ host mac n, wanted = some mac → normalizeMac mac = .ok n →
      Q s (some (host, some mac)))
    (hscan : ∀ probes, Q { s with probed := probes } (scanned uuid wanted probes)) :
    Prog.ewp trail (findHost uuid cidr key wanted) Q Qe s := by
  have hrest : Prog.ewp trail (do
      if cidr = "" then return none
      else
        let resolved ← resolveHostByUuidScan uuid cidr key (some (.fin 900)) wanted
        return (resolved.map fun hit => (hit.1, hit.2.or wanted)).filter fun hit => hit.1 ≠ "" :
      Async (Option (String × Option String))) Q Qe s := by
    refine Prog.ewp_ite (fun _ => Prog.ewp_pure.mpr ?_) fun _ => ?_
    · have hnil : Q { s with probed := [] } none := hscan []
      rwa [← hs] at hnil
    · rw [Prog.ewp_bind]
      refine trail_scan fun probes => Prog.ewp_pure.mpr ?_
      have h := hscan probes
      rwa [hs, List.nil_append]
  rw [findHost, Prog.ewp_bind]
  cases wanted with
  | none => exact Prog.ewp_pure.mpr hrest
  | some mac =>
      rw [findByMac, Prog.ewp_bind]
      refine trail_pingSweep ?_
      rw [Prog.ewp_tryCatch]
      refine trail_resolveIpv4FromMac (fun ip n hn => ?_) fun e => Prog.ewp_pure.mpr hrest
      cases ip with
      | none => exact hrest
      | some host => exact Prog.ewp_pure.mpr (hlookup host mac n rfl hn)

lemma rawMac_eq {cfg : Json} {uuid : String} {cloudDevice : Option Json}
    (h : findCloudDevice true cfg uuid = .ok cloudDevice) :
    rawMac cfg uuid = toText (coalesce (storedMac cfg uuid)
      (coalesce (Json.opt cloudDevice "macAddress") (coalesce (Json.opt cloudDevice "mac")
        (some (.str ""))))) := by
  rw [rawMac, h]
  rfl

lemma trail_recover (uuid : String) :
    Prog.ewp trail (tryResolveHost uuid)
      (fun s _ => Wrote (.recover uuid) s) (fun _ _ => False) .start := by
  -- whatever throws before the scan is caught, and nothing is written
  have hcatch : ∀ cfg, Prog.ewp trail (pure none : Async (Option (String × Option String)))
      (fun s _ => Wrote (.recover uuid) s) (fun _ _ => False) ⟨some cfg, [], none⟩ :=
    fun cfg => Prog.ewp_pure.mpr ⟨cfg, rfl, fun _ _ => rfl⟩
  rw [tryResolveHost, Prog.ewp_tryCatch, Prog.ewp_bind]
  refine trail_readConfig fun cfg => ?_
  rw [Prog.ewp_bind]
  refine trail_reads requireLanKey_makes (fun config key hconfig => ?_) fun config _ hconfig => ?_
  swap
  · obtain rfl : config = some cfg := hconfig rfl
    exact hcatch cfg
  obtain rfl : config = some cfg := hconfig rfl
  rw [Prog.ewp_bind]
  refine ewp_eval (fun _ _ => hcatch cfg) fun stored _ => ?_
  rw [Prog.ewp_bind]
  refine trail_remote (effectiveCidr_remote _) (fun cidr => ?_) fun _ => hcatch cfg
  rw [Prog.ewp_bind]
  refine ewp_eval (fun _ _ => hcatch cfg) fun cloudDevice hdevice => ?_
  have hraw := rawMac_eq hdevice
  rw [Prog.ewp_bind]
  refine ewp_eval (fun _ _ => hcatch cfg) fun raw hraw' => ?_
  have hraw : rawMac cfg uuid = .ok raw := hraw.trans hraw'
  have hwanted : (if trim raw = "" then none
      else some ((normalizeMac (trim raw)).toOption.getD (trim raw))) = wantedMac raw := rfl
  dsimp only
  rw [hwanted, Prog.ewp_bind]
  refine trail_findHost rfl (fun host mac n hmac hn => ?_) fun probes => ?_
  · dsimp only
    rw [Prog.ewp_bind]
    refine trail_saveHost fun cfg' time => Prog.ewp_pure.mpr ?_
    exact ⟨cfg, rfl, .lookup hraw hmac ⟨n, hn⟩ rfl⟩
  · cases hfound : scanned uuid (wantedMac raw) probes with
    | none =>
        refine Prog.ewp_pure.mpr ⟨cfg, rfl, fun raw' hraw' => ?_⟩
        obtain rfl := Except.ok.inj (hraw.symm.trans hraw')
        exact hfound
    | some hit =>
        dsimp only
        rw [Prog.ewp_bind]
        refine trail_saveHost fun cfg' time => Prog.ewp_pure.mpr ?_
        exact ⟨cfg, rfl, .scan hraw hfound⟩

/-! ### One operation -/

/-- What the file and the history have to do with the trail of an operation that began with the
file `file`. -/
structure Leaves (file : FileText) (t : FileText × List (Prog.Event Call Reply)) (s : Trail) :
    Prop where
  edit : (commitOf t.2).map Commit.edit = s.edit
  probed : probedIn t.2 = s.probed
  unwritten : s.edit = none → t.1 = file
  read : s.edit.isSome = true → s.config.isSome = true
  config : ∀ cfg, s.config = some cfg → cfg = loadMerossConfig file

/-- A call that changes neither the file nor the trail. -/
lemma Leaves.remote {file : FileText} {t : FileText × List (Prog.Event Call Reply)} {s : Trail}
    (h : Leaves file t s) {c : Call} (r : Reply c) (hwrite : ∀ base edit, c ≠ .endWrite base edit)
    (hprobe : ∀ ips key timeoutMs workers, c ≠ .probeHosts ips key timeoutMs workers) :
    Leaves file (t.1, t.2 ++ [⟨c, r⟩]) s where
  edit := by rw [commitOf_concat t.2 r hwrite, h.edit]
  probed := by rw [probedIn_concat t.2 r hprobe, h.probed]
  unwritten := h.unwritten
  read := h.read
  config := h.config

/-- The file keeps up with the trail of an operation. -/
lemma Leaves.step {file : FileText} {env : Environment}
    (t : FileText × List (Prog.Event Call Reply)) (s : Trail) (c : Call)
    (h : Leaves file t s) (hok : trail.ok s c) :
    Leaves file (serve env t c).2 (trail.next s c (serve env t c).1) := by
  cases c with
  | readFile =>
      refine ⟨?_, ?_, h.unwritten, fun hedit => ?_, fun cfg hcfg => ?_⟩
      · exact (congrArg _ (commitOf_concat t.2 _ fun _ _ => by simp)).trans h.edit
      · exact (probedIn_concat t.2 _ fun _ _ _ _ => by simp).trans h.probed
      · have hread := h.read hedit
        show (s.config.or _).isSome = true
        cases hc : s.config with
        | none => rfl
        | some cfg => rfl
      · have hcfg' : s.config.or (some (loadMerossConfig t.1)) = some cfg := hcfg
        cases hc : s.config with
        | some cfg' =>
            rw [hc, Option.some_or] at hcfg'
            exact h.config cfg (hc.trans hcfg')
        | none =>
            rw [hc, Option.none_or] at hcfg'
            have hedit : s.edit = none := by
              cases hedit : s.edit with
              | none => rfl
              | some edit =>
                  have hread := h.read (by rw [hedit]; rfl)
                  rw [hc] at hread
                  cases hread
            rw [← h.unwritten hedit]
            exact (Option.some.inj hcfg').symm
  | endWrite base edit =>
      refine ⟨?_, ?_, fun hedit => (by cases hedit), fun _ => hok, h.config⟩
      · exact congrArg _ (lastOr_concat _ _ _ _)
      · exact (probedIn_concat t.2 _ fun _ _ _ _ => by simp).trans h.probed
  | probeHosts ips key timeoutMs workers =>
      refine ⟨?_, ?_, h.unwritten, h.read, h.config⟩
      · exact (congrArg _ (commitOf_concat t.2 _ fun _ _ => by simp)).trans h.edit
      · show probedIn (t.2 ++ _) = s.probed ++ _
        rw [probedIn, List.flatMap_append, ← h.probed, probedIn]
        exact congrArg _ (List.append_nil _)
  | _ => exact h.remote _ (fun _ _ => by simp) fun _ _ _ _ => by simp

/-- The trail of an operation that has run: what it has written at its end, and what this has
made of the file. -/
structure Outcome.Ends (o : Outcome) (s : Trail) : Prop where
  probed : probedIn o.history = s.probed
  config : ∀ cfg, s.config = some cfg → cfg = loadMerossConfig o.before
  wrote : Wrote o.op s
  effect : s.edit = none ∧ o.after = o.before ∨ ∃ edit, s.edit = some edit ∧
    o.op.Writes s.probed edit ∧ o.after = .json (edit.apply (loadMerossConfig o.before))

/-- What the edit of an operation keeps, the operation keeps. -/
lemma Outcome.Ends.keeps {o : Outcome} {s : Trail} {I : Json → Prop} (h : o.Ends s)
    (hbefore : I (loadMerossConfig o.before))
    (hkeeps : ∀ edit, s.edit = some edit → o.op.Writes s.probed edit →
      I (edit.apply (loadMerossConfig o.before))) : I (loadMerossConfig o.after) := by
  rcases h.effect with ⟨-, hafter⟩ | ⟨edit, hedit, hwrites, hafter⟩
  · rwa [hafter]
  · rw [hafter, ConfigEdit.load_apply]
    exact hkeeps edit hedit hwrites

/-- An operation that keeps to its specification ends with a trail. -/
lemma runOp_ends {op : Operation} {α : Type} {f : α → Bool} {p : Async α}
    (hprog : op.prog = f <$> p)
    (hspec : Prog.ewp trail p (fun s _ => Wrote op s) (fun s _ => Wrote op s) .start)
    (env : Environment) (file : FileText) : ∃ s, (runOp op env file).Ends s := by
  have hstart : Leaves file (file, []) .start :=
    ⟨rfl, rfl, fun _ => rfl, fun hread => (by cases hread), fun cfg hcfg => (by cases hcfg)⟩
  have hwp : Prog.wp trail op.prog.run (fun s _ => Wrote op s) .start := by
    rw [hprog]
    exact Prog.wp_run_iff.mpr (Prog.ewp_map.mpr hspec)
  obtain ⟨s, hs, hwrote⟩ := Prog.wp_exec (serve env) (Leaves file) hwp hstart
    fun t s c h hok => h.step t s c hok
  have hprobed : probedIn (runOp op env file).history = s.probed := hs.probed
  have hedit : (runOp op env file).commit.map Commit.edit = s.edit := hs.edit
  refine ⟨s, hprobed, hs.config, hwrote, ?_⟩
  rcases runOp_spec op env file with ⟨-, c, hc, hbase, hwrites, hafter⟩ | ⟨-, hc, hafter⟩
  · rw [hc] at hedit
    rw [hprobed] at hwrites
    refine Or.inr ⟨c.edit, hedit.symm, hwrites, ?_⟩
    rw [hafter, Commit.result, hbase]
    rfl
  · rw [hc] at hedit
    exact Or.inl ⟨hedit.symm, hafter⟩

lemma runOp_resolve (req : Request) (env : Environment) (file : FileText) :
    ∃ s, (runOp (.resolve req) env file).Ends s := by
  refine runOp_ends rfl (Prog.ewp_mono (trail_resolve req) (fun _ _ h => h) ?_) env file
  intro s e hs uuid host time mac hedit
  rw [hs] at hedit
  cases hedit

lemma runOp_discover (req : Request) (env : Environment) (file : FileText) :
    ∃ s, (runOp (.discover req) env file).Ends s :=
  runOp_ends rfl (Prog.ewp_mono (trail_discover req) (fun _ _ h => h) fun _ _ h _ => h.2) env file

lemma runOp_recover (uuid : String) (env : Environment) (file : FileText) :
    ∃ s, (runOp (.recover uuid) env file).Ends s :=
  runOp_ends rfl (Prog.ewp_mono (trail_recover uuid) (fun _ _ h => h) fun _ _ h => h.elim) env file

end Merossity
