import Merossity.Api.ConfigSequence

/-!
What the terminal interface writes when it starts: `refreshDevices`, `discoverHosts` and `hydrate`
of `cli/src/tui.tsx`, without what they show.

* The two functions close over the configuration of the render that made them, here a parameter.
  They return the configuration that they set for the next render, which `hydrate` does not pass on.
* `KeepsFetched` says that a file has both what the cloud and what the scan have found.
* Both write a whole configuration, spread from the same one, so the second write takes back the
  first: `hydrate_keeps_iff`.
-/

namespace Merossity

open Js

namespace Tui

/-! ### Hydration -/

/-- `refreshDevices` of a render with the configuration `cfg`. -/
def refreshDevices (cfg : Json) : Async Json :=
  if truthy (cfg.get? "cloud") then do
    let list ← merossCloudListDevices ((cfg.get? "cloud").getD .null) none
    let updatedAt ← call .nowIso
    writeConfig cfg (.devices updatedAt list)
    return (ConfigEdit.devices updatedAt list).apply cfg
  else throwNew "Not logged in (missing cloud creds)."

/-- `cfg?.cloud?.key || process.env.MEROSS_KEY`. -/
def scanKey (cfg : Json) : Async Json := do
  let key := Json.opt (cfg.get? "cloud") "key"
  if truthy key then return key.getD .null
  else
    let fromEnv ← call (.env "MEROSS_KEY")
    match fromEnv.filter (· ≠ "") with
    | some key => return .str key
    | none => throwNew "Missing Meross key (cloud not linked and MEROSS_KEY not set)."

/-- `discoverHosts` of a render with the configuration `cfg` and the range `cidr`. -/
def discoverHosts (cfg : Json) (cidr : String) (overrideCidr : Option String) : Async Json := do
  let key ← scanKey cfg
  let effectiveCidr ← effectiveCidr (trim (overrideCidr.getD cidr))
  if effectiveCidr = "" then
    throwNew "Missing CIDR and no auto-suggested CIDR found. Set CIDR or pass \"--cidr\"."
  else
    pingSweep effectiveCidr
    let ips ← eval (listHostsInCidr effectiveCidr)
    let probes ← probeAll ips key (.fin 900) 24
    let found := probes.filterMap foundHost
    writeConfig cfg (.hosts found)
    return (ConfigEdit.hosts found).apply cfg

/-- `hydrate` of a render with the configuration `cfg` and the range `cidr`: the error, if there is
one. -/
def hydrate (cfg : Json) (cidr : String) : Async (Option String) :=
  tryCatch (do
    let _ ← refreshDevices cfg
    let _ ← discoverHosts cfg cidr none
    return none) fun e => return some e.message

/-! ### Runs -/

/-- A run of `hydrate` against a file from which the configuration was loaded, and which nothing
else writes: the result, the file at the end, and the calls. -/
def hydration (env : Environment) (file : FileText) (cidr : String) :
    Except JsError (Option String) × FileText × List (Prog.Event Call Reply) :=
  Prog.exec (serve env) (hydrate (loadMerossConfig file) cidr).run (file, [])

/-- The devices that the cloud returns in the run. -/
def cloudList (env : Environment) (file : FileText) : Except JsError (List Json) :=
  (Prog.exec (serve env)
    (merossCloudListDevices (((loadMerossConfig file).get? "cloud").getD .null) none).run
    (file, [])).1

/-- The hosts that the scan finds in the run, in the order in which they are found. -/
def scanned (env : Environment) (file : FileText) (cidr : String) : Fields :=
  (probedIn (hydration env file cidr).2.2).filterMap foundHost

/-- The configuration `cfg'` has the devices of the cloud, and the hosts of `cfg` overridden by
those that were found. -/
structure KeepsFetched (cfg : Json) (list : List Json) (found : Fields) (cfg' : Json) : Prop where
  devices : Json.opt (cfg'.get? "devices") "list" = some (.arr list)
  hosts : ∀ uuid, hostOf cfg' uuid = (Assoc.get (merge [] found) uuid).or (hostOf cfg uuid)

/-- The monitor of the last write and of the devices that have answered. -/
def lastWrite : Monitor Call Reply (Option Commit × List Probe) where
  ok _ _ := True
  next s c := match c with
    | .probeHosts .. => fun probes => (s.1, s.2 ++ probes)
    | .endWrite base edit => fun _ => (some ⟨base, edit⟩, s.2)
    | _ => fun _ => s

section Rules

variable {α : Type} {Q : Option Commit × List Probe → α → Prop}
  {Qe : Option Commit × List Probe → JsError → Prop} {s : Option Commit × List Probe}

/-- A program that neither writes nor scans. -/
lemma lastWrite_remote {p : Async α} (hp : Makes Call.remote p) (hQ : ∀ a, Q s a)
    (hQe : ∀ e, Qe s e) : Prog.ewp lastWrite p Q Qe s := by
  refine Prog.ewp_of_only (· = s) ?_ hp.only rfl (fun s' a hs => hs ▸ hQ a)
    fun s' e hs => hs ▸ hQe e
  intro s' c hc hs
  cases c <;> first | exact hc.elim | exact ⟨trivial, fun _ => hs⟩

lemma lastWrite_writeConfig {Q : Option Commit × List Probe → Unit → Prop} {cfg : Json}
    {edit : ConfigEdit} (hQ : Q (some ⟨cfg, edit⟩, s.2) ()) :
    Prog.ewp lastWrite (writeConfig cfg edit) Q Qe s :=
  ewp_writeConfig_of_end ⟨trivial, rfl⟩ ⟨trivial, rfl⟩ trivial hQ

lemma scanKey_remote (cfg : Json) : Makes Call.remote (scanKey cfg) := by
  rw [scanKey]
  refine makes_ite (makes_pure _) (makes_bind (makes_call trivial) fun fromEnv => ?_)
  split
  · exact makes_pure _
  · exact makes_throwNew _

/-- What the scan writes last. -/
lemma lastWrite_discoverHosts (cfg : Json) (cidr : String) (overrideCidr : Option String)
    (c : Option Commit) :
    Prog.ewp lastWrite (discoverHosts cfg cidr overrideCidr)
      (fun s _ => s.1 = some ⟨cfg, .hosts (s.2.filterMap foundHost)⟩) (fun _ _ => True)
      (c, []) := by
  rw [discoverHosts, Prog.ewp_bind]
  refine lastWrite_remote (scanKey_remote cfg) (fun key => ?_) fun _ => trivial
  rw [Prog.ewp_bind]
  refine lastWrite_remote (effectiveCidr_remote _) (fun range => ?_) fun _ => trivial
  refine Prog.ewp_ite (fun _ => Prog.ewp_throw.mpr trivial) fun _ => ?_
  rw [Prog.ewp_bind]
  refine lastWrite_remote (pingSweep_remote _) (fun _ => ?_) fun _ => trivial
  rw [Prog.ewp_bind]
  refine lastWrite_remote (makes_eval _) (fun ips => ?_) fun _ => trivial
  rw [Prog.ewp_bind, probeAll, if_neg (by decide), call, Prog.ewp_perform]
  refine ⟨trivial, fun probes => ?_⟩
  rw [Prog.ewp_bind]
  exact lastWrite_writeConfig (Prog.ewp_pure.mpr rfl)

/-- When hydration ends without an error, what was written last are the hosts that were found,
spread from the configuration of the render. -/
lemma lastWrite_hydrate (cfg : Json) (cidr : String) :
    Prog.ewp lastWrite (hydrate cfg cidr)
      (fun s r => r = none → s.1 = some ⟨cfg, .hosts (s.2.filterMap foundHost)⟩) (fun _ _ => True)
      (none, []) := by
  have hcatch : ∀ (s : Option Commit × List Probe) (e : JsError),
      Prog.ewp lastWrite (pure (some e.message) : Async (Option String))
        (fun s r => r = none → s.1 = some ⟨cfg, .hosts (s.2.filterMap foundHost)⟩)
        (fun _ _ => True) s := fun s e => Prog.ewp_pure.mpr fun h => (by cases h)
  rw [hydrate, Prog.ewp_tryCatch, Prog.ewp_bind, refreshDevices]
  refine Prog.ewp_ite (fun _ => ?_) fun _ => Prog.ewp_throw.mpr (hcatch _ _)
  rw [Prog.ewp_bind]
  refine lastWrite_remote (merossCloudListDevices_remote _ _) (fun list => ?_) fun e => hcatch _ e
  rw [Prog.ewp_bind, call, Prog.ewp_perform]
  refine ⟨trivial, fun updatedAt => ?_⟩
  rw [Prog.ewp_bind]
  refine lastWrite_writeConfig (Prog.ewp_pure.mpr ?_)
  rw [Prog.ewp_bind]
  refine Prog.ewp_mono (lastWrite_discoverHosts cfg cidr none _) (fun s _ hs => ?_)
    fun s e _ => hcatch s e
  exact Prog.ewp_pure.mpr fun _ => hs

end Rules

/-- The file and the calls, against what the monitor of the last write has seen. -/
structure Tracks (file : FileText) (t : FileText × List (Prog.Event Call Reply))
    (s : Option Commit × List Probe) : Prop where
  written : t.1 = match s.1 with
    | none => file
    | some c => .json c.result
  probed : probedIn t.2 = s.2

lemma Tracks.step {file : FileText} {env : Environment}
    (t : FileText × List (Prog.Event Call Reply)) (s : Option Commit × List Probe) (c : Call)
    (h : Tracks file t s) (_ : lastWrite.ok s c) :
    Tracks file (serve env t c).2 (lastWrite.next s c (serve env t c).1) := by
  cases c with
  | endWrite base edit =>
      exact ⟨rfl, (probedIn_concat t.2 _ fun _ _ _ _ => by simp).trans h.probed⟩
  | probeHosts ips key timeoutMs workers =>
      refine ⟨h.written, ?_⟩
      show probedIn (t.2 ++ _) = s.2 ++ _
      rw [probedIn, List.flatMap_append, ← h.probed, probedIn]
      exact congrArg _ (List.append_nil _)
  | _ => exact ⟨h.written, (probedIn_concat t.2 _ fun _ _ _ _ => by simp).trans h.probed⟩

/-- A hydration without an error leaves the hosts that were found, spread from the configuration
that was there before it. -/
lemma hydration_spec {env : Environment} {file : FileText} {cidr : String}
    (h : (hydration env file cidr).1 = .ok none) :
    (hydration env file cidr).2.1
      = .json ((ConfigEdit.hosts (scanned env file cidr)).apply (loadMerossConfig file)) := by
  have hspec : Prog.wp lastWrite (hydrate (loadMerossConfig file) cidr).run
      (fun s r => r = .ok none →
        s.1 = some ⟨loadMerossConfig file, .hosts (s.2.filterMap foundHost)⟩) (none, []) := by
    refine Prog.wp_run_iff.mpr (Prog.ewp_mono (lastWrite_hydrate _ cidr) ?_ ?_)
    · exact fun s r hs hr => hs (Except.ok.inj hr)
    · exact fun s e _ hr => (by cases hr)
  have hstart : Tracks file (file, []) (none, []) := ⟨rfl, rfl⟩
  obtain ⟨s, hs, hpost⟩ := Prog.wp_exec (serve env) (Tracks file) hspec hstart Tracks.step
  have hwritten := hs.written
  rw [hpost h, ← hs.probed] at hwritten
  exact hwritten

/-- A hydration without an error has got its devices from the cloud. -/
lemma exists_cloudList {env : Environment} {file : FileText} {cidr : String}
    (h : (hydration env file cidr).1 = .ok none) : ∃ list, cloudList env file = .ok list := by
  have hbody := Prog.exec_tryCatch_eq_ok (fun e => by simp) h
  obtain ⟨cfg, hrefresh, -⟩ := Prog.exec_bind_eq_ok hbody
  rw [refreshDevices] at hrefresh
  split at hrefresh
  next =>
    obtain ⟨list, hlist, -⟩ := Prog.exec_bind_eq_ok hrefresh
    exact ⟨list, hlist⟩
  next => cases hrefresh

/-! ### What is kept -/

/-- An assignment to `__proto__` is none, and the others are made as if there were no such key. -/
lemma get_foldl_assign (found : Fields) : ∀ o p : Fields, Assoc.get o "__proto__" = none →
    (∀ k ≠ "__proto__", Assoc.get o k = Assoc.get p k) → ∀ k,
      Assoc.get (found.foldl (fun o e => assign o e.1 e.2) o) k
        = if k = "__proto__" then none else Assoc.get (merge p found) k := by
  induction found with
  | nil =>
      intro o p hproto hother k
      by_cases hk : k = "__proto__"
      · rw [if_pos hk, hk]
        exact hproto
      · rw [if_neg hk]
        exact hother k hk
  | cons e found ih =>
      intro o p hproto hother k
      have hmerge : merge p (e :: found) = merge (Assoc.set p e.1 e.2) found := rfl
      rw [List.foldl_cons, hmerge]
      refine ih _ _ ?_ (fun k hk => ?_) k
      · rw [assign]
        split
        next => exact hproto
        next hne =>
          have hkey : e.1 ≠ "__proto__" := fun hkey => hne ⟨hkey, hkey ▸ hproto⟩
          rw [Assoc.get_set_of_ne o hkey, hproto]
      · rw [Assoc.get_set]
        by_cases heq : e.1 = k
        · rw [if_pos heq, ← heq, get_assign_self o (heq ▸ hk)]
        · rw [if_neg heq, get_assign_of_ne o heq, hother k hk]

lemma get_foundMap (found : Fields) (k : String) : Assoc.get (foundMap found) k
    = if k = "__proto__" then none else Assoc.get (merge [] found) k :=
  get_foldl_assign found [] [] rfl (fun _ _ => rfl) k

lemma nodup_foldl_assign (found : Fields) : ∀ {o : Fields}, (o.map Prod.fst).Nodup →
    ((found.foldl (fun o e => assign o e.1 e.2) o).map Prod.fst).Nodup := by
  induction found with
  | nil => exact fun h => h
  | cons e found ih =>
      intro o h
      refine ih ?_
      show ((assign o e.1 e.2).map Prod.fst).Nodup
      rw [assign]
      split
      · exact h
      · exact Assoc.nodup_set h _ _

/-- The hosts after a discovery: those that were found, but for the key `__proto__`. -/
lemma hostOf_hosts (found : Fields) (cfg : Json) (uuid : String) :
    hostOf ((ConfigEdit.hosts found).apply cfg) uuid
      = (if uuid = "__proto__" then none else Assoc.get (merge [] found) uuid).or
        (hostOf cfg uuid) := by
  have hnodup : ((foundMap found).map Prod.fst).Nodup := nodup_foldl_assign found List.nodup_nil
  rw [ConfigEdit.hostOf_apply_of_hosts rfl, hostOf_eq, ConfigEdit.value, Json.get?_obj,
    get_merge _ hnodup, get_foundMap]

/-- **Hydration keeps what it fetched** exactly if the devices of the cloud are those that were in
the file before, and no new host is found under the key `__proto__`. -/
theorem hydrate_keeps_iff (env : Environment) (file : FileText) (cidr : String)
    (h : (hydration env file cidr).1 = .ok none) :
    ∃ list, cloudList env file = .ok list ∧
      (KeepsFetched (loadMerossConfig file) list (scanned env file cidr)
          (loadMerossConfig (hydration env file cidr).2.1) ↔
        Json.opt ((loadMerossConfig file).get? "devices") "list" = some (.arr list) ∧
          ∀ v, Assoc.get (merge [] (scanned env file cidr)) "__proto__" = some v →
            hostOf (loadMerossConfig file) "__proto__" = some v) := by
  obtain ⟨list, hlist⟩ := exists_cloudList h
  refine ⟨list, hlist, ?_⟩
  rw [hydration_spec h, ConfigEdit.load_apply]
  generalize scanned env file cidr = found
  generalize loadMerossConfig file = cfg
  have hdevices : ((ConfigEdit.hosts found).apply cfg).get? "devices" = cfg.get? "devices" :=
    ConfigEdit.get?_apply_of_ne _ _ (by simp [ConfigEdit.owned, Section.key])
  constructor
  · rintro ⟨hkept, hhosts⟩
    rw [hdevices] at hkept
    refine ⟨hkept, fun v hv => ?_⟩
    have hproto := hhosts "__proto__"
    rwa [hostOf_hosts, if_pos rfl, hv, Option.none_or, Option.some_or] at hproto
  · rintro ⟨hkept, hproto⟩
    refine ⟨hdevices ▸ hkept, fun uuid => ?_⟩
    rw [hostOf_hosts]
    by_cases huuid : uuid = "__proto__"
    · subst huuid
      rw [if_pos rfl, Option.none_or]
      cases hv : Assoc.get (merge [] found) "__proto__" with
      | none => rw [Option.none_or]
      | some v => rw [hproto v hv, Option.some_or]
    · rw [if_neg huuid]

/-- A file with credentials and a list of devices. -/
def linkedFile (list : List Json) : FileText :=
  .json (.obj [
    ("cloud", .obj [("domain", .str "iotx.meross.com"), ("key", .str "k"), ("token", .str "t")]),
    ("devices", .obj [("list", .arr list)])])

/-- Surroundings in which the cloud has one device, and the LAN another. -/
def oneOfEach (c : Call) : Reply c :=
  match c with
  | .cloudFetch _ => .response 200 (some (.obj [("apiStatus", .num (.fin 0)),
      ("data", .arr [.obj [("uuid", .str "plug")]])]))
  | .probeHosts .. => [⟨"10.0.0.1", .obj [("payload", .obj [("all", .obj [("system",
      .obj [("hardware", .obj [("uuid", .str "bulb")])])])])], "t"⟩]
  | c => silence c

/-- The devices of the cloud are in the file already. -/
theorem hydrate_keeps_known : KeepsFetched
    (loadMerossConfig (linkedFile [.obj [("uuid", .str "plug")]])) [.obj [("uuid", .str "plug")]]
    (scanned (fun _ => oneOfEach) (linkedFile [.obj [("uuid", .str "plug")]]) "10.0.0.0/30")
    (loadMerossConfig (hydration (fun _ => oneOfEach)
      (linkedFile [.obj [("uuid", .str "plug")]]) "10.0.0.0/30").2.1) := by
  obtain ⟨list, hlist, hkeeps⟩ := hydrate_keeps_iff (fun _ => oneOfEach)
    (linkedFile [.obj [("uuid", .str "plug")]]) "10.0.0.0/30" rfl
  obtain rfl : [.obj [("uuid", .str "plug")]] = list := Except.ok.inj hlist
  have hfound : Assoc.get (merge [] (scanned (fun _ => oneOfEach)
      (linkedFile [.obj [("uuid", .str "plug")]]) "10.0.0.0/30")) "__proto__" = none := rfl
  refine hkeeps.mpr ⟨rfl, fun v hv => ?_⟩
  rw [hfound] at hv
  cases hv

/-- The devices of the cloud are new: they are not in the file afterwards. -/
theorem hydrate_loses_devices :
    (hydration (fun _ => oneOfEach) (linkedFile []) "10.0.0.0/30").1 = .ok none
      ∧ cloudList (fun _ => oneOfEach) (linkedFile []) = .ok [.obj [("uuid", .str "plug")]]
      ∧ ¬ KeepsFetched (loadMerossConfig (linkedFile [])) [.obj [("uuid", .str "plug")]]
        (scanned (fun _ => oneOfEach) (linkedFile []) "10.0.0.0/30")
        (loadMerossConfig (hydration (fun _ => oneOfEach) (linkedFile []) "10.0.0.0/30").2.1) := by
  refine ⟨rfl, rfl, fun hkeeps => ?_⟩
  have hempty : Json.opt ((loadMerossConfig
      (hydration (fun _ => oneOfEach) (linkedFile []) "10.0.0.0/30").2.1).get? "devices") "list"
      = some (.arr []) := rfl
  rw [hkeeps.devices] at hempty
  cases hempty

end Tui

end Merossity
