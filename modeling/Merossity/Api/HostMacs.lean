import Merossity.Api.HostTrail

/-!
The MAC addresses in the section `hosts`, along a sequence of operations.

* `storedMac_apply_host` and `storedMac_apply_hosts` are what a write does to the MAC addresses.
* `keepsMacs_iff`: a known MAC address is forgotten exactly by a discovery in which the device
  does not report one.
* `canonical_iff`: a MAC address that is not canonical gets into the file exactly by a recovery
  that is given a malformed one, and finds a device that does not report its own.
-/

namespace Merossity

open Js

/-! ### The hosts after an operation -/

/-- The MAC address in the entry of a host: the new one, or else the known one. -/
lemma storedMac_hostEntry (cfg : Json) (uuid host time : String) (mac : Option String) :
    Json.opt (some (ConfigEdit.hostEntry (hostOf cfg uuid) host time mac)) "mac"
      = (mac.map Json.str).or (knownMac cfg uuid) := by
  have hkept : knownMac cfg uuid = if truthy (storedMac cfg uuid) = true
      then some ((storedMac cfg uuid).getD .null) else none := by
    rw [knownMac]
    cases storedMac cfg uuid with
    | none => rfl
    | some m => rw [Option.filter_some]; rfl
  rw [hkept, storedMac]
  cases mac with
  | none =>
      rw [ConfigEdit.hostEntry.eq_def]
      by_cases ht : truthy (Json.opt (hostOf cfg uuid) "mac") = true
      · simp only [ht, if_true]
        rfl
      · simp only [ht]
        rfl
  | some m =>
      rw [ConfigEdit.hostEntry.eq_def, Json.opt, Option.bind_some, Json.get?_obj]
      exact Assoc.get_set_self _ _ _

/-- A host that is written: no other entry changes, and its own has the new MAC address, or else
the known one. -/
lemma storedMac_apply_host (cfg : Json) (u host time : String) (mac : Option String)
    (uuid : String) :
    hostOf ((ConfigEdit.host u host time mac).apply cfg) uuid = hostOf cfg uuid ∨ uuid = u ∧
      storedMac ((ConfigEdit.host u host time mac).apply cfg) uuid
        = (mac.map Json.str).or (knownMac cfg uuid) := by
  rw [storedMac, ConfigEdit.hostOf_apply_of_hosts rfl, ConfigEdit.value, Json.get?_obj]
  by_cases hu : u = uuid
  · subst hu
    by_cases hproto : u = "__proto__" ∧ Assoc.get (sectionFields cfg .hosts) u = none
    · rw [assign, if_pos hproto, hostOf_eq]
      exact Or.inl rfl
    · rw [assign, if_neg hproto, Assoc.get_set_self, ← hostOf_eq]
      exact Or.inr ⟨rfl, storedMac_hostEntry _ _ _ _ _⟩
  · rw [get_assign_of_ne _ hu, hostOf_eq]
    exact Or.inl rfl

lemma nodup_foundMap (found : Fields) : ((foundMap found).map Prod.fst).Nodup := by
  refine List.foldlRecOn (motive := fun o : Fields => (o.map Prod.fst).Nodup) found _
    List.nodup_nil fun o ho e _ => ?_
  rw [assign]
  split
  · exact ho
  · exact Assoc.nodup_set ho _ _

/-- The last entry of a host counts; under the key `__proto__` there is none. -/
lemma get_foundMap (found : Fields) (uuid : String) :
    Assoc.get (foundMap found) uuid = if uuid = "__proto__" then none else
      lastOr (fun e : String × Json => if e.1 = uuid then some e.2 else none) none found := by
  induction found using List.reverseRecOn with
  | nil => exact (ite_self _).symm
  | append_singleton found e ih =>
      have hstep : foundMap (found ++ [e]) = assign (foundMap found) e.1 e.2 := by
        rw [foundMap, List.foldl_append]
        rfl
      rw [hstep, lastOr_concat]
      by_cases he : e.1 = uuid
      · subst he
        by_cases hproto : e.1 = "__proto__"
        · rw [if_pos hproto] at ih
          rw [assign, if_pos ⟨hproto, ih⟩, ih, if_pos hproto]
        · rw [get_assign_self _ hproto, if_neg hproto]
          simp
      · rw [get_assign_of_ne _ he, ih]
        simp [he]

/-- The hosts after a discovery: of every device that answered, its last answer. -/
lemma storedMac_apply_hosts (cfg : Json) (probed : List Probe) (uuid : String) :
    hostOf ((ConfigEdit.hosts (probed.filterMap foundHost)).apply cfg) uuid = hostOf cfg uuid ∧
        (uuid = "__proto__" ∨ lastAnswer uuid probed = none) ∨
      ∃ p, uuid ≠ "__proto__" ∧ lastAnswer uuid probed = some p ∧
        storedMac ((ConfigEdit.hosts (probed.filterMap foundHost)).apply cfg) uuid
          = (extractLanMac p.resp).map Json.str := by
  have hlast : lastOr (fun e : String × Json => if e.1 = uuid then some e.2 else none) none
      (probed.filterMap foundHost) = (lastAnswer uuid probed).map fun p =>
        .obj ([("host", .str p.ip), ("updatedAt", .str p.time)]
          ++ ((extractLanMac p.resp).map fun mac => ("mac", Json.str mac)).toList) := by
    rw [lastOr_filterMap, lastAnswer, map_lastOr]
    congr 1
    funext p
    rw [foundHost]
    cases extractLanUuid p.resp with
    | none => rfl
    | some u => by_cases hu : u = uuid <;> simp [hu]
  rw [storedMac, ConfigEdit.hostOf_apply_of_hosts rfl, ConfigEdit.value, Json.get?_obj,
    get_merge _ (nodup_foundMap _), get_foundMap, ← hostOf_eq, hlast]
  by_cases hproto : uuid = "__proto__"
  · rw [if_pos hproto, Option.none_or]
    exact Or.inl ⟨rfl, Or.inl hproto⟩
  · rw [if_neg hproto]
    cases hp : lastAnswer uuid probed with
    | none => exact Or.inl ⟨rfl, Or.inr rfl⟩
    | some p =>
        refine Or.inr ⟨p, hproto, rfl, ?_⟩
        rw [Option.map_some, Option.some_or]
        cases extractLanMac p.resp with
        | none => rfl
        | some mac => rfl

/-! ### A known MAC address is kept -/

/-- The same MAC address, perhaps in the canonical spelling in which a recovery looks for it. -/
def SameMac (old new : Json) : Prop :=
  new = old ∨ ∃ raw, old.toText = .ok raw ∧ new = .str (tidyMac raw)

namespace Outcome

/-- A MAC address that is supplied with the operation, or that the device has reported to it. -/
def Gives (o : Outcome) (uuid : String) (mac : Json) : Prop :=
  (∃ req text, o.op = .resolve req ∧ suppliedMac req = some text ∧ mac = .str text) ∨
    ∃ p ∈ probedIn o.history, extractLanUuid p.resp = some uuid ∧
      (extractLanMac p.resp).map Json.str = some mac

/-- Every host with a known MAC address has one after the operation: the same, or a new one. -/
def KeepsMacs (o : Outcome) : Prop :=
  ∀ uuid mac, knownMac (loadMerossConfig o.before) uuid = some mac →
    ∃ mac', knownMac (loadMerossConfig o.after) uuid = some mac' ∧
      (SameMac mac mac' ∨ o.Gives uuid mac')

/-- Every device with a known MAC address that answers a discovery reports its MAC address, in
the last of its answers. -/
def KnownReport (o : Outcome) : Prop :=
  match o.op with
  | .discover _ => ∀ uuid, (knownMac (loadMerossConfig o.before) uuid).isSome = true →
      uuid ≠ "__proto__" → ∀ p, lastAnswer uuid (probedIn o.history) = some p →
        (extractLanMac p.resp).isSome = true
  | _ => True

/-- The operation leaves the MAC addresses as they are. -/
lemma keepsMacs_of_hosts {o : Outcome} (h : ∀ uuid, storedMac (loadMerossConfig o.after) uuid
    = storedMac (loadMerossConfig o.before) uuid) : o.KeepsMacs := by
  intro uuid mac hmac
  refine ⟨mac, ?_, Or.inl (Or.inl rfl)⟩
  rwa [knownMac, h uuid]

end Outcome

/-- The operations that write the section `hosts`. -/
def Operation.writesHosts : Operation → Bool
  | .resolve _ => true
  | .discover _ => true
  | .recover _ => true
  | _ => false

lemma storedMac_of_hostOf {cfg cfg' : Json} {uuid : String}
    (h : hostOf cfg' uuid = hostOf cfg uuid) :
    storedMac cfg' uuid = storedMac cfg uuid := by
  rw [storedMac, h, storedMac]

lemma knownMac_eq_some {cfg : Json} {uuid : String} {mac : Json} :
    knownMac cfg uuid = some mac ↔ storedMac cfg uuid = some mac ∧ truthy (some mac) = true :=
  Option.filter_eq_some_iff

lemma truthy_str {mac : String} (h : mac ≠ "") : truthy (some (.str mac)) = true :=
  decide_eq_true h

lemma Given.canonical {req : Request} {uuid mac : String} {probed : List Probe}
    (h : Given req uuid probed mac) : CanonicalMac mac := by
  rcases h with hmac | ⟨p, -, -, hmac⟩
  · rw [suppliedMac] at hmac
    split at hmac
    · exact canonicalMac_of_toOption hmac
    · cases hmac
  · exact canonicalMac_of_extractLanMac hmac

lemma wantedMac_eq_some {raw mac : String} (h : wantedMac raw = some mac) :
    trim raw ≠ "" ∧ mac = tidyMac raw := by
  rw [wantedMac] at h
  by_cases hraw : trim raw = ""
  · rw [if_pos hraw] at h
    cases h
  · rw [if_neg hraw] at h
    exact ⟨hraw, (Option.some.inj h).symm⟩

lemma wantedMac_ne_empty {raw mac : String} (h : wantedMac raw = some mac) : mac ≠ "" := by
  obtain ⟨hraw, hmac⟩ := wantedMac_eq_some h
  rw [hmac, tidyMac]
  cases hn : (normalizeMac (trim raw)).toOption with
  | none => exact hraw
  | some n => exact (canonicalMac_of_toOption hn).ne_empty

/-- A recovery that scans writes the MAC address it looks for, or the one that the device itself
reports. -/
lemma scanned_mac {uuid host : String} {wanted mac : Option String} {probed : List Probe}
    (h : scanned uuid wanted probed = some (host, mac)) :
    mac = wanted ∨ ∃ p ∈ probed, extractLanUuid p.resp = some uuid ∧ mac.isSome = true ∧
      extractLanMac p.resp = mac := by
  obtain ⟨h, -⟩ := Option.filter_eq_some_iff.mp h
  obtain ⟨⟨ip, reported⟩, hscan, heq⟩ := Option.map_eq_some_iff.mp h
  obtain ⟨-, rfl⟩ := Prod.mk.inj heq
  cases reported with
  | none => exact Or.inl rfl
  | some reported =>
      rcases reported_of_scan hscan with hwanted | ⟨p, hp, huuid, hmac⟩
      · exact Or.inl hwanted.symm
      · exact Or.inr ⟨p, hp, huuid, rfl, hmac⟩

lemma lastAnswer_spec {uuid : String} {probed : List Probe} {p : Probe}
    (h : lastAnswer uuid probed = some p) : p ∈ probed ∧ extractLanUuid p.resp = some uuid := by
  obtain ⟨q, hq, heq⟩ := lastOr_eq_some h
  obtain ⟨huuid, heq⟩ := Option.ite_none_right_eq_some.mp heq
  obtain rfl := Option.some.inj heq
  exact ⟨hq, huuid⟩

/-- An operation that does not write hosts leaves the MAC addresses as they are. -/
lemma storedMac_of_other (op : Operation) (env : Environment) (file : FileText)
    (hop : op.writesHosts = false) (uuid : String) :
    storedMac (loadMerossConfig (runOp op env file).after) uuid
      = storedMac (loadMerossConfig file) uuid := by
  rcases runOp_spec op env file with ⟨-, c, -, hbase, hwrites, hafter⟩ | ⟨-, -, hafter⟩
  · have howned : c.edit.owned ≠ .hosts := by
      cases op <;> try cases hop
      all_goals cases hedit : c.edit <;> rw [hedit] at hwrites <;>
        first | exact hwrites.elim | exact fun hk => by cases hk
    rw [hafter, Commit.result, hbase, ConfigEdit.load_apply]
    refine storedMac_of_hostOf (ConfigEdit.hostOf_apply_of_ne _ _ ?_ _)
    exact fun hkey => howned (Section.key_injective hkey)
  · rw [hafter]

/-- A host that is written keeps its MAC address, or has the new one. -/
lemma keepsMacs_of_host {o : Outcome} {u host time : String} {mac : Option String}
    (hafter : o.after
      = .json ((ConfigEdit.host u host time mac).apply (loadMerossConfig o.before)))
    (hmac : ∀ m, mac = some m → m ≠ "" ∧ ∀ old, knownMac (loadMerossConfig o.before) u = some old →
      SameMac old (.str m) ∨ o.Gives u (.str m)) : o.KeepsMacs := by
  intro uuid old hold
  rw [hafter, ConfigEdit.load_apply]
  rcases storedMac_apply_host (loadMerossConfig o.before) u host time mac uuid with
    hsame | ⟨rfl, hstored⟩
  · refine ⟨old, ?_, Or.inl (Or.inl rfl)⟩
    rwa [knownMac, storedMac_of_hostOf hsame]
  · rw [hold] at hstored
    cases mac with
    | none =>
        have hold' := (knownMac_eq_some.mp hold).2
        exact ⟨old, knownMac_eq_some.mpr ⟨hstored, hold'⟩, Or.inl (Or.inl rfl)⟩
    | some m =>
        obtain ⟨hne, hfrom⟩ := hmac m rfl
        exact ⟨.str m, knownMac_eq_some.mpr ⟨hstored, truthy_str hne⟩, hfrom old hold⟩

/-- A resolved host keeps its MAC address, unless the request supplies one, or the host reports
one. -/
lemma keepsMacs_resolve {o : Outcome} {s : Trail} {req : Request} (h : o.Ends s)
    (hop : o.op = .resolve req) : o.KeepsMacs := by
  have hwrote := h.wrote
  rw [hop] at hwrote
  rcases h.effect with ⟨-, hafter⟩ | ⟨edit, hedit, hwrites, hafter⟩
  · exact Outcome.keepsMacs_of_hosts fun uuid => by rw [hafter]
  · rw [hop] at hwrites
    cases edit with
    | host u host time mac =>
        refine keepsMacs_of_host hafter ?_
        rintro m rfl
        have hgiven := hwrote u host time m hedit
        refine ⟨hgiven.canonical.ne_empty, fun old _ => Or.inr ?_⟩
        rcases hgiven with hsupplied | ⟨p, hp, huuid, hreport⟩
        · exact Or.inl ⟨req, m, hop, hsupplied, rfl⟩
        · rw [← h.probed] at hp
          exact Or.inr ⟨p, hp, huuid, by rw [hreport, Option.map_some]⟩
    | _ => exact hwrites.elim

/-- The MAC address that a recovery looks for is the known one. -/
lemma sameMac_of_wanted {cfg : Json} {uuid raw mac : String} {old : Json}
    (hraw : rawMac cfg uuid = .ok raw) (hmac : wantedMac raw = some mac)
    (hold : knownMac cfg uuid = some old) : SameMac old (.str mac) := by
  obtain ⟨hstored, htruthy⟩ := knownMac_eq_some.mp hold
  refine Or.inr ⟨raw, ?_, congrArg _ (wantedMac_eq_some hmac).2⟩
  cases hdevice : findCloudDevice true cfg uuid with
  | error m =>
      rw [rawMac, hdevice] at hraw
      cases hraw
  | ok cloudDevice =>
      rw [rawMac_eq hdevice, hstored] at hraw
      cases old with
      | null => cases htruthy
      | _ => exact hraw

/-- A host that a recovery finds keeps its MAC address, unless the host reports another one. -/
lemma keepsMacs_recover {o : Outcome} {s : Trail} {uuid : String} (h : o.Ends s)
    (hop : o.op = .recover uuid) : o.KeepsMacs := by
  have hwrote := h.wrote
  rcases h.effect with ⟨-, hafter⟩ | ⟨edit, hedit, -, hafter⟩
  · exact Outcome.keepsMacs_of_hosts fun uuid => by rw [hafter]
  · rw [hop, Wrote] at hwrote
    obtain ⟨cfg, hcfg, hrec⟩ := hwrote
    rw [hedit] at hrec
    obtain rfl := h.config cfg hcfg
    cases hrec with
    | lookup hraw hmac _ _ =>
        refine keepsMacs_of_host hafter ?_
        rintro m heq
        obtain rfl := Option.some.inj heq
        exact ⟨wantedMac_ne_empty hmac, fun old hold => Or.inl (sameMac_of_wanted hraw hmac hold)⟩
    | scan hraw hscan =>
        refine keepsMacs_of_host hafter ?_
        rintro m rfl
        rcases scanned_mac hscan with hmac | ⟨p, hp, huuid, -, hreport⟩
        · have hwanted := hmac.symm
          exact ⟨wantedMac_ne_empty hwanted, fun old hold =>
            Or.inl (sameMac_of_wanted hraw hwanted hold)⟩
        · refine ⟨(canonicalMac_of_extractLanMac hreport).ne_empty, fun old _ => Or.inr (Or.inr ?_)⟩
          rw [← h.probed] at hp
          exact ⟨p, hp, huuid, by rw [hreport, Option.map_some]⟩

/-- A discovery keeps the known MAC addresses exactly if it is told them again. -/
lemma keepsMacs_discover {o : Outcome} {s : Trail} {req : Request} (h : o.Ends s)
    (hop : o.op = .discover req) : o.KeepsMacs ↔ o.KnownReport := by
  have hwrote := h.wrote
  rw [hop] at hwrote
  rw [Outcome.KnownReport, hop, h.probed]
  rcases h.effect with ⟨hedit, hafter⟩ | ⟨edit, hedit, hwrites, hafter⟩
  · refine iff_of_true (Outcome.keepsMacs_of_hosts fun uuid => by rw [hafter]) ?_
    intro uuid _ _ p hp
    rw [hwrote hedit] at hp
    cases hp
  · rw [hop] at hwrites
    cases edit with
    | hosts found =>
        obtain rfl : found = s.probed.filterMap foundHost := hwrites
        constructor
        · intro hkeeps uuid hknown hproto p hp
          obtain ⟨old, hold⟩ := Option.isSome_iff_exists.mp hknown
          obtain ⟨new, hnew, -⟩ := hkeeps uuid old hold
          rw [hafter, ConfigEdit.load_apply, knownMac_eq_some] at hnew
          rcases storedMac_apply_hosts (loadMerossConfig o.before) s.probed uuid with
            ⟨-, hnone⟩ | ⟨q, -, hq, hmac⟩
          · rcases hnone with hnone | hnone
            · exact absurd hnone hproto
            · rw [hnone] at hp
              cases hp
          · obtain rfl := Option.some.inj (hp.symm.trans hq)
            rw [hnew.1] at hmac
            cases hreport : extractLanMac p.resp with
            | none =>
                rw [hreport] at hmac
                cases hmac
            | some mac => rfl
        · intro hreport uuid old hold
          rw [hafter, ConfigEdit.load_apply]
          rcases storedMac_apply_hosts (loadMerossConfig o.before) s.probed uuid with
            ⟨hsame, -⟩ | ⟨p, hproto, hp, hmac⟩
          · refine ⟨old, ?_, Or.inl (Or.inl rfl)⟩
            rw [knownMac, storedMac_of_hostOf hsame]
            exact hold
          · have hsome := hreport uuid (by rw [hold]; rfl) hproto p hp
            obtain ⟨mac, hreported⟩ := Option.isSome_iff_exists.mp hsome
            obtain ⟨hmem, huuid⟩ := lastAnswer_spec hp
            rw [hreported, Option.map_some] at hmac
            have hne := (canonicalMac_of_extractLanMac hreported).ne_empty
            refine ⟨.str mac, knownMac_eq_some.mpr ⟨hmac, truthy_str hne⟩, Or.inr (Or.inr ?_)⟩
            rw [← h.probed] at hmem
            exact ⟨p, hmem, huuid, by rw [hreported, Option.map_some]⟩
    | _ => exact hwrites.elim

/-- **Known MAC addresses**: in every sequence of operations on the configuration, with any
requests and replies, an operation keeps the known MAC addresses exactly if it is no discovery, or
if each device with a known MAC address that answers it reports its own. -/
theorem keepsMacs_iff (file : FileText) (ops : List (Operation × Environment)) :
    ∀ o ∈ runAll ops file, o.KeepsMacs ↔ o.KnownReport := by
  intro o ho
  obtain ⟨op, env, before, rfl⟩ := mem_runAll ho
  have hother : op.writesHosts = false → (runOp op env before).KeepsMacs := fun hop =>
    Outcome.keepsMacs_of_hosts fun uuid => storedMac_of_other op env before hop uuid
  cases op with
  | resolve req =>
      obtain ⟨s, hs⟩ := runOp_resolve req env before
      exact iff_of_true (keepsMacs_resolve hs rfl) trivial
  | discover req =>
      obtain ⟨s, hs⟩ := runOp_discover req env before
      exact keepsMacs_discover hs rfl
  | recover uuid =>
      obtain ⟨s, hs⟩ := runOp_recover uuid env before
      exact iff_of_true (keepsMacs_recover hs rfl) trivial
  | login req => exact iff_of_true (hother rfl) trivial
  | refresh req => exact iff_of_true (hother rfl) trivial
  | network req => exact iff_of_true (hother rfl) trivial

/-- A reply to `Appliance.System.All`, with a MAC address or without one. -/
def systemAll (uuid : String) (mac : Option String) : Json :=
  .obj [("payload", .obj [("all", .obj [("system", .obj [("hardware", .obj
    ([("uuid", .str uuid)] ++ (mac.map fun m => ("macAddress", Json.str m)).toList))])])])]

/-- Surroundings in which one device answers every scan. -/
def oneDevice (resp : Json) (c : Call) : Reply c :=
  match c with
  | .probeHosts .. => [⟨"10.0.0.2", resp, "2024-01-01T00:00:00.000Z"⟩]
  | c => silence c

/-- A configuration with a key and one host, whose MAC address is known. -/
def knownHost : FileText :=
  .json (.obj [("cloud", .obj [("key", .str "k")]), ("hosts", .obj [("plug",
    .obj [("host", .str "10.0.0.9"), ("updatedAt", .str "2023-01-01T00:00:00.000Z"),
      ("mac", .str "c4:e7:ae:1a:c4:74")])])])

/-- A discovery in a small range. -/
def smallScan : Operation := .discover (jsonRequest (.obj [("cidr", .str "10.0.0.0/30")]))

/-- A device that reports its MAC address keeps it. -/
theorem keepsMacs_reported :
    (runOp smallScan (fun _ => oneDevice (systemAll "plug" (some "C4E7AE1AC475")))
      knownHost).KeepsMacs := by
  refine (keepsMacs_iff knownHost [(smallScan, fun _ => oneDevice _)] _ List.mem_cons_self).mpr ?_
  have hall : (probedIn (runOp smallScan
      (fun _ => oneDevice (systemAll "plug" (some "C4E7AE1AC475"))) knownHost).history).all
      (fun p => (extractLanMac p.resp).isSome) = true := by
    decide +kernel
  intro uuid _ _ p hp
  exact List.all_eq_true.mp hall p (lastAnswer_spec hp).1

/-- A discovery replaces the entry of a host, and so forgets the MAC address of a device whose
answer has none. -/
theorem discover_forgets_mac :
    ¬ ∀ (file : FileText) (ops : List (Operation × Environment)),
      ∀ o ∈ runAll ops file, o.KeepsMacs := by
  intro hall
  have h := hall knownHost [(smallScan, fun _ => oneDevice (systemAll "plug" none))] _
    List.mem_cons_self
  have hbefore : knownMac (loadMerossConfig knownHost) "plug" = some (.str "c4:e7:ae:1a:c4:74") :=
    rfl
  obtain ⟨mac, hafter, -⟩ := h "plug" _ hbefore
  have hnone : (knownMac (loadMerossConfig (runOp smallScan
      (fun _ => oneDevice (systemAll "plug" none)) knownHost).after) "plug").isSome = false := by
    decide +kernel
  rw [hafter] at hnone
  cases hnone

/-! ### Stored MAC addresses are canonical -/

/-- Every MAC address in the section `hosts` is canonical. -/
def HostMacsCanonical (cfg : Json) : Prop :=
  ∀ uuid mac, storedMac cfg uuid = some mac → ∃ text, mac = .str text ∧ CanonicalMac text

/-- A MAC address that is not blank, and cannot be normalized. -/
def MalformedMac (raw : String) : Prop := trim raw ≠ "" ∧ ∀ n, normalizeMac (trim raw) ≠ .ok n

/-- A recovery that is given a malformed MAC address does not find the device, or is told the
MAC address of the device by itself. There is no host to write under the key `__proto__`, unless
it has an entry. -/
def Outcome.TidyRecovery (o : Outcome) : Prop :=
  match o.op with
  | .recover uuid => ∀ raw, rawMac (loadMerossConfig o.before) uuid = .ok raw → MalformedMac raw →
      (uuid = "__proto__" → (hostOf (loadMerossConfig o.before) uuid).isSome = true) →
      ∀ p, lastAnswer uuid (probedIn o.history) = some p → p.ip ≠ "" →
        (extractLanMac p.resp).isSome = true
  | _ => True

lemma HostMacsCanonical.of_hosts {cfg cfg' : Json} (h : HostMacsCanonical cfg)
    (hsame : ∀ uuid, storedMac cfg' uuid = storedMac cfg uuid) : HostMacsCanonical cfg' :=
  fun uuid mac hmac => h uuid mac (hsame uuid ▸ hmac)

/-- A host that is written with a canonical MAC address, or with none. -/
lemma HostMacsCanonical.of_host {cfg : Json} (h : HostMacsCanonical cfg) {u host time : String}
    {mac : Option String} (hmac : ∀ m, mac = some m → CanonicalMac m) :
    HostMacsCanonical ((ConfigEdit.host u host time mac).apply cfg) := by
  intro uuid stored hstored
  rcases storedMac_apply_host cfg u host time mac uuid with hsame | ⟨rfl, hnew⟩
  · exact h uuid stored (storedMac_of_hostOf hsame ▸ hstored)
  · rw [hnew] at hstored
    cases mac with
    | none => exact h uuid stored (knownMac_eq_some.mp hstored).1
    | some m => exact ⟨m, (Option.some.inj hstored).symm, hmac m rfl⟩

/-- A discovery writes canonical MAC addresses. -/
lemma HostMacsCanonical.of_discovery {cfg : Json} (h : HostMacsCanonical cfg)
    (probed : List Probe) :
    HostMacsCanonical ((ConfigEdit.hosts (probed.filterMap foundHost)).apply cfg) := by
  intro uuid stored hstored
  rcases storedMac_apply_hosts cfg probed uuid with ⟨hsame, -⟩ | ⟨p, -, -, hnew⟩
  · exact h uuid stored (storedMac_of_hostOf hsame ▸ hstored)
  · rw [hnew] at hstored
    obtain ⟨m, hm, rfl⟩ := Option.map_eq_some_iff.mp hstored
    exact ⟨m, rfl, canonicalMac_of_extractLanMac hm⟩

/-- A MAC address that can be normalized is looked for in its canonical spelling. -/
lemma tidyMac_canonical {raw n : String} (h : normalizeMac (trim raw) = .ok n) :
    tidyMac raw = n := by
  rw [tidyMac, h]
  rfl

lemma tidyMac_malformed {raw : String} (h : MalformedMac raw) : tidyMac raw = trim raw := by
  rw [tidyMac]
  cases hn : normalizeMac (trim raw) with
  | ok n => exact absurd hn (h.2 n)
  | error e => rfl

/-- What is looked for is canonical, unless it is malformed. -/
lemma canonicalMac_of_wanted {raw mac : String} (h : wantedMac raw = some mac)
    (hraw : ¬ MalformedMac raw) : CanonicalMac mac := by
  obtain ⟨hne, hmac⟩ := wantedMac_eq_some h
  cases hn : normalizeMac (trim raw) with
  | ok n =>
      rw [hmac, tidyMac_canonical hn]
      exact normalizeMac_idem hn
  | error e => exact absurd ⟨hne, fun n hok => by rw [hn] at hok; cases hok⟩ hraw

/-- A scan that looks for a malformed MAC address finds the device by its uuid. -/
lemma scanned_malformed {uuid raw : String} (h : MalformedMac raw) (probed : List Probe) :
    scanned uuid (wantedMac raw) probed = ((lastAnswer uuid probed).map fun p =>
      (p.ip, (extractLanMac p.resp).or (some (trim raw)))).filter fun hit => hit.1 ≠ "" := by
  have hwanted : wantedMac raw = some (trim raw) := by
    rw [wantedMac, if_neg h.1, tidyMac_malformed h]
  have hlast : lastOr (scanMatch uuid (some (trim raw))) none probed
      = (lastAnswer uuid probed).map fun p => (p.ip, extractLanMac p.resp) := by
    rw [lastAnswer, map_lastOr]
    congr 1
    funext p
    have hne : some (trim raw) ≠ extractLanMac p.resp := fun heq =>
      h.2 _ (canonicalMac_of_extractLanMac heq.symm)
    rw [scanMatch]
    by_cases huuid : extractLanUuid p.resp = some uuid
    · simp [huuid]
    · simp [huuid, hne]
  rw [scanned, hwanted, hlast, Option.map_map]
  rfl

/-- A resolved host is written with a canonical MAC address. -/
lemma canonical_resolve {o : Outcome} {s : Trail} {req : Request} (h : o.Ends s)
    (hop : o.op = .resolve req) (hbefore : HostMacsCanonical (loadMerossConfig o.before)) :
    HostMacsCanonical (loadMerossConfig o.after) := by
  have hwrote := h.wrote
  rw [hop] at hwrote
  refine h.keeps hbefore fun edit hedit hwrites => ?_
  rw [hop] at hwrites
  cases edit with
  | host u host time mac =>
      refine hbefore.of_host ?_
      rintro m rfl
      exact (hwrote u host time m hedit).canonical
  | _ => exact hwrites.elim

lemma canonical_discover {o : Outcome} {s : Trail} {req : Request} (h : o.Ends s)
    (hop : o.op = .discover req) (hbefore : HostMacsCanonical (loadMerossConfig o.before)) :
    HostMacsCanonical (loadMerossConfig o.after) := by
  refine h.keeps hbefore fun edit _ hwrites => ?_
  rw [hop] at hwrites
  cases edit with
  | hosts found =>
      obtain rfl : found = s.probed.filterMap foundHost := hwrites
      exact hbefore.of_discovery _
  | _ => exact hwrites.elim

/-- A recovery that is given a malformed MAC address writes it exactly if it finds the device, and
the device does not report its own. -/
lemma canonical_malformed {cfg : Json} (h : HostMacsCanonical cfg) {uuid raw host time : String}
    {mac : Option String} {probed : List Probe} (hraw : MalformedMac raw)
    (hscan : scanned uuid (wantedMac raw) probed = some (host, mac)) :
    HostMacsCanonical ((ConfigEdit.host uuid host time mac).apply cfg) ↔
      ((uuid = "__proto__" → (hostOf cfg uuid).isSome = true) →
        ∀ p, lastAnswer uuid probed = some p → p.ip ≠ "" →
          (extractLanMac p.resp).isSome = true) := by
  rw [scanned_malformed hraw] at hscan
  obtain ⟨hscan, hhost⟩ := Option.filter_eq_some_iff.mp hscan
  obtain ⟨p, hp, heq⟩ := Option.map_eq_some_iff.mp hscan
  obtain ⟨rfl, rfl⟩ := Prod.mk.inj heq
  cases hreport : extractLanMac p.resp with
  | some m =>
      refine iff_of_true (h.of_host fun m' hm' => ?_) fun _ q hq _ => ?_
      · obtain rfl := Option.some.inj hm'
        exact canonicalMac_of_extractLanMac hreport
      · obtain rfl := Option.some.inj (hp.symm.trans hq)
        rw [hreport]
        rfl
  | none =>
      by_cases hproto : uuid = "__proto__" ∧ hostOf cfg uuid = none
      · -- there is no entry to write to
        refine iff_of_true (h.of_hosts fun uuid' => ?_) fun hsome => ?_
        · rcases storedMac_apply_host cfg uuid p.ip time (some (trim raw)) uuid' with
            hsame | ⟨rfl, -⟩
          · exact storedMac_of_hostOf hsame
          · refine storedMac_of_hostOf ?_
            rw [ConfigEdit.hostOf_apply_of_hosts rfl, ConfigEdit.value, Json.get?_obj, assign,
              if_pos ⟨hproto.1, by rw [← hostOf_eq, hproto.2]⟩, hostOf_eq]
        · have hcontra := hsome hproto.1
          rw [hproto.2] at hcontra
          cases hcontra
      · refine iff_of_false (fun hcanon => ?_) fun hall => ?_
        · have hstored :
              storedMac ((ConfigEdit.host uuid p.ip time (some (trim raw))).apply cfg) uuid
                = some (.str (trim raw)) := by
            rw [storedMac, ConfigEdit.hostOf_apply_of_hosts rfl, ConfigEdit.value, Json.get?_obj,
              assign, if_neg (by rwa [← hostOf_eq]), Assoc.get_set_self, ← hostOf_eq]
            exact storedMac_hostEntry _ _ _ _ _
          obtain ⟨text, htext, hmac⟩ := hcanon uuid _ hstored
          obtain rfl := Json.str.inj htext
          exact hraw.2 _ hmac
        · have hsome := hall (fun hu => ?_) p hp (of_decide_eq_true hhost)
          · rw [hreport] at hsome
            cases hsome
          · cases hentry : hostOf cfg uuid with
            | none => exact absurd ⟨hu, hentry⟩ hproto
            | some v => rfl

/-- A recovery writes canonical MAC addresses exactly if it is tidy. -/
lemma canonical_recover {o : Outcome} {s : Trail} {uuid : String} (h : o.Ends s)
    (hop : o.op = .recover uuid) (hbefore : HostMacsCanonical (loadMerossConfig o.before)) :
    HostMacsCanonical (loadMerossConfig o.after) ↔ o.TidyRecovery := by
  have hwrote := h.wrote
  rw [hop, Wrote] at hwrote
  obtain ⟨cfg, hcfg, hwrote⟩ := hwrote
  obtain rfl := h.config cfg hcfg
  rw [Outcome.TidyRecovery, hop, h.probed]
  rcases h.effect with ⟨hedit, hafter⟩ | ⟨edit, hedit, -, hafter⟩
  · rw [hedit] at hwrote
    refine iff_of_true (by rwa [hafter]) fun raw hraw hbad _ p hp hip => ?_
    have hnone := hwrote raw hraw
    rw [scanned_malformed hbad, hp, Option.map_some, Option.filter_some,
      if_pos (decide_eq_true hip)] at hnone
    cases hnone
  · rw [hedit] at hwrote
    rw [hafter, ConfigEdit.load_apply]
    cases hwrote with
    | @lookup raw host time mac hraw hmac hwell hscan =>
        have hgood : ¬ MalformedMac raw := by
          intro hbad
          obtain ⟨n, hn⟩ := hwell
          rw [(wantedMac_eq_some hmac).2, tidyMac_malformed hbad] at hn
          exact hbad.2 n hn
        refine iff_of_true (hbefore.of_host fun m hm => ?_) fun raw' hraw' hbad => ?_
        · obtain rfl := Option.some.inj hm
          exact canonicalMac_of_wanted hmac hgood
        · obtain rfl := Except.ok.inj (hraw.symm.trans hraw')
          exact absurd hbad hgood
    | @scan raw host time mac hraw hscan =>
        by_cases hbad : MalformedMac raw
        · rw [canonical_malformed hbefore hbad hscan]
          refine ⟨fun hall raw' hraw' _ => hall, fun hall => hall raw hraw hbad⟩
        · refine iff_of_true (hbefore.of_host ?_) fun raw' hraw' hbad' => ?_
          · rintro m rfl
            rcases scanned_mac hscan with hmac | ⟨p, -, -, -, hreport⟩
            · exact canonicalMac_of_wanted hmac.symm hbad
            · exact canonicalMac_of_extractLanMac hreport
          · obtain rfl := Except.ok.inj (hraw.symm.trans hraw')
            exact absurd hbad' hbad

/-- One operation leaves the stored MAC addresses canonical exactly if it is tidy. -/
lemma canonical_runOp (op : Operation) (env : Environment) (file : FileText)
    (hbefore : HostMacsCanonical (loadMerossConfig file)) :
    HostMacsCanonical (loadMerossConfig (runOp op env file).after) ↔
      (runOp op env file).TidyRecovery := by
  have hother : op.writesHosts = false →
      HostMacsCanonical (loadMerossConfig (runOp op env file).after) := fun hop =>
    hbefore.of_hosts fun uuid => storedMac_of_other op env file hop uuid
  cases op with
  | resolve req =>
      obtain ⟨s, hs⟩ := runOp_resolve req env file
      exact iff_of_true (canonical_resolve hs rfl hbefore) trivial
  | discover req =>
      obtain ⟨s, hs⟩ := runOp_discover req env file
      exact iff_of_true (canonical_discover hs rfl hbefore) trivial
  | recover uuid =>
      obtain ⟨s, hs⟩ := runOp_recover uuid env file
      exact canonical_recover hs rfl hbefore
  | login req => exact iff_of_true (hother rfl) trivial
  | refresh req => exact iff_of_true (hother rfl) trivial
  | network req => exact iff_of_true (hother rfl) trivial

/-- **Canonical MAC addresses**: in every sequence of operations on a configuration whose stored
MAC addresses are canonical, with any requests, cloud lists and replies, they stay canonical
exactly if every recovery that is given a malformed MAC address, and finds the device, is told
its MAC address by the device itself. -/
theorem canonical_iff (file : FileText) (ops : List (Operation × Environment))
    (hfile : HostMacsCanonical (loadMerossConfig file)) :
    (∀ o ∈ runAll ops file, HostMacsCanonical (loadMerossConfig o.after)) ↔
      ∀ o ∈ runAll ops file, o.TidyRecovery := by
  induction ops generalizing file with
  | nil =>
      exact iff_of_true (fun o ho => absurd ho List.not_mem_nil)
        fun o ho => absurd ho List.not_mem_nil
  | cons op ops ih =>
      obtain ⟨op, env⟩ := op
      have hstep := canonical_runOp op env file hfile
      rw [runAll, List.forall_mem_cons, List.forall_mem_cons, hstep]
      refine and_congr_right fun htidy => ih _ (hstep.mpr htidy)

/-- A configuration with a malformed MAC address in the list of the cloud. -/
def vagueCloud : FileText :=
  .json (.obj [("cloud", .obj [("key", .str "k")]),
    ("network", .obj [("cidr", .str "10.0.0.0/30")]),
    ("devices", .obj [("list", .arr [.obj [("uuid", .str "plug"), ("mac", .str "unknown")]])])])

lemma canonical_vagueCloud : HostMacsCanonical (loadMerossConfig vagueCloud) := by
  intro uuid mac hmac
  have hnone : storedMac (loadMerossConfig vagueCloud) uuid = none := rfl
  rw [hnone] at hmac
  cases hmac

/-- A device that reports its MAC address, while the cloud does not know it. -/
theorem canonical_reported : HostMacsCanonical (loadMerossConfig (runOp (.recover "plug")
    (fun _ => oneDevice (systemAll "plug" (some "C4E7AE1AC475"))) vagueCloud).after) := by
  refine (canonical_iff vagueCloud
    [(.recover "plug", fun _ => oneDevice (systemAll "plug" (some "C4E7AE1AC475")))]
    canonical_vagueCloud).mpr (fun o ho => ?_) _ List.mem_cons_self
  obtain rfl := List.mem_singleton.mp ho
  have hall : (probedIn (runOp (.recover "plug")
      (fun _ => oneDevice (systemAll "plug" (some "C4E7AE1AC475"))) vagueCloud).history).all
      (fun p => (extractLanMac p.resp).isSome) = true := by
    decide +kernel
  intro raw _ _ _ p hp _
  exact List.all_eq_true.mp hall p (lastAnswer_spec hp).1

/-- A recovery writes the MAC address of the cloud list as it is, if it cannot be normalized. -/
theorem recovery_stores_malformed_mac :
    ¬ ∀ (file : FileText) (ops : List (Operation × Environment)),
      HostMacsCanonical (loadMerossConfig file) →
        ∀ o ∈ runAll ops file, HostMacsCanonical (loadMerossConfig o.after) := by
  intro hall
  have h := hall vagueCloud [(.recover "plug", fun _ => oneDevice (systemAll "plug" none))]
    canonical_vagueCloud _ List.mem_cons_self
  have hstored : ((storedMac (loadMerossConfig (runOp (.recover "plug")
      (fun _ => oneDevice (systemAll "plug" none)) vagueCloud).after) "plug").bind Json.str?)
      = some "unknown" := by
    decide +kernel
  obtain ⟨mac, hmac, hstr⟩ := Option.bind_eq_some_iff.mp hstored
  obtain ⟨text, rfl, hcanon⟩ := h "plug" mac hmac
  obtain rfl := Option.some.inj hstr
  have herr : (normalizeMac "unknown").toOption = none := by decide +kernel
  rw [CanonicalMac] at hcanon
  rw [hcanon] at herr
  cases herr

end Merossity
