import Merossity.Api.ConfigSequence
import Merossity.Meross.CidrGrammar

/-!
The range that is stored for the recovery of hosts: `POST` of `network-cidr.ts`, and the reader
`tryResolveHost` of `state-poller.ts`.

* `UsableNetwork` says of a configuration that the stored range is accepted by `listHostsInCidr`,
  and that the recovery, which prefers it, does not scan a text that is no range.
* `after_network` is what one request does to the file: the trimmed text is written as it is,
  whatever it says.
* `usable_iff`: the stored range is usable after every request of a run exactly if every request
  names a range that the parser accepts, or none.
-/

namespace Merossity

open Js

/-! ### What is asked and what is read -/

/-- The text of a range in a request. -/
def requestedCidr (req : Request) : Except String String :=
  (toText (coalesce ((parseJsonBody req).get? "cidr") (some (.str "")))).map trim

/-- The request names a range that the parser accepts, or none. -/
def UsableRequest (req : Request) : Prop :=
  ∀ cidr, requestedCidr req = .ok cidr → cidr = "" ∨ LooseCidr cidr

/-- `cfg.network?.cidr`. -/
def storedCidr (cfg : Json) : Option Json := Json.opt (cfg.get? "network") "cidr"

/-- `String(cfg.network?.cidr ?? '').trim()`, the range that `tryResolveHost` prefers. -/
def recoveryCidr (cfg : Json) : Except String String :=
  (toText (coalesce (storedCidr cfg) (some (.str "")))).map trim

/-- `listHostsInCidr` does not throw. -/
def ListsHosts (cidr : String) : Prop := ∃ ips, listHostsInCidr cidr = .ok ips

/-- The stored range is a text that `listHostsInCidr` accepts, and so is the text that the
recovery scans if there is one. -/
def UsableNetwork (cfg : Json) : Prop :=
  (∀ v, storedCidr cfg = some v → ∃ cidr, v = .str cidr ∧ ListsHosts cidr)
    ∧ ∀ cidr, recoveryCidr cfg = .ok cidr → cidr = "" ∨ ListsHosts cidr

/-- Requests to save a range, each with the surroundings it runs in. -/
def networkRequests (reqs : List (Request × Environment)) : List (Operation × Environment) :=
  reqs.map fun r => (.network r.1, r.2)

lemma listsHosts_iff {cidr : String} : ListsHosts cidr ↔ LooseCidr cidr := by
  rw [← parseCidr_ok_iff, ListsHosts, listHostsInCidr]
  exact ok_map_iff

/-- A text that is no range is scanned in silence: nobody is asked, and nothing is found. -/
lemma scan_silent {cidr : String} (h : ¬ListsHosts cidr) (uuid : String) (key : Json)
    (perHostTimeoutMs : Option Number) (targetMac : Option String) :
    resolveHostByUuidScan uuid cidr key perHostTimeoutMs targetMac = pure none := by
  rw [resolveHostByUuidScan]
  cases hips : listHostsInCidr cidr with
  | error message => rfl
  | ok ips => exact absurd ⟨ips, hips⟩ h

/-! ### One request -/

/-- The handler, once the text of the request is read. -/
lemma createNetworkCidrHandler_eq {req : Request} {text : String}
    (htext : toText (coalesce ((parseJsonBody req).get? "cidr") (some (.str ""))) = .ok text) :
    createNetworkCidrHandler req =
      if trim text = "" then return apiErr "Missing cidr" "missing_cidr"
      else do
        let cfg ← readConfig
        let updatedAt ← call .nowIso
        writeConfig cfg (.network (trim text) updatedAt)
        return apiOk [("cidr", .str (trim text))] := by
  rw [createNetworkCidrHandler, textField, htext]
  rfl

/-- A request without a text leaves the file as it is, and every other one stores its text. -/
lemma after_network {req : Request} (env : Environment) (file : FileText) {text : String}
    (htext : toText (coalesce ((parseJsonBody req).get? "cidr") (some (.str ""))) = .ok text) :
    ∃ updatedAt, (runOp (.network req) env file).after = if trim text = "" then file
      else .json ((ConfigEdit.network (trim text) updatedAt).apply (loadMerossConfig file)) := by
  rw [runOp, Operation.prog, createNetworkCidrHandler_eq htext]
  by_cases hne : trim text = ""
  · simp only [if_pos hne]
    exact ⟨"", rfl⟩
  · simp only [if_neg hne]
    exact ⟨_, rfl⟩

/-- A request whose text cannot be converted leaves the file as it is. -/
lemma after_network_of_error {req : Request} {env : Environment} {file : FileText}
    {message : String} (htext : toText (coalesce ((parseJsonBody req).get? "cidr") (some (.str "")))
      = .error message) : (runOp (.network req) env file).after = file := by
  rcases runOp_spec (.network req) env file with ⟨-, c, -, -, hwrites, -⟩ | ⟨-, -, hafter⟩
  · obtain ⟨base, edit⟩ := c
    cases edit with
    | network cidr updatedAt =>
        obtain ⟨text, hok, -⟩ := hwrites
        rw [htext] at hok
        cases hok
    | _ => exact hwrites.elim
  · exact hafter

lemma storedCidr_apply (cidr updatedAt : String) (cfg : Json) :
    storedCidr ((ConfigEdit.network cidr updatedAt).apply cfg) = some (.str cidr) := by
  have hself := ConfigEdit.get?_apply_self (.network cidr updatedAt) cfg
  rw [storedCidr, show "network" = (ConfigEdit.network cidr updatedAt).owned.key from rfl, hself,
    Json.opt, Option.bind_some, ConfigEdit.value, Json.get?_obj,
    Assoc.get_set_of_ne _ (by decide), Assoc.get_set_self]

/-- A stored text is usable if it is a range. -/
lemma usableNetwork_iff_of_stored {cfg : Json} {cidr : String}
    (h : storedCidr cfg = some (.str cidr)) (htrim : trim cidr = cidr) (hne : cidr ≠ "") :
    UsableNetwork cfg ↔ ListsHosts cidr := by
  have hread : recoveryCidr cfg = .ok cidr := by
    rw [recoveryCidr, h]
    exact congrArg Except.ok htrim
  constructor
  · intro husable
    exact (husable.2 cidr hread).resolve_left hne
  · intro hlists
    refine ⟨fun v hv => ⟨cidr, ?_, hlists⟩, fun cidr' hcidr => .inr ?_⟩
    · exact Option.some.inj (hv.symm.trans h)
    · obtain rfl : cidr = cidr' := Except.ok.inj (hread.symm.trans hcidr)
      exact hlists

/-- Nothing is stored in a configuration without the section. -/
lemma usableNetwork_of_none {cfg : Json} (h : cfg.get? "network" = none) : UsableNetwork cfg := by
  have hstored : storedCidr cfg = none := by rw [storedCidr, h]; rfl
  refine ⟨fun v hv => ?_, fun cidr hcidr => .inl ?_⟩
  · rw [hstored] at hv
    cases hv
  · rw [recoveryCidr, hstored] at hcidr
    exact (Except.ok.inj hcidr).symm

/-- One request keeps the stored range usable exactly if it names a range or none. -/
lemma usable_step (req : Request) (env : Environment) {file : FileText}
    (h : UsableNetwork (loadMerossConfig file)) :
    UsableNetwork (loadMerossConfig (runOp (.network req) env file).after)
      ↔ UsableRequest req := by
  cases htext : toText (coalesce ((parseJsonBody req).get? "cidr") (some (.str ""))) with
  | error message =>
      rw [after_network_of_error htext]
      refine iff_of_true h fun cidr hcidr => ?_
      rw [requestedCidr, htext] at hcidr
      cases hcidr
  | ok text =>
      have hasked : requestedCidr req = .ok (trim text) := by rw [requestedCidr, htext]; rfl
      obtain ⟨updatedAt, hafter⟩ := after_network env file htext
      rw [hafter]
      by_cases hne : trim text = ""
      · rw [if_pos hne]
        refine iff_of_true h fun cidr hcidr => .inl ?_
        rw [← hne]
        exact (Except.ok.inj (hasked.symm.trans hcidr)).symm
      · rw [if_neg hne, ConfigEdit.load_apply,
          usableNetwork_iff_of_stored (storedCidr_apply ..) (trim_trim text) hne, listsHosts_iff]
        constructor
        · intro hloose cidr hcidr
          obtain rfl := Except.ok.inj (hasked.symm.trans hcidr)
          exact .inr hloose
        · intro husable
          exact (husable _ hasked).resolve_left hne

/-! ### Sequences of requests -/

lemma usable_run (reqs : List (Request × Environment)) : ∀ file : FileText,
    UsableNetwork (loadMerossConfig file) →
      ((∀ o ∈ runAll (networkRequests reqs) file, UsableNetwork (loadMerossConfig o.after))
        ↔ ∀ r ∈ reqs, UsableRequest r.1) := by
  induction reqs with
  | nil =>
      intro file _
      exact iff_of_true (fun o ho => nomatch ho) fun r hr => nomatch hr
  | cons r reqs ih =>
      intro file h
      have hrun : runAll (networkRequests (r :: reqs)) file = runOp (.network r.1) r.2 file
          :: runAll (networkRequests reqs) (runOp (.network r.1) r.2 file).after := rfl
      have hstep := usable_step r.1 r.2 h
      rw [hrun, List.forall_mem_cons, List.forall_mem_cons, hstep]
      constructor
      · rintro ⟨hr, hrest⟩
        exact ⟨hr, (ih _ (hstep.mpr hr)).mp hrest⟩
      · rintro ⟨hr, hrest⟩
        exact ⟨hr, (ih _ (hstep.mpr hr)).mpr hrest⟩

/-- **The stored range is usable** after every request of a run, from a configuration without the
section, exactly if every request of the run names a range that the parser accepts, or none. -/
theorem usable_iff (file : FileText) (reqs : List (Request × Environment))
    (hnew : (loadMerossConfig file).get? "network" = none) :
    (∀ o ∈ runAll (networkRequests reqs) file, UsableNetwork (loadMerossConfig o.after))
      ↔ ∀ r ∈ reqs, UsableRequest r.1 :=
  usable_run reqs file (usableNetwork_of_none hnew)

/-- Two requests with ranges, from no file. -/
theorem usable_two : (loadMerossConfig .missing).get? "network" = none ∧
    ∀ o ∈ runAll (networkRequests
      [(jsonRequest (.obj [("cidr", .str " 10.0.0.0/24 ")]), fun _ => silence),
        (jsonRequest (.obj []), fun _ => silence)]) .missing,
      UsableNetwork (loadMerossConfig o.after) := by
  refine ⟨rfl, (usable_iff .missing _ rfl).mpr ?_⟩
  simp only [List.forall_mem_cons]
  refine ⟨fun cidr hcidr => .inr ?_, fun cidr hcidr => .inl ?_, fun r hr => nomatch hr⟩
  · obtain rfl : "10.0.0.0/24" = cidr := Except.ok.inj hcidr
    exact parseCidr_ok_iff.mp ⟨_, rfl⟩
  · exact (Except.ok.inj hcidr).symm

/-- The text `home` is stored, and a recovery scans it in silence. -/
theorem not_usable_home : ¬ ∀ (file : FileText) (reqs : List (Request × Environment)),
    (loadMerossConfig file).get? "network" = none →
      ∀ o ∈ runAll (networkRequests reqs) file, UsableNetwork (loadMerossConfig o.after) := by
  intro h
  have husable := h .missing [(jsonRequest (.obj [("cidr", .str "home")]), fun _ => silence)] rfl _
    List.mem_cons_self
  obtain ⟨cidr, hcidr, ips, hips⟩ := husable.1 _ rfl
  obtain rfl := Json.str.inj hcidr
  cases hips

end Merossity
