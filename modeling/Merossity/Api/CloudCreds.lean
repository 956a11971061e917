import Merossity.Api.ConfigSequence
import Merossity.Api.Credentials

/-!
The account that the configuration file holds: `get-cloud-creds.ts`, and `login-cloud.ts` with the
file behind it.

* `createGetCloudCredsHandler` answers with the summary of the stored credentials, and `credsAnswer`
  is its answer as a function of the file (`handle_creds`).
* `handle_login`: signing in either leaves the file as it is and is answered with an error, or
  answers with the summary that is answered ever after (`storedSummary_cloud`).
* `storedSummary_runOp`: no other operation on the file changes that answer.
-/

namespace Merossity

open Js

/-! ### The handler -/

/-- `summarizeCloud`, of a section that was read from the file and may hold anything: an array has a
`slice` as well as a text has. -/
def summarizeStored (cloud : Json) : Except String Fields := do
  let token := cloud.get? "token"
  let redacted ←
    if truthy token then
      match token with
      | some (.str token) =>
          .ok (String.ofList (token.toList.take 4) ++ "…"
            ++ String.ofList (token.toList.drop (token.toList.length - 4)))
      | some (.arr items) => do
          let first ← (Json.arr (items.take 4)).toText
          let last ← (Json.arr (items.drop (items.length - 4))).toText
          .ok (first ++ "…" ++ last)
      | _ => .error "cloud.token.slice is not a function"
    else .ok ""
  return (["domain", "mqttDomain", "userId", "userEmail", "key"].filterMap fun k =>
    (cloud.get? k).map fun v => (k, v)) ++ [("tokenRedacted", .str redacted)]

/-- What is stored of an account, as far as it is shown. -/
def storedSummary (file : FileText) : Except String Json :=
  let cloud := (loadMerossConfig file).get? "cloud"
  if truthy cloud then (summarizeStored (cloud.getD .null)).map .obj else .ok .null

/-- `createGetCloudCredsHandler`. -/
def createGetCloudCredsHandler : Async Response := do
  let cfg ← readConfig
  let cloud := cfg.get? "cloud"
  if truthy cloud then
    let summary ← eval (summarizeStored (cloud.getD .null))
    return apiOk [("cloud", .obj summary)]
  else return apiOk [("cloud", .null)]

/-- A request is handled, with the file at hand: the answer, and the file after it. -/
def handle (env : Environment) (p : Async Response) (file : FileText) :
    Except JsError Response × FileText :=
  let out := Prog.exec (serve env) p.run (file, [])
  (out.1, out.2.1)

/-- The answer to `GET /api/cloud/creds`. -/
def credsAnswer (file : FileText) : Except JsError Response :=
  ((storedSummary file).map fun cloud => apiOk [("cloud", cloud)]).mapError
    fun message => { message }

lemma handle_creds (env : Environment) (file : FileText) :
    handle env createGetCloudCredsHandler file = (credsAnswer file, file) := by
  rw [handle, createGetCloudCredsHandler, credsAnswer, storedSummary]
  have hread : Prog.exec (serve env) readConfig.run (file, [])
      = (.ok (loadMerossConfig file), file, [⟨.readFile, file⟩]) := rfl
  rw [Prog.exec_bind_of_ok hread]
  dsimp only
  split_ifs
  · cases summarizeStored (((loadMerossConfig file).get? "cloud").getD .null) <;> rfl
  · rfl

/-! ### What is stored -/

/-- Credentials with texts for the token, the key and the user. -/
def HasTexts (creds : Fields) : Prop :=
  ∀ k ∈ ["token", "key", "userId"], ∃ text, Assoc.get creds k = some (.str text) ∧ text ≠ ""

lemma hasTexts_of_runs {email password : String} {mfaCode domain scheme : Option String}
    {timeoutMs : Option Number} {tr : List (Prog.Event Call Reply)} {creds : Fields}
    (h : Prog.Runs (merossCloudLogin email password mfaCode domain scheme timeoutMs).run tr
      (.ok creds)) : HasTexts creds := by
  obtain ⟨rounds, -, -, -, ex, -, hr⟩ := runs_merossCloudLogin h
  obtain ⟨resp, -, hgrant⟩ := bind_eq_ok hr.symm
  exact (grant_eq_ok hgrant).2.1

/-- The section that is written for an account. -/
def cloudSection (creds : Fields) (updatedAt : String) : Json :=
  .obj (Assoc.set creds "updatedAt" (.str updatedAt))

/-- The summary of the section that is written is the one that is answered. -/
lemma summarizeStored_cloudSection {creds : Fields} (h : HasTexts creds) (updatedAt : String) :
    summarizeStored (cloudSection creds updatedAt) = .ok (summarizeCloud creds) := by
  have hget : ∀ k, k ≠ "updatedAt" → (cloudSection creds updatedAt).get? k = Assoc.get creds k :=
    fun k hk => Assoc.get_set_of_ne _ hk.symm _
  have hshown : (["domain", "mqttDomain", "userId", "userEmail", "key"].filterMap fun k =>
      ((cloudSection creds updatedAt).get? k).map fun v => (k, v))
      = ["domain", "mqttDomain", "userId", "userEmail", "key"].filterMap fun k =>
        (Assoc.get creds k).map fun v => (k, v) := by
    refine List.filterMap_congr fun k hk => ?_
    rw [hget k]
    rintro rfl
    exact absurd hk (by decide)
  obtain ⟨token, htoken, hne⟩ := h "token" (by simp)
  have hlist : token.toList ≠ [] := fun hnil => hne (String.toList_eq_nil_iff.mp hnil)
  have htruthy : truthy (some (.str token)) = true := decide_eq_true hne
  rw [summarizeStored, summarizeCloud, hget "token" (by decide), htoken]
  dsimp only
  rw [if_pos htruthy, if_neg hlist, hshown]
  rfl

/-- The answer once an account has been stored. -/
lemma storedSummary_cloud {creds : Fields} (h : HasTexts creds) (updatedAt : String) (cfg : Json) :
    storedSummary (.json ((ConfigEdit.cloud (cloudSection creds updatedAt)).apply cfg))
      = .ok (.obj (summarizeCloud creds)) := by
  have hcloud : ((ConfigEdit.cloud (cloudSection creds updatedAt)).apply cfg).get? "cloud"
      = some (cloudSection creds updatedAt) := ConfigEdit.get?_apply_self _ cfg
  have htruthy : truthy (some (cloudSection creds updatedAt)) = true := rfl
  rw [storedSummary, ConfigEdit.load_apply, hcloud, if_pos htruthy, Option.getD_some,
    summarizeStored_cloudSection h]
  rfl

/-- Of the fields that are picked, each has its value. -/
lemma get_pick {o rest : Fields} {k : String} {v : Json} (h : Assoc.get o k = some v) :
    ∀ {ks : List String}, k ∈ ks →
      Assoc.get ((ks.filterMap fun j => (Assoc.get o j).map fun v => (j, v)) ++ rest) k = some v
  | j :: ks, hk => by
    by_cases hj : j = k
    · subst hj
      rw [List.filterMap_cons_some (by rw [h, Option.map_some]), List.cons_append, Assoc.get_cons,
        if_pos rfl]
    · have hk : k ∈ ks := List.mem_of_ne_of_mem (Ne.symm hj) hk
      cases hget : Assoc.get o j with
      | none =>
          rw [List.filterMap_cons_none (by rw [hget, Option.map_none])]
          exact get_pick h hk
      | some w =>
          rw [List.filterMap_cons_some (by rw [hget, Option.map_some]), List.cons_append,
            Assoc.get_cons, if_neg hj]
          exact get_pick h hk

/-- The key of an account is not empty, and is in the summary. -/
lemma key_summarizeCloud {creds : Fields} (h : HasTexts creds) :
    truthy ((Json.obj (summarizeCloud creds)).get? "key") = true := by
  obtain ⟨key, hkey, hne⟩ := h "key" (by simp)
  have hget : (Json.obj (summarizeCloud creds)).get? "key" = some (.str key) :=
    get_pick hkey (by simp)
  rw [hget]
  exact decide_eq_true hne

/-- An edit of another section changes nothing of the account. -/
lemma storedSummary_apply {edit : ConfigEdit} (h : edit.owned ≠ .cloud) (file : FileText) :
    storedSummary (.json (edit.apply (loadMerossConfig file))) = storedSummary file := by
  have hkey : edit.owned.key ≠ "cloud" := fun hk => h (Section.key_injective hk)
  rw [storedSummary, storedSummary, ConfigEdit.load_apply, ConfigEdit.get?_apply_of_ne _ _ hkey]

/-! ### Signing in -/

/-- A sign-in leaves the configuration alone, and what it returns has texts. -/
lemma ewp_merossCloudLogin {writes : List Probe → ConfigEdit → Prop} {Q : Progress → Fields → Prop}
    {Qe : Progress → JsError → Prop} {s : Progress} {email password : String}
    {mfaCode domain scheme : Option String} {timeoutMs : Option Number}
    (hQ : ∀ creds, HasTexts creds → Q s creds) (hQe : ∀ e, Qe s e) :
    Prog.ewp (watchWrites writes) (merossCloudLogin email password mfaCode domain scheme timeoutMs)
      Q Qe s := by
  refine Prog.wp_run_iff (P := fun s r => match r with
    | .ok creds => Q s creds
    | .error e => Qe s e).mp ?_
  refine Prog.wp_of_runs (· = s) ?_ (merossCloudLogin_remote _ _ _ _ _ _).only rfl ?_
  · intro s' c hc hs
    cases c <;> first | exact hc.elim | exact ⟨trivial, fun _ => hs⟩
  · rintro _ r tr rfl hruns
    cases r with
    | ok creds => exact hQ creds (hasTexts_of_runs hruns)
    | error e => exact hQe e

/-- The credentials are written and their summary is answered, or nothing is written, and the answer
is no success. -/
def SavesSummary (s : Progress) (resp : Response) : Prop :=
  (∃ base creds updatedAt, HasTexts creds
      ∧ s.commit = some ⟨base, .cloud (cloudSection creds updatedAt)⟩
      ∧ resp = apiOk [("cloud", .obj (summarizeCloud creds))])
    ∨ s.commit = none ∧ resp.isOk = false

lemma login_summary (req : Request) :
    Prog.ewp (watchWrites (Operation.login req).Writes) (createLoginCloudHandler req) SavesSummary
      Idle .start := by
  refine ewp_login (T := HasTexts) ?_ (fun resp hresp => ?_) fun base creds updatedAt hcreds => ?_
  · exact fun _ _ _ _ _ _ _ _ hQ hQe => ewp_merossCloudLogin hQ hQe
  · exact .inr ⟨rfl, hresp⟩
  · exact .inl ⟨base, creds, updatedAt, hcreds, rfl, rfl⟩

/-- A request to sign in, handled with the file: the credentials are in the file and their summary
is the answer, or the file is as it was and the answer is no success. -/
lemma handle_login (env : Environment) (req : Request) (file : FileText) :
    (∃ creds updatedAt, HasTexts creds ∧ handle env (createLoginCloudHandler req) file
      = (.ok (apiOk [("cloud", .obj (summarizeCloud creds))]),
        .json ((ConfigEdit.cloud (cloudSection creds updatedAt)).apply (loadMerossConfig file))))
    ∨ (handle env (createLoginCloudHandler req) file).2 = file
      ∧ ∀ data, (handle env (createLoginCloudHandler req) file).1 ≠ .ok (.ok data) := by
  have hstart : Serves (.login req) file (file, []) .start :=
    ⟨rfl, rfl, fun _ cfg hcfg => (by cases hcfg), fun _ => rfl, fun c hc => (by cases hc)⟩
  have hspec : Prog.wp (watchWrites (Operation.login req).Writes) (createLoginCloudHandler req).run
      (fun s r => match r with
        | .ok resp => SavesSummary s resp
        | .error e => Idle s e) .start := Prog.wp_run_iff.mpr (login_summary req)
  obtain ⟨s, hs, hpost⟩ := Prog.wp_exec (serve env) (Serves (.login req) file) hspec hstart
    fun t s c h hok => h.step t s c hok
  have hhandle : handle env (createLoginCloudHandler req) file
      = ((Prog.exec (serve env) (createLoginCloudHandler req).run (file, [])).1,
        (Prog.exec (serve env) (createLoginCloudHandler req).run (file, [])).2.1) := rfl
  rw [hhandle]
  generalize Prog.exec (serve env) (createLoginCloudHandler req).run (file, []) = out at hs hpost ⊢
  obtain ⟨r, t⟩ := out
  cases r with
  | error e => exact .inr ⟨hs.unwritten hpost, fun data h => by cases h⟩
  | ok resp =>
      rcases hpost with ⟨base, creds, updatedAt, hcreds, hcommit, rfl⟩ | ⟨hcommit, hfail⟩
      · obtain ⟨hbase, -, hafter⟩ := hs.written _ hcommit
        refine .inl ⟨creds, updatedAt, hcreds, Prod.ext rfl ?_⟩
        rw [← hbase]
        exact hafter
      · refine .inr ⟨hs.unwritten hcommit, fun data h => ?_⟩
        rw [Except.ok.inj h] at hfail
        cases hfail

/-- No other operation changes the account. -/
lemma storedSummary_runOp {op : Operation} (h : ∀ req, op ≠ .login req) (env : Environment)
    (file : FileText) : storedSummary (runOp op env file).after = storedSummary file := by
  rcases runOp_spec op env file with ⟨-, c, -, hbase, hwrites, hafter⟩ | ⟨-, -, hafter⟩
  · rw [hafter, Commit.result, hbase]
    refine storedSummary_apply (fun howned => ?_) file
    have hop : (runOp op env file).op = op := rfl
    cases hedit : c.edit with
    | cloud creds =>
        rw [hedit] at hwrites
        cases op <;> first | exact h _ rfl | exact hwrites
    | _ =>
        rw [hedit] at howned
        cases howned
  · rw [hafter]

end Merossity
