import Merossity.Meross.CloudRuns

/-!
Signing in: the hosts that `merossCloudLogin` asks, and what it makes of the last reply.

* `Candidates` is the order in which the domains are to be tried, and `candidates_domainCandidates`
  says that the source computes it.
* `grant` is what becomes of the last response (`runs_merossCloudLogin`).
* `RightRounds` are the rounds of a sign-in that asks only whom it may ask, and `rightRounds`
  reads them off any run of the loop.
* **`login_tries_regions`**: every run of `merossCloudLogin` asks so, sends twelve requests at
  most, and ends as its last reply says.
-/

namespace Merossity

open Js

/-! ### The candidates -/

/-- The candidates for a given domain: the built-in regions, the given one first, or the custom host
alone. -/
inductive Candidates : Option String → List String → Prop
  | absent : Candidates none fallbackDomains
  | empty : Candidates (some "") fallbackDomains
  | region {d : String} {others : List String} : stripScheme d ∈ fallbackDomains →
      (stripScheme d :: others).Perm fallbackDomains → others.Sublist fallbackDomains →
      Candidates (some d) (stripScheme d :: others)
  | custom {d : String} : d ≠ "" → stripScheme d ∉ fallbackDomains →
      Candidates (some d) [stripScheme d]

lemma nodup_fallbackDomains : fallbackDomains.Nodup := by decide

lemma stripScheme_of_mem : ∀ d ∈ fallbackDomains, stripScheme d = d := by decide

lemma map_stripScheme_fallbackDomains : fallbackDomains.map stripScheme = fallbackDomains := by
  decide

lemma candidates_domainCandidates (domain : Option String) :
    Candidates domain (domainCandidates domain) := by
  have hdedup : fallbackDomains.eraseDups = fallbackDomains := by decide
  unfold domainCandidates
  dsimp only
  rw [map_stripScheme_fallbackDomains, hdedup]
  cases domain with
  | none => exact .absent
  | some d =>
      dsimp only
      split_ifs with hd hmem
      · subst hd
        exact .empty
      · have hregion : stripScheme d ∈ fallbackDomains := List.contains_iff_mem.mp hmem
        refine .region hregion ?_ List.filter_sublist
        have herase : fallbackDomains.filter (· ≠ stripScheme d)
            = fallbackDomains.erase (stripScheme d) := by
          rw [nodup_fallbackDomains.erase_eq_filter]
          exact List.filter_congr fun x _ => by rw [decide_not]; rfl
        rw [herase]
        exact (List.perm_cons_erase hregion).symm
      · exact .custom hd fun hregion => hmem (List.contains_iff_mem.mpr hregion)

namespace Candidates

variable {domain : Option String} {cs : List String}

lemma ne_nil (h : Candidates domain cs) : cs ≠ [] := by
  cases h <;> exact List.cons_ne_nil _ _

/-- No domain is a candidate twice. -/
lemma nodup (h : Candidates domain cs) : cs.Nodup := by
  cases h with
  | absent => exact nodup_fallbackDomains
  | empty => exact nodup_fallbackDomains
  | region _ hperm _ => exact hperm.nodup_iff.mpr nodup_fallbackDomains
  | custom _ _ => exact List.nodup_singleton _

lemma length_le (h : Candidates domain cs) : cs.length ≤ 4 := by
  cases h with
  | absent => exact le_rfl
  | empty => exact le_rfl
  | region _ hperm _ => exact hperm.length_eq.le
  | custom _ _ => exact Nat.le_of_ble_eq_true rfl

/-- A candidate is a host, if the given domain is one. -/
lemma stripScheme_eq (h : Candidates domain cs)
    (hdomain : ∀ d, domain = some d → stripScheme (stripScheme d) = stripScheme d) :
    ∀ c ∈ cs, stripScheme c = c := by
  cases h with
  | absent => exact stripScheme_of_mem
  | empty => exact stripScheme_of_mem
  | region _ hperm _ => exact fun c hc => stripScheme_of_mem c (hperm.mem_iff.mp hc)
  | custom _ _ => simpa using hdomain _ rfl

end Candidates

/-! ### The rounds -/

/-- The reply to `a` has status 1030, and names the host of `b`. -/
def Redirects (a b : CloudExchange) : Prop := ∃ resp d, a.outcome = .ok resp
  ∧ apiStatus resp = .fin 1030 ∧ resp.path ["data", "domain"] = some (.str d) ∧ d ≠ ""
  ∧ b.request.domain = stripScheme d

lemma redirectDomain_eq_some_iff {resp : Json} {next : String} :
    redirectDomain resp = some next ↔ ∃ d, resp.path ["data", "domain"] = some (.str d)
      ∧ apiStatus resp = .fin 1030 ∧ d ≠ "" ∧ stripScheme d = next := by
  rw [redirectDomain]
  split
  · next d hd => simp [hd, and_assoc]
  · next hd =>
      simp only [reduceCtorEq, false_iff]
      rintro ⟨d, hpath, -⟩
      exact hd d hpath

/-- The rounds of a sign-in that asks only whom it may ask: the candidates in their order, the next
one after status 1004 only, and in each round two redirects at most. -/
structure RightRounds (domain : Option String) (rounds : List Round) : Prop where
  order : ∃ cs, Candidates domain cs ∧ cs.Nodup ∧ rounds.map Round.candidate <+: cs
  ne_nil : rounds ≠ []
  start : ∀ round ∈ rounds, ∃ ex rest, round.exchanges = ex :: rest
    ∧ ex.request.domain = stripScheme round.candidate
    ∧ ((∀ d, domain = some d → stripScheme (stripScheme d) = stripScheme d) →
      ex.request.domain = round.candidate)
  redirected : ∀ round ∈ rounds, round.exchanges.IsChain Redirects
  bounded : ∀ round ∈ rounds, round.exchanges.length ≤ 3
  retried : ∀ round ∈ rounds.dropLast, ∃ ex resp, round.exchanges.getLast? = some ex
    ∧ ex.outcome = .ok resp ∧ apiStatus resp = .fin 1004

lemma rightRounds {domain : Option String} {rounds : List Round}
    {r : Except JsError (Option (String × Json))}
    (h : SignsIn (domainCandidates domain) rounds r) : RightRounds domain rounds := by
  have hcs := candidates_domainCandidates domain
  have hprefix := h.candidates_prefix
  refine ⟨⟨_, hcs, hcs.nodup, hprefix⟩, h.ne_nil hcs.ne_nil, fun round hround => ?_,
    fun round hround => ?_, fun round hround => ?_, h.retries⟩
  · obtain ⟨res, hfollows⟩ := h.follows round hround
    obtain ⟨ex, rest, hex, hdomain⟩ := hfollows.head
    refine ⟨ex, rest, hex, hdomain, fun hhost => ?_⟩
    rw [hdomain, hcs.stripScheme_eq hhost]
    exact hprefix.subset (List.mem_map_of_mem hround)
  · obtain ⟨res, hfollows⟩ := h.follows round hround
    refine hfollows.chain.imp fun a b hab => ?_
    obtain ⟨resp, hout, hnext⟩ := hab
    obtain ⟨d, hpath, hstatus, hd, hstrip⟩ := redirectDomain_eq_some_iff.mp hnext
    exact ⟨resp, d, hout, hstatus, hpath, hd, hstrip.symm⟩
  · obtain ⟨res, hfollows⟩ := h.follows round hround
    exact hfollows.length_le

/-- What is linked in a chain is its head, or linked to by something in it. -/
lemma eq_head_or_exists_of_isChain {α : Type} {R : α → α → Prop} {l : List α} :
    ∀ {a : α}, (a :: l).IsChain R → ∀ x ∈ a :: l, x = a ∨ ∃ y ∈ a :: l, R y x := by
  induction l with
  | nil => exact fun _ x hx => .inl (List.mem_singleton.mp hx)
  | cons b l ih =>
      intro a hchain x hx
      obtain ⟨hab, hchain⟩ := List.isChain_cons_cons.mp hchain
      rcases List.mem_cons.mp hx with rfl | hx
      · exact .inl rfl
      · rcases ih hchain x hx with rfl | ⟨y, hy, hyx⟩
        · exact .inr ⟨a, List.mem_cons_self, hab⟩
        · exact .inr ⟨y, List.mem_cons_of_mem a hy, hyx⟩

namespace RightRounds

variable {domain : Option String} {rounds : List Round}

/-- There are at most four candidates, and three requests to each. -/
lemma length_exchangesOf_le (h : RightRounds domain rounds) :
    (exchangesOf rounds).length ≤ 12 := by
  obtain ⟨cs, hcs, -, hprefix⟩ := h.order
  have hrounds : rounds.length ≤ 4 := by
    rw [← List.length_map Round.candidate]
    exact hprefix.length_le.trans hcs.length_le
  calc (exchangesOf rounds).length
      = (rounds.map fun round => round.exchanges.length).sum := List.length_flatMap
    _ ≤ rounds.length * 3 := by
        rw [← List.length_map fun round : Round => round.exchanges.length]
        exact List.sum_le_card_nsmul _ 3 (List.forall_mem_map.mpr h.bounded)
    _ ≤ 12 := by omega

/-- A host that is asked is a candidate, or named by a reply that redirects. -/
lemma host (h : RightRounds domain rounds) : ∀ ex ∈ exchangesOf rounds,
    (∃ round ∈ rounds, ex.request.domain = stripScheme round.candidate)
      ∨ ∃ ex' ∈ exchangesOf rounds, Redirects ex' ex := by
  intro ex hex
  obtain ⟨round, hround, hex⟩ := List.mem_flatMap.mp hex
  obtain ⟨first, rest, hexs, hdomain, -⟩ := h.start round hround
  have hchain := h.redirected round hround
  rw [hexs] at hchain hex
  rcases eq_head_or_exists_of_isChain hchain ex hex with rfl | ⟨ex', hex', hredirects⟩
  · exact .inl ⟨round, hround, hdomain⟩
  · rw [← hexs] at hex'
    exact .inr ⟨ex', List.mem_flatMap.mpr ⟨round, hround, hex'⟩, hredirects⟩

end RightRounds

/-! ### The last reply -/

/-- The texts that a reply grants. -/
structure Granted where
  token : String
  key : String
  userId : String
  userEmail : String

/-- The texts in the data of a reply. -/
def grantedTexts (email : String) (data : Option Json) : Except String Granted := do
  let token ← toText (coalesce (Json.opt data "token") (some (.str "")))
  let key ← toText (coalesce (Json.opt data "key") (some (.str "")))
  let userId ← toText (coalesce (Json.opt data "userid")
    (coalesce (Json.opt data "userId") (some (.str ""))))
  let userEmail ← toText (coalesce (Json.opt data "email") (some (.str email)))
  return { token, key, userId, userEmail }

/-- The text that names the domain of the credentials: that of the reply, or the host it is from. -/
def domainText (data : Option Json) (resolved : String) : String :=
  match Json.opt data "domain" with
  | some (.str domain) => domain
  | _ => resolved

/-- `resp.data ?? {}`. -/
def replyData (resp : Json) : Option Json := coalesce (resp.get? "data") (some (.obj []))

/-- The MQTT domain of the credentials, if the reply has one. -/
def mqttField (data : Option Json) : Fields :=
  match Json.opt data "mqttDomain" with
  | some (.str mqttDomain) => [("mqttDomain", .str mqttDomain)]
  | _ => []

/-- What `merossCloudLogin` makes of the last response, and of the host it is from. -/
def grant (email resolved : String) (resp : Json) : Except JsError Fields :=
  if apiStatus resp ≠ .fin 0 then
    .error ⟨"Cloud signIn failed", some (some (apiStatus resp), resp.get? "info")⟩
  else do
    let granted ← (grantedTexts email (replyData resp)).mapError fun message => { message }
    if granted.token = "" ∨ granted.key = "" ∨ granted.userId = "" then
      .error ⟨"Cloud signIn did not return token/key/userid", some (none, none)⟩
    else
      .ok ([("domain", .str (stripScheme (domainText (replyData resp) resolved)))]
        ++ mqttField (replyData resp) ++ [("token", .str granted.token),
          ("key", .str granted.key), ("userId", .str granted.userId),
          ("userEmail", .str granted.userEmail)])

/-- `merossCloudLogin` is the loop over the candidates, and a look at the last response. -/
lemma merossCloudLogin_eq (email password : String) (mfaCode domain scheme : Option String)
    (timeoutMs : Option Number) : ∃ params : Json,
    merossCloudLogin email password mfaCode domain scheme timeoutMs = (do
      let result ← signInLoop (fun candidate => postWithRedirect "/v1/Auth/signIn" params none
        (scheme.getD "https") candidate (timeoutMs.getD (.fin 15000))) (domainCandidates domain)
      match result with
      | none => throwCloud "Cloud signIn failed" none none
      | some (resolved, resp) => ExceptT.mk (.ret (grant email resolved resp))) := by
  refine ⟨_, bind_congr fun result => ?_⟩
  cases result with
  | none => rfl
  | some result =>
      obtain ⟨resolved, resp⟩ := result
      dsimp only
      rw [grant]
      split_ifs with hstatus
      · rfl
      · have hdata : coalesce (resp.get? "data") (some (.obj [])) = replyData resp := rfl
        rw [hdata, grantedTexts]
        cases toText (coalesce (Json.opt (replyData resp) "token") (some (.str ""))) with
        | error message => rfl
        | ok token =>
        cases toText (coalesce (Json.opt (replyData resp) "key") (some (.str ""))) with
        | error message => rfl
        | ok key =>
        cases toText (coalesce (Json.opt (replyData resp) "userid")
          (coalesce (Json.opt (replyData resp) "userId") (some (.str "")))) with
        | error message => rfl
        | ok userId =>
        cases toText (coalesce (Json.opt (replyData resp) "email") (some (.str email))) with
        | error message => rfl
        | ok userEmail =>
            change ite _ _ _ = ExceptT.mk (Prog.ret (ite _ _ _))
            split_ifs <;> rfl

/-- A run of `merossCloudLogin` consists of right rounds, and returns what the last one grants. -/
lemma runs_merossCloudLogin {email password : String} {mfaCode domain scheme : Option String}
    {timeoutMs : Option Number} {tr : List (Prog.Event Call Reply)} {r : Except JsError Fields}
    (h : Prog.Runs (merossCloudLogin email password mfaCode domain scheme timeoutMs).run tr r) :
    ∃ rounds, tr = cloudTrace (exchangesOf rounds)
      ∧ Asks "/v1/Auth/signIn" (exchangesOf rounds) ∧ RightRounds domain rounds
      ∧ ∃ ex, (exchangesOf rounds).getLast? = some ex
        ∧ r = ex.outcome.bind (grant email ex.request.domain) := by
  obtain ⟨params, heq⟩ := merossCloudLogin_eq email password mfaCode domain scheme timeoutMs
  have hne := (candidates_domainCandidates domain).ne_nil
  rw [heq, Prog.runs_bind] at h
  rcases h with ⟨e, h, rfl⟩ | ⟨result, tr₁, tr₂, rfl, h, hrest⟩
  · obtain ⟨rounds, rfl, hasks, hsigns⟩ := runs_signInLoop h
    obtain ⟨ex, hex, hr⟩ := hsigns.last hne
    refine ⟨rounds, rfl, hasks, rightRounds hsigns, ex, hex, ?_⟩
    rw [map_eq_error hr.symm]
    rfl
  · obtain ⟨rounds, rfl, hasks, hsigns⟩ := runs_signInLoop h
    obtain ⟨ex, hex, hr⟩ := hsigns.last hne
    obtain ⟨resp, hout, rfl⟩ := map_eq_ok hr.symm
    obtain ⟨rfl, rfl⟩ := Prog.runs_result.mp hrest
    exact ⟨rounds, List.append_nil _, hasks, rightRounds hsigns, ex, hex, by rw [hout]; rfl⟩

/-! ### Every run -/

/-- Signing in ends as its last reply says: credentials are returned after status 0 only, and the
error after another status carries that status and its info. -/
structure EndsAs (exs : List CloudExchange) (r : Except JsError Fields) : Prop where
  granted : ∀ creds, r = .ok creds → ∃ ex resp, exs.getLast? = some ex ∧ ex.outcome = .ok resp
    ∧ apiStatus resp = .fin 0
  refused : ∀ ex resp, exs.getLast? = some ex → ex.outcome = .ok resp → apiStatus resp ≠ .fin 0 →
    ∃ message, r = .error ⟨message, some (some (apiStatus resp), resp.get? "info")⟩

/-- The domain that is returned is the one that the returned reply is from. -/
def ReturnsLast (tr : List (Prog.Event Call Reply)) (r : Except JsError (String × Json)) : Prop :=
  ∀ d resp, r = .ok (d, resp) → ∃ exs ex, tr = cloudTrace exs ∧ exs.getLast? = some ex
    ∧ ex.request.domain = d ∧ ex.outcome = .ok resp

lemma endsAs {exs : List CloudExchange} {email : String} {ex : CloudExchange}
    (hex : exs.getLast? = some ex) :
    EndsAs exs (ex.outcome.bind (grant email ex.request.domain)) := by
  refine ⟨fun creds hcreds => ?_, fun ex' resp hex' hout hstatus => ?_⟩
  · obtain ⟨resp, hout, hgrant⟩ := bind_eq_ok hcreds
    refine ⟨ex, resp, hex, hout, ?_⟩
    by_contra hstatus
    rw [grant, if_pos hstatus] at hgrant
    cases hgrant
  · obtain rfl : ex = ex' := Option.some.inj (hex.symm.trans hex')
    refine ⟨"Cloud signIn failed", ?_⟩
    rw [hout]
    exact if_pos hstatus

lemma returnsLast {endpoint scheme domain : String} {params : Json} {token : Option Json}
    {timeoutMs : Number} {tr : List (Prog.Event Call Reply)} {r : Except JsError (String × Json)}
    (h : Prog.Runs (postWithRedirect endpoint params token scheme domain timeoutMs).run tr r) :
    ReturnsLast tr r := by
  intro d resp hr
  rcases runs_postWithRedirect_cases h with ⟨message, -, -, hmessage⟩ | ⟨exs, htr, -, hfollows⟩
  · rw [hr] at hmessage
    cases hmessage
  · subst hr
    obtain ⟨ex, hex, hdomain, hout⟩ := hfollows.last_ok
    exact ⟨exs, ex, htr, hex, hdomain, hout⟩

/-- **Signing in tries the regions.** Whatever the cloud replies, the requests of `merossCloudLogin`
are right rounds of at most twelve sign-in requests, each of them to a candidate or to a host that a
reply with status 1030 names, and the result is that of the last reply; and `postWithRedirect`
returns the domain that its reply is from. -/
theorem login_tries_regions (env : List (Prog.Event Call Reply) → (c : Call) → Reply c)
    (email password : String) (mfaCode domain scheme : Option String) (timeoutMs : Option Number)
    (endpoint host protocol : String) (params : Json) (token : Option Json) (limit : Number) :
    (∃ rounds, RightRounds domain rounds
      ∧ (Prog.run env
          (merossCloudLogin email password mfaCode domain scheme timeoutMs).run).2
        = cloudTrace (exchangesOf rounds)
      ∧ Asks "/v1/Auth/signIn" (exchangesOf rounds)
      ∧ (exchangesOf rounds).length ≤ 12
      ∧ (∀ ex ∈ exchangesOf rounds,
        (∃ round ∈ rounds, ex.request.domain = stripScheme round.candidate)
          ∨ ∃ ex' ∈ exchangesOf rounds, Redirects ex' ex)
      ∧ EndsAs (exchangesOf rounds)
        (Prog.run env
          (merossCloudLogin email password mfaCode domain scheme timeoutMs).run).1)
    ∧ ReturnsLast
      (Prog.run env (postWithRedirect endpoint params token protocol host limit).run).2
      (Prog.run env (postWithRedirect endpoint params token protocol host limit).run).1 := by
  constructor
  · obtain ⟨rounds, htrace, hasks, hright, ex, hex, hr⟩ :=
      runs_merossCloudLogin (Prog.runs_run env
        (merossCloudLogin email password mfaCode domain scheme timeoutMs).run)
    refine ⟨rounds, hright, htrace, hasks, hright.length_exchangesOf_le, hright.host, ?_⟩
    rw [hr]
    exact endsAs hex
  · exact returnsLast (Prog.runs_run env _)

end Merossity
