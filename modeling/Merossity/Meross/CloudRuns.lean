import Merossity.Lib.Traces
import Merossity.Meross.Cloud

/-!
The requests that the functions of `meross/cloud/http.ts` make of the cloud.

* A `CloudExchange` is a request with its reply, and `accept` what `authenticatedPost` makes of the
  reply (`runs_authenticatedPost`).
* `Follows` are the requests of `postWithRedirect`, and `SignsIn` those of the loop over the
  candidates of `merossCloudLogin`; `runs_postWithRedirect` and `runs_signInLoop` say that every run
  is one of these, whatever the cloud replies.
* `Follows.last` and `SignsIn.last`: the result is that of the last exchange, and the domain in it
  is the one that was asked last.
-/

namespace Merossity

open Js

/-! ### Exchanges -/

/-- A request to the cloud, with its reply. -/
structure CloudExchange where
  request : CloudRequest
  reply : CloudReply

/-- What `authenticatedPost` makes of a reply. -/
def accept : CloudReply → Except JsError Json
  | .failed message => .error { message }
  | .response status json =>
      match json with
      | none => .error ⟨s!"Invalid cloud response ({status})", some (none, none)⟩
      | some v =>
          match v.isObject, v.get? "apiStatus" with
          | true, some (.num _) => .ok v
          | _, _ => .error ⟨s!"Invalid cloud response ({status})", some (none, none)⟩

/-- The response of an exchange, or the error of the request. -/
def CloudExchange.outcome (ex : CloudExchange) : Except JsError Json := accept ex.reply

/-- The history that consists of exchanges with the cloud. -/
def cloudTrace (exs : List CloudExchange) : List (Prog.Event Call Reply) :=
  exs.map fun ex => ⟨.cloudFetch ex.request, ex.reply⟩

@[simp] lemma cloudTrace_append (exs exs' : List CloudExchange) :
    cloudTrace (exs ++ exs') = cloudTrace exs ++ cloudTrace exs' :=
  List.map_append

/-- The program makes one request of the given endpoint, and returns the response. -/
def OnePost (endpoint : String) (post : String → Async Json) : Prop :=
  ∀ domain tr r, Prog.Runs (post domain).run tr r → ∃ ex : CloudExchange, tr = cloudTrace [ex]
    ∧ ex.request.domain = domain ∧ ex.request.endpoint = endpoint ∧ r = ex.outcome

/-- `authenticatedPost` is one request, and a look at its reply. -/
lemma authenticatedPost_eq (endpoint : String) (params : Json) (token : Option Json)
    (scheme domain : String) (timeoutMs : Number) :
    authenticatedPost endpoint params token scheme domain timeoutMs = (do
      let authorization ← eval
        (if truthy token then (toText token).map ("Basic " ++ ·) else .ok "Basic")
      let reply ← call (.cloudFetch { scheme, domain, endpoint, params, authorization, timeoutMs })
      ExceptT.mk (.ret (accept reply))) := by
  rw [authenticatedPost]
  refine bind_congr fun authorization => bind_congr fun reply => ?_
  cases reply with
  | failed message => rfl
  | response status json =>
      cases json with
      | none => rfl
      | some v =>
          rw [accept]
          dsimp only
          cases v.isObject <;> rcases v.get? "apiStatus" with _ | (_ | _ | _ | _ | _ | _) <;> rfl

/-- `authenticatedPost` makes one request, unless its token has no text. -/
lemma onePost_authenticatedPost {endpoint scheme : String} {params : Json} {token : Option Json}
    {timeoutMs : Number} (htoken : ∀ message, toText token ≠ .error message) :
    OnePost endpoint fun domain =>
      authenticatedPost endpoint params token scheme domain timeoutMs := by
  obtain ⟨authorization, hauthorization⟩ : ∃ authorization, (if truthy token then
      (toText token).map ("Basic " ++ ·) else .ok "Basic") = .ok authorization := by
    cases htext : toText token with
    | error message => exact absurd htext (htoken message)
    | ok text => split <;> exact ⟨_, rfl⟩
  intro domain tr r h
  dsimp only at h
  rw [authenticatedPost_eq, hauthorization] at h
  obtain ⟨reply, rest, rfl, rfl, rfl⟩ := h
  exact ⟨⟨{ scheme, domain, endpoint, params, authorization, timeoutMs }, reply⟩, rfl, rfl, rfl,
    rfl⟩

/-- What has no text is no falsy value. -/
lemma truthy_of_toText_error {v : Option Json} {message : String}
    (h : toText v = .error message) : truthy v = true := by
  rcases v with _ | (_ | _ | _ | _ | _ | _)
  case some.arr items => rfl
  case some.obj fs => rfl
  all_goals cases h

/-- `authenticatedPost` makes no request, if its token has no text. -/
lemma authenticatedPost_error {endpoint scheme domain message : String} {params : Json}
    {token : Option Json} {timeoutMs : Number} (htoken : toText token = .error message) :
    authenticatedPost endpoint params token scheme domain timeoutMs = throwNew message := by
  rw [authenticatedPost, if_pos (truthy_of_toText_error htoken), htoken]
  rfl

/-! ### Redirects -/

/-- The requests of `postWithRedirect` that still follows `n` redirects, and their result. -/
inductive Follows : ℕ → String → List CloudExchange → Except JsError (String × Json) → Prop
  | fails {n : ℕ} {ex : CloudExchange} {e : JsError} : ex.outcome = .error e →
      Follows n ex.request.domain [ex] (.error e)
  | returns {n : ℕ} {ex : CloudExchange} {resp : Json} : ex.outcome = .ok resp →
      (n = 0 ∨ redirectDomain resp = none) →
      Follows n ex.request.domain [ex] (.ok (ex.request.domain, resp))
  | redirects {n : ℕ} {ex : CloudExchange} {resp : Json} {next : String} {exs : List CloudExchange}
      {r : Except JsError (String × Json)} : ex.outcome = .ok resp →
      redirectDomain resp = some next → Follows n next exs r →
      Follows (n + 1) ex.request.domain (ex :: exs) r

section Posts

variable {endpoint : String} {post : String → Async Json}

/-- All requests have the same endpoint. -/
def Asks (endpoint : String) (exs : List CloudExchange) : Prop :=
  ∀ ex ∈ exs, ex.request.endpoint = endpoint

lemma runs_followRedirects (hpost : OnePost endpoint post) (n : ℕ) :
    ∀ {domain : String} {tr : List (Prog.Event Call Reply)} {r : Except JsError (String × Json)},
      Prog.Runs (followRedirects post n domain).run tr r →
        ∃ exs, tr = cloudTrace exs ∧ Asks endpoint exs ∧ Follows n domain exs r := by
  induction n with
  | zero =>
      intro domain tr r h
      rw [followRedirects, Prog.runs_bind] at h
      rcases h with ⟨e, h, rfl⟩ | ⟨resp, tr₁, tr₂, rfl, h, rfl, rfl⟩
      · obtain ⟨ex, rfl, rfl, hendpoint, hout⟩ := hpost _ _ _ h
        exact ⟨[ex], rfl, by simpa [Asks] using hendpoint, .fails hout.symm⟩
      · obtain ⟨ex, rfl, rfl, hendpoint, hout⟩ := hpost _ _ _ h
        exact ⟨[ex], List.append_nil _, by simpa [Asks] using hendpoint,
          .returns hout.symm (.inl rfl)⟩
  | succ n ih =>
      intro domain tr r h
      rw [followRedirects, Prog.runs_bind] at h
      rcases h with ⟨e, h, rfl⟩ | ⟨resp, tr₁, tr₂, rfl, h, hrest⟩
      · obtain ⟨ex, rfl, rfl, hendpoint, hout⟩ := hpost _ _ _ h
        exact ⟨[ex], rfl, by simpa [Asks] using hendpoint, .fails hout.symm⟩
      · obtain ⟨ex, rfl, rfl, hendpoint, hout⟩ := hpost _ _ _ h
        cases hnext : redirectDomain resp with
        | none =>
            rw [hnext] at hrest
            obtain ⟨rfl, rfl⟩ := Prog.runs_pure.mp hrest
            exact ⟨[ex], List.append_nil _, by simpa [Asks] using hendpoint,
              .returns hout.symm (.inr hnext)⟩
        | some next =>
            rw [hnext] at hrest
            obtain ⟨exs, rfl, hasks, hfollows⟩ := ih hrest
            exact ⟨ex :: exs, rfl, List.forall_mem_cons.mpr ⟨hendpoint, hasks⟩,
              .redirects hout.symm hnext hfollows⟩

end Posts

namespace Follows

variable {n : ℕ} {domain : String} {exs : List CloudExchange}
  {r : Except JsError (String × Json)}

lemma length_le (h : Follows n domain exs r) : exs.length ≤ n + 1 := by
  induction h with
  | fails _ => simp
  | returns _ _ => simp
  | redirects _ _ _ ih => simpa using ih

lemma ne_nil (h : Follows n domain exs r) : exs ≠ [] := by
  cases h <;> exact List.cons_ne_nil _ _

/-- The first request goes to the given domain. -/
lemma head (h : Follows n domain exs r) : ∃ ex rest, exs = ex :: rest
    ∧ ex.request.domain = domain := by
  cases h with
  | @fails n ex e _ => exact ⟨ex, [], rfl, rfl⟩
  | @returns n ex resp _ _ => exact ⟨ex, [], rfl, rfl⟩
  | @redirects n ex resp next exs r _ _ _ => exact ⟨ex, exs, rfl, rfl⟩

/-- The result is that of the last exchange, with the domain that was asked. -/
lemma last (h : Follows n domain exs r) : ∃ ex, exs.getLast? = some ex
    ∧ r = ex.outcome.map fun resp => (ex.request.domain, resp) := by
  induction h with
  | @fails n ex e hout => exact ⟨ex, rfl, by rw [hout]; rfl⟩
  | @returns n ex resp hout _ => exact ⟨ex, rfl, by rw [hout]; rfl⟩
  | @redirects n ex resp next exs r _ _ hfollows ih =>
      obtain ⟨last, hlast, hr⟩ := ih
      refine ⟨last, ?_, hr⟩
      rw [List.getLast?_cons_of_ne_nil hfollows.ne_nil, hlast]

/-- What is returned is the last response, with the domain that was asked for it. -/
lemma last_ok {host : String} {resp : Json} (h : Follows n domain exs (.ok (host, resp))) :
    ∃ ex, exs.getLast? = some ex ∧ ex.request.domain = host ∧ ex.outcome = .ok resp := by
  obtain ⟨ex, hex, hr⟩ := h.last
  obtain ⟨resp', hout, heq⟩ := map_eq_ok hr.symm
  obtain ⟨hhost, rfl⟩ := Prod.mk.inj heq
  exact ⟨ex, hex, hhost, hout⟩

/-- What is thrown is the error of the last exchange. -/
lemma last_error {e : JsError} (h : Follows n domain exs (.error e)) :
    ∃ ex, exs.getLast? = some ex ∧ ex.outcome = .error e := by
  obtain ⟨ex, hex, hr⟩ := h.last
  exact ⟨ex, hex, map_eq_error hr.symm⟩

/-- Every further request goes to the domain that the reply before it redirects to. -/
lemma chain (h : Follows n domain exs r) :
    exs.IsChain fun a b => ∃ resp, a.outcome = .ok resp
      ∧ redirectDomain resp = some b.request.domain := by
  induction h with
  | fails _ => exact List.isChain_singleton _
  | returns _ _ => exact List.isChain_singleton _
  | @redirects n ex resp next exs r hout hnext hfollows ih =>
      obtain ⟨b, rest, rfl, rfl⟩ := hfollows.head
      exact List.isChain_cons_cons.mpr ⟨⟨resp, hout, hnext⟩, ih⟩

end Follows

/-! ### The loop over the candidates -/

/-- The requests to one candidate. -/
structure Round where
  candidate : String
  exchanges : List CloudExchange

/-- The rounds of the loop over the candidates, and their result: the next candidate is tried after
status 1004, if there is one. -/
inductive SignsIn : List String → List Round → Except JsError (Option (String × Json)) → Prop
  | none : SignsIn [] [] (.ok none)
  | fails {c : String} {cs : List String} {exs : List CloudExchange} {e : JsError} :
      Follows 2 (stripScheme c) exs (.error e) → SignsIn (c :: cs) [⟨c, exs⟩] (.error e)
  | stops {c : String} {cs : List String} {exs : List CloudExchange} {domain : String}
      {resp : Json} : Follows 2 (stripScheme c) exs (.ok (domain, resp)) →
      ¬(apiStatus resp = .fin 1004 ∧ cs ≠ []) →
      SignsIn (c :: cs) [⟨c, exs⟩] (.ok (some (domain, resp)))
  | next {c : String} {cs : List String} {exs : List CloudExchange} {domain : String}
      {resp : Json} {rounds : List Round} {r : Except JsError (Option (String × Json))} :
      Follows 2 (stripScheme c) exs (.ok (domain, resp)) → apiStatus resp = .fin 1004 → cs ≠ [] →
      SignsIn cs rounds r → SignsIn (c :: cs) (⟨c, exs⟩ :: rounds) r

/-- The exchanges of some rounds. -/
def exchangesOf (rounds : List Round) : List CloudExchange := rounds.flatMap Round.exchanges

lemma runs_postWithRedirect {endpoint scheme domain : String} {params : Json} {token : Option Json}
    {timeoutMs : Number} (htoken : ∀ message, toText token ≠ .error message)
    {tr : List (Prog.Event Call Reply)} {r : Except JsError (String × Json)}
    (h : Prog.Runs (postWithRedirect endpoint params token scheme domain timeoutMs).run tr r) :
    ∃ exs, tr = cloudTrace exs ∧ Asks endpoint exs ∧ Follows 2 (stripScheme domain) exs r :=
  runs_followRedirects (onePost_authenticatedPost htoken) 2 h

/-- Either the token has no text, and nothing is asked, or the run is one of redirects. -/
lemma runs_postWithRedirect_cases {endpoint scheme domain : String} {params : Json}
    {token : Option Json} {timeoutMs : Number} {tr : List (Prog.Event Call Reply)}
    {r : Except JsError (String × Json)}
    (h : Prog.Runs (postWithRedirect endpoint params token scheme domain timeoutMs).run tr r) :
    (∃ message, toText token = .error message ∧ tr = [] ∧ r = .error { message })
      ∨ ∃ exs, tr = cloudTrace exs ∧ Asks endpoint exs ∧ Follows 2 (stripScheme domain) exs r := by
  cases htoken : toText token with
  | error message =>
      simp only [postWithRedirect, authenticatedPost_error htoken] at h
      obtain ⟨rfl, rfl⟩ := Prog.runs_throw.mp h
      exact .inl ⟨message, rfl, rfl, rfl⟩
  | ok text =>
      refine .inr (runs_postWithRedirect (fun message hmessage => ?_) h)
      rw [htoken] at hmessage
      cases hmessage

lemma runs_signInLoop {endpoint scheme : String} {params : Json} {timeoutMs : Number} :
    ∀ {candidates : List String} {tr : List (Prog.Event Call Reply)}
      {r : Except JsError (Option (String × Json))},
      Prog.Runs (signInLoop (fun candidate =>
        postWithRedirect endpoint params none scheme candidate timeoutMs) candidates).run tr r →
      ∃ rounds, tr = cloudTrace (exchangesOf rounds) ∧ Asks endpoint (exchangesOf rounds)
        ∧ SignsIn candidates rounds r := by
  have htoken : ∀ message, toText none ≠ .error message := fun message h => nomatch h
  intro candidates
  induction candidates with
  | nil =>
      intro tr r h
      obtain ⟨rfl, rfl⟩ := Prog.runs_pure.mp h
      exact ⟨[], rfl, by simp [Asks, exchangesOf], SignsIn.none⟩
  | cons c cs ih =>
      intro tr r h
      rw [signInLoop, Prog.runs_bind] at h
      rcases h with ⟨e, h, rfl⟩ | ⟨⟨domain, resp⟩, tr₁, tr₂, rfl, h, hrest⟩
      · obtain ⟨exs, rfl, hasks, hfollows⟩ := runs_postWithRedirect htoken h
        exact ⟨[⟨c, exs⟩], by simp [exchangesOf], by simpa [exchangesOf] using hasks,
          .fails hfollows⟩
      · obtain ⟨exs, rfl, hasks, hfollows⟩ := runs_postWithRedirect htoken h
        by_cases hnext : apiStatus resp = .fin 1004 ∧ cs ≠ []
        · rw [if_pos hnext] at hrest
          obtain ⟨rounds, rfl, hasks', hsigns⟩ := ih hrest
          refine ⟨⟨c, exs⟩ :: rounds, by simp [exchangesOf], fun ex hex => ?_,
            .next hfollows hnext.1 hnext.2 hsigns⟩
          rcases List.mem_append.mp hex with hex | hex
          · exact hasks ex hex
          · exact hasks' ex hex
        · rw [if_neg hnext] at hrest
          obtain ⟨rfl, rfl⟩ := Prog.runs_pure.mp hrest
          exact ⟨[⟨c, exs⟩], by simp [exchangesOf], by simpa [exchangesOf] using hasks,
            .stops hfollows hnext⟩

namespace SignsIn

variable {candidates : List String} {rounds : List Round}
  {r : Except JsError (Option (String × Json))}

/-- The candidates are tried in their order. -/
lemma candidates_prefix (h : SignsIn candidates rounds r) :
    rounds.map Round.candidate <+: candidates := by
  induction h with
  | none => exact List.prefix_rfl
  | fails _ => exact List.cons_prefix_cons.mpr ⟨rfl, List.nil_prefix⟩
  | stops _ _ => exact List.cons_prefix_cons.mpr ⟨rfl, List.nil_prefix⟩
  | next _ _ _ _ ih => exact List.cons_prefix_cons.mpr ⟨rfl, ih⟩

lemma ne_nil (h : SignsIn candidates rounds r) (hne : candidates ≠ []) : rounds ≠ [] := by
  cases h <;> first | exact List.cons_ne_nil _ _ | exact absurd rfl hne

/-- Each round is one of redirects. -/
lemma follows (h : SignsIn candidates rounds r) :
    ∀ round ∈ rounds, ∃ res, Follows 2 (stripScheme round.candidate) round.exchanges res := by
  induction h with
  | none => exact fun round hround => nomatch hround
  | fails hfollows => simpa using ⟨_, hfollows⟩
  | stops hfollows _ => simpa using ⟨_, hfollows⟩
  | next hfollows _ _ _ ih => exact List.forall_mem_cons.mpr ⟨⟨_, hfollows⟩, ih⟩

/-- A round that is not the last one ends with status 1004. -/
lemma retries (h : SignsIn candidates rounds r) : ∀ round ∈ rounds.dropLast, ∃ ex resp,
    round.exchanges.getLast? = some ex ∧ ex.outcome = .ok resp ∧ apiStatus resp = .fin 1004 := by
  induction h with
  | none => exact fun round hround => nomatch hround
  | fails _ => exact fun round hround => nomatch hround
  | stops _ _ => exact fun round hround => nomatch hround
  | @next c cs exs domain resp rounds r hfollows hstatus hne hsigns ih =>
      rw [List.dropLast_cons_of_ne_nil (hsigns.ne_nil hne)]
      refine List.forall_mem_cons.mpr ⟨?_, ih⟩
      obtain ⟨ex, hex, -, hout⟩ := hfollows.last_ok
      exact ⟨ex, resp, hex, hout, hstatus⟩

/-- The result is that of the last exchange. -/
lemma last (h : SignsIn candidates rounds r) (hne : candidates ≠ []) : ∃ ex,
    (exchangesOf rounds).getLast? = some ex
      ∧ r = ex.outcome.map fun resp => some (ex.request.domain, resp) := by
  induction h with
  | none => exact absurd rfl hne
  | fails hfollows =>
      obtain ⟨ex, hex, hout⟩ := hfollows.last_error
      exact ⟨ex, by simpa [exchangesOf] using hex, by rw [hout]; rfl⟩
  | stops hfollows _ =>
      obtain ⟨ex, hex, rfl, hout⟩ := hfollows.last_ok
      exact ⟨ex, by simpa [exchangesOf] using hex, by rw [hout]; rfl⟩
  | @next c cs exs domain resp rounds r _ _ hcs hsigns ih =>
      obtain ⟨ex, hex, hr⟩ := ih hcs
      refine ⟨ex, ?_, hr⟩
      have happend : exchangesOf (⟨c, exs⟩ :: rounds) = exs ++ exchangesOf rounds := rfl
      rw [happend, List.getLast?_append, hex, Option.some_or]

end SignsIn

end Merossity
