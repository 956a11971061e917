import Merossity.Poller.SingleFlight
import Merossity.Poller.Store

/-!
Where a reading comes from.

* `lastFetch` watches a program for its request to a device; `readDevice_readsFrom` says that a
  poll sends one request at most, and that its outcome is what `deviceReading` makes of the reply.
* `Reachable.reads` carries this over to every poll under way, by the rule `running_step` for
  properties of their programs.
* `delivered` is the reply that a step delivers to a poll. The poll ends with what is read off it
  (`completion_of_delivered`), and without one there is no reading (`delivered_of_completion`).
-/

namespace Merossity

open Js Machine

/-! ### One request -/

/-- Watches for the request of a program, after which there is no call. -/
def lastFetch : Monitor Call Reply (Option (LanRequest × FetchReply)) where
  ok s _ := s = none
  next s c r := match c, r with
    | .fetchConfig req, r => some (req, r)
    | _, _ => s

/-- The outcome of a poll whose request to `host` got this reply. -/
def readOutcome [Runtime] (host : String) (reply : FetchReply) : Except JsError DeviceReading :=
  ((receive reply).bind (deviceReading host)).mapError fun message => { message }

/-- The outcome of a poll comes from the reply to its request, and without one it is a failure. -/
def ReadsFrom [Runtime] (s : Option (LanRequest × FetchReply))
    (outcome : Except JsError DeviceReading) : Prop :=
  match s with
  | some (req, reply) => outcome = readOutcome req.host reply
  | none => ∃ e, outcome = .error e

section

variable {α : Type} {Q : Option (LanRequest × FetchReply) → α → Prop}
  {Qe : Option (LanRequest × FetchReply) → JsError → Prop}

lemma ewp_lastFetch_of_makes {p : Async α} (hp : Makes Call.reads p) (hQ : ∀ a, Q none a)
    (hQe : ∀ e, Qe none e) : Prog.ewp lastFetch p Q Qe none := by
  refine Prog.ewp_of_only (· = none) ?_ hp.only rfl (fun s a hs => hs ▸ hQ a)
    fun s e hs => hs ▸ hQe e
  intro s c hc hs
  refine ⟨hs, fun r => ?_⟩
  cases c <;> first | exact hs | cases hc

end

section

variable [Runtime]

omit [Runtime] in
lemma requireHost_makes (cfg : Json) (uuid : String) : Makes Call.reads (requireHost cfg uuid) := by
  rw [requireHost]
  split
  · exact makes_pure _
  · exact makes_throwNew _

/-- A request that is sent, and what is made of the reply. -/
lemma ewp_getSystemAll {host : String} {key : Json} {timeoutMs : Option Number} :
    Prog.ewp lastFetch (do
      let resp ← getSystemAll (.str host) key timeoutMs
      eval (deviceReading host resp)) (fun s reading => ReadsFrom s (.ok reading))
      (fun s e => ReadsFrom s (.error e)) none := by
  rw [Prog.ewp_bind, getSystemAll, postLan, Prog.ewp_bind]
  refine ewp_eval (fun m _ => ⟨_, rfl⟩) fun message _ => ?_
  rw [postConfig, Prog.ewp_bind]
  refine ewp_eval (fun m _ => ⟨_, rfl⟩) fun h hhost => ?_
  obtain rfl : host = h := Except.ok.inj hhost
  rw [Prog.ewp_bind, call, Prog.ewp_perform]
  refine ⟨rfl, fun reply => ewp_eval (fun m hm => ?_) fun resp hresp => ?_⟩
  · show Except.error _ = readOutcome host reply
    rw [readOutcome, hm]
    rfl
  · refine ewp_eval (fun m hm => ?_) fun reading hreading => ?_
    · show Except.error _ = readOutcome host reply
      rw [readOutcome, hresp, Except.bind, hm]
      rfl
    · show Except.ok _ = readOutcome host reply
      rw [readOutcome, hresp, Except.bind, hreading]
      rfl

/-- A poll sends one request at most, and its outcome comes from the reply. -/
theorem readDevice_readsFrom (uuid : String) (timeoutMs : Option Number) :
    Prog.wp lastFetch (readDevice uuid timeoutMs).run ReadsFrom none := by
  rw [Prog.wp_run_iff, readDevice, Prog.ewp_bind]
  have hfails : ∀ e : JsError, ReadsFrom none (.error e) := fun e => ⟨e, rfl⟩
  refine ewp_lastFetch_of_makes readConfig_makes (fun cfg => ?_) hfails
  rw [Prog.ewp_bind]
  refine ewp_lastFetch_of_makes (requireHost_makes cfg uuid) (fun host => ?_) hfails
  rw [Prog.ewp_bind]
  exact ewp_lastFetch_of_makes requireLanKey_makes (fun key => ewp_getSystemAll) hfails

/-! ### Polls under way -/

namespace Poller

omit [Runtime] in
lemma resume_eq_some {α : Type} {p : Poller} {reply : (c : Call) → Reply c}
    {prog prog' : Prog Call Reply α} (h : p.resume reply prog = some prog') :
    ∃ c k, prog = .call c k ∧ prog' = k (p.answer reply c) := by
  cases prog with
  | ret a => cases h
  | call c k => exact ⟨c, k, rfl, (Option.some.inj h).symm⟩

/-- A property of the programs of the polls under way is kept by every step, if a poll starts
with it and keeps it as long as it goes on. -/
theorem running_step {p p' : Poller} {a : Act}
    {P : String → Prog Call Reply (Except JsError DeviceReading) → Prop}
    (hstart : ∀ uuid timeoutMs, P uuid (readDevice uuid timeoutMs).run)
    (hresume : ∀ t reply now random uuid task prog, a = .pollGoesOn t reply now random →
      p.inFlight.running t = some (uuid, task) → P uuid task.prog →
        p.resume reply task.prog = some prog → (∀ o, prog ≠ .ret o) → P uuid prog)
    (hp : ∀ (t : ℕ) uuid task, p.inFlight.running t = some (uuid, task) → P uuid task.prog)
    (h : p.step a = some p') (u : ℕ) (key : String) (d : PollTask)
    (hu : p'.inFlight.running u = some (key, d)) : P key d.prog := by
  have hstarts : Loops p p' → P key d.prog := by
    intro hloops
    rcases hloops.inFlight.running hu with hu | ⟨timeoutMs, hprog⟩
    · exact hp u key d hu
    · rw [hprog]
      exact hstart key timeoutMs
  have hsettles : ∀ (t : ℕ) k e r, p.inFlight.running t = some (k, e) →
      (p.inFlight.advance t (.settled r)).running u = some (key, d) → P key d.prog := by
    intro t k e r ht hu
    rw [Flight.running_eq_some, Flight.WellFormed.tasks_advance _ ht] at hu
    split at hu
    next => cases hu
    next => exact hp u key d (Flight.running_eq_some.mpr hu)
  cases stretch_of_step h with
  | tick now => exact hstarts (loops_tickBody p now)
  | tickGoesOn now => exact hstarts (loops_tickBody p now)
  | pollNowStarts i now q => exact hstarts (loops_startPollNow p i q now)
  | workerGoesOn i w now q queue workers c r =>
      exact hstarts (loops_collectAndTake p i q queue workers w r now)
  | pollAwaits t reply now random uuid task prog ht hprog hret =>
      rw [Flight.running_eq_some, Flight.WellFormed.tasks_advance _ ht] at hu
      split at hu
      next =>
        cases hu
        exact hresume t reply now random key task prog rfl ht (hp t key task ht) hprog hret
      next => exact hp u key d (Flight.running_eq_some.mpr hu)
  | pollReads t reply now random uuid task reading ht => exact hsettles t uuid task _ ht hu
  | pollFails t reply now random uuid task e ht =>
      obtain ⟨resolving, recoveries, metas, heq⟩ :=
        applyFailure_eq p t uuid task e.message now random
      rw [heq] at hu
      exact hsettles t uuid task _ ht hu
  | pollReturns c f hf =>
      obtain ⟨k, k', t, creator, r, -, -, rfl⟩ := Flight.leave_eq_some hf
      exact hp u key d hu
  | _ => exact hp u key d hu

/-- A poll under way has not sent its request, and its outcome will come from the reply. -/
lemma Reachable.reads {file : FileText} {p : Poller} (h : p.Reachable file) (t : ℕ)
    (uuid : String) (task : PollTask) (ht : p.inFlight.running t = some (uuid, task)) :
    Prog.wp lastFetch task.prog ReadsFrom none := by
  refine h.invariant (I := fun p => ∀ (t : ℕ) uuid task,
    p.inFlight.running t = some (uuid, task) → Prog.wp lastFetch task.prog ReadsFrom none)
    (fun t uuid task ht => by cases ht) (fun p a p' hp _ hstep => ?_) t uuid task ht
  refine running_step (P := fun _ prog => Prog.wp lastFetch prog ReadsFrom none)
    readDevice_readsFrom (fun t reply _ _ uuid task prog _ _ hwp hresume hret => ?_) hp hstep
  obtain ⟨c, k, htask, rfl⟩ := resume_eq_some hresume
  rw [htask] at hwp
  have hnext := hwp.2 (p.answer reply c)
  -- a program that goes on calls again, which it may only before its request
  cases hk : k (p.answer reply c) with
  | ret o => exact absurd hk (hret o)
  | call c' k' =>
      rw [hk] at hnext
      have hnone : lastFetch.next none c (p.answer reply c) = none := hnext.1
      rwa [hnone] at hnext

/-! ### Replies -/

/-- The reply of a device that a step delivers to a poll, with the device that is polled and the
host that was asked. -/
def delivered (p : Poller) : Act → Option (String × String × Json)
  | .pollGoesOn t reply _ _ => match p.inFlight.running t with
    | some (uuid, task) => match task.prog with
      | .call (.fetchConfig req) _ => match receive (reply (.fetchConfig req)) with
        | .ok resp => some (uuid, req.host, resp)
        | .error _ => none
      | _ => none
    | none => none
  | _ => none

omit [Runtime] in
lemma delivered_eq_some {p : Poller} {a : Act} {uuid host : String} {resp : Json}
    (h : p.delivered a = some (uuid, host, resp)) : ∃ t reply now random task req k,
      a = .pollGoesOn t reply now random ∧ p.inFlight.running t = some (uuid, task) ∧
      task.prog = .call (.fetchConfig req) k ∧ req.host = host ∧
      receive (reply (.fetchConfig req)) = .ok resp := by
  cases a with
  | pollGoesOn t reply now random =>
      simp only [delivered] at h
      split at h
      next uuid' task ht =>
        split at h
        next req k hprog =>
          split at h
          next resp' hresp =>
            cases h
            exact ⟨t, reply, now, random, task, req, k, rfl, ht, hprog, rfl, hresp⟩
          next => cases h
        next => cases h
      next => cases h
  | _ => cases h

/-- A poll that a reply is delivered to ends, with what `deviceReading` makes of the reply. -/
theorem Reachable.completion_of_delivered {file : FileText} {p : Poller} {a : Act}
    {uuid host : String} {resp : Json} (hp : p.Reachable file)
    (hd : p.delivered a = some (uuid, host, resp)) :
    ∃ c, p.completion a = some c ∧ c.uuid = uuid ∧
      c.outcome = (deviceReading host resp).mapError fun message => { message } := by
  obtain ⟨t, reply, now, random, task, req, k, rfl, ht, hprog, rfl, hresp⟩ := delivered_eq_some hd
  have hwp := hp.reads t uuid task ht
  rw [hprog] at hwp
  have hnext := hwp.2 (reply (.fetchConfig req))
  cases hk : k (reply (.fetchConfig req)) with
  | ret outcome =>
      rw [hk] at hnext
      have houtcome : outcome = readOutcome req.host (reply (.fetchConfig req)) := hnext
      have hresume : p.resume reply task.prog = some (.ret outcome) := by
        rw [hprog, ← hk]
        rfl
      refine ⟨_, completion_ends ht hresume, rfl, ?_⟩
      rw [houtcome, readOutcome, hresp]
      rfl
  | call c' k' =>
      rw [hk] at hnext
      cases hnext.1

/-- A poll that ends with a reading was delivered the reply that has it. -/
theorem Reachable.delivered_of_completion {file : FileText} {p : Poller} {a : Act}
    {c : Completion} {reading : DeviceReading} (hp : p.Reachable file)
    (hc : p.completion a = some c) (hok : c.outcome = .ok reading) :
    ∃ host resp, p.delivered a = some (c.uuid, host, resp) ∧
      deviceReading host resp = .ok reading := by
  obtain ⟨reply, random, task, rfl, ht, hresume, -, -⟩ := completion_eq_some hc
  obtain ⟨call, k, hprog, hret⟩ := resume_eq_some hresume
  have hwp := hp.reads c.task c.uuid task ht
  rw [hprog] at hwp
  have hnext := hwp.2 (p.answer reply call)
  rw [← hret, hok] at hnext
  cases call with
  | fetchConfig req =>
      have houtcome : .ok reading = readOutcome req.host (reply (.fetchConfig req)) := hnext
      obtain ⟨resp, hresp, hreading⟩ := bind_eq_ok (mapError_eq_ok houtcome.symm)
      refine ⟨req.host, resp, ?_, hreading⟩
      simp only [delivered, ht, hprog, hresp]
  | _ =>
      obtain ⟨e, he⟩ := hnext
      cases he

end Poller

end

end Merossity
