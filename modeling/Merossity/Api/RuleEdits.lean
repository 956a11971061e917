import Merossity.Api.ScheduleHandlers

/-!
Which rule of a device a schedule edit touches.

* `RuleEdit` are the three handlers that read a rule from the device and send it back
  changed.
* `EditLog` is what the messages of such a handler look like: nothing, a GET, or a GET
  followed by SETs that all carry the rule with the id `chosenId`.
* `editLog_handler` proves this of every run, and `touches_requested_iff` says when the
  rule is the requested one.
-/

namespace Merossity

open Js

/-- The handlers that edit one rule of a device. -/
inductive RuleEdit where
  | patchTimerX
  | deleteTimerX
  | deleteTriggerX
  deriving DecidableEq

/-- The trimmed id that a request asks for, if it has a text. -/
def requestedId (req : Request) : Option String :=
  (toText (coalesce ((parseJsonBody req).get? "id") (some (.str "")))).toOption.map trim

/-- The rule that the patch handler sends back for a rule it has read, if it gets that far. -/
def patchedRule (body : Json) (rule : Fields) : Option Fields :=
  match patchFlag (requestPatch body) "enable", patchFlag (requestPatch body) "toggleOnoff" with
  | .ok enable, .ok toggleOnoff =>
      (patchTimerXRule (requestPatch body) enable toggleOnoff rule).toOption
  | _, _ => none

/-- The parts of a patch that are computed before the device is asked. -/
lemma patchedRule_eq {body : Json} {enable toggleOnoff : Option ℤ}
    (he : patchFlag (requestPatch body) "enable" = .ok enable)
    (ht : patchFlag (requestPatch body) "toggleOnoff" = .ok toggleOnoff) (rule : Fields) :
    patchedRule body rule
      = (patchTimerXRule (requestPatch body) enable toggleOnoff rule).toOption := by
  rw [patchedRule, he, ht]

lemma patchedRule_eq_some {body : Json} {rule rule' : Fields}
    (h : patchedRule body rule = some rule') : ∃ enable toggleOnoff,
      patchFlag (requestPatch body) "enable" = .ok enable
        ∧ patchFlag (requestPatch body) "toggleOnoff" = .ok toggleOnoff
        ∧ patchTimerXRule (requestPatch body) enable toggleOnoff rule = .ok rule' := by
  rw [patchedRule] at h
  split at h
  next enable toggleOnoff henable htoggle =>
    exact ⟨enable, toggleOnoff, henable, htoggle, eq_ok_of_toOption h⟩
  next => cases h

/-- A patched rule has the id of the rule that was read. -/
lemma ruleId_of_patchedRule {body : Json} {rule rule' : Fields}
    (h : patchedRule body rule = some rule') : ruleId (.obj rule') = ruleId (.obj rule) := by
  obtain ⟨enable, toggleOnoff, -, -, hpatch⟩ := patchedRule_eq_some h
  rw [ruleId, ruleId, Json.get?_obj, Json.get?_obj, id_patchTimerXRule hpatch]

/-- What the messages and the answer of the patch handler look like: nothing is sent; a GET,
and then a rule that is missing or cannot be patched; or a GET and a SET, which is lost,
reported, or received without that the rule can be reported. -/
inductive PatchLog (req : Request) : List Exchange → Except JsError Response → Prop where
  | silent (r : Except JsError Response) (hr : ¬ Answered r) : PatchLog req [] r
  | asked (g : Exchange) (r : Except JsError Response) (hget : g.1.message.method = "GET")
      (hnone : ∀ resp rule, receive g.2 = .ok resp → currentRule "timerx" resp = some rule →
        patchedRule (parseJsonBody req) rule = none) (hr : ¬ Answered r) : PatchLog req [g] r
  | lost (g ex : Exchange) (resp : Json) (rule rule' : Fields) (r : Except JsError Response)
      (hget : g.1.message.method = "GET") (hresp : receive g.2 = .ok resp)
      (hrule : currentRule "timerx" resp = some rule)
      (hpatched : patchedRule (parseJsonBody req) rule = some rule')
      (hset : ex.1.message.method = "SET")
      (hpayload : ex.1.message.payload = .obj [("timerx", .obj rule')]) (hfail : Failed ex)
      (hr : ¬ Answered r) : PatchLog req [g, ex] r
  | reported (g ex : Exchange) (resp : Json) (rule rule' : Fields) (data : Json)
      (hget : g.1.message.method = "GET") (hresp : receive g.2 = .ok resp)
      (hrule : currentRule "timerx" resp = some rule)
      (hpatched : patchedRule (parseJsonBody req) rule = some rule')
      (hset : ex.1.message.method = "SET")
      (hpayload : ex.1.message.payload = .obj [("timerx", .obj rule')])
      (hparse : ∃ fields, parseTimerXRule rule' = .ok fields) :
      PatchLog req [g, ex] (.ok (.ok data))
  | unreported (g ex : Exchange) (resp : Json) (rule rule' : Fields) (r : Except JsError Response)
      (m : String) (hget : g.1.message.method = "GET") (hresp : receive g.2 = .ok resp)
      (hrule : currentRule "timerx" resp = some rule)
      (hpatched : patchedRule (parseJsonBody req) rule = some rule')
      (hset : ex.1.message.method = "SET")
      (hpayload : ex.1.message.payload = .obj [("timerx", .obj rule')])
      (hparse : parseTimerXRule rule' = .error m) (hr : ¬ Answered r) : PatchLog req [g, ex] r

lemma patchLog_handler {req : Request} {poller : Bool} :
    Prog.ewp lanLog (createPatchDeviceTimerXHandler poller req)
      (fun log a => PatchLog req log (.ok a)) (fun log e => PatchLog req log (.error e)) [] := by
  have herr : ∀ {m code : String}, PatchLog req [] (.ok (apiErr m code)) :=
    .silent _ not_answered_err
  rw [createPatchDeviceTimerXHandler, Prog.ewp_bind]
  refine ewp_textField (fun e => .silent _ (not_answered_error e)) fun uuid _ => ?_
  rw [Prog.ewp_bind]
  refine ewp_textField (fun e => .silent _ (not_answered_error e)) fun text _ => ?_
  dsimp only
  refine Prog.ewp_ite (fun _ => Prog.ewp_pure.mpr herr) fun _ => ?_
  refine Prog.ewp_ite (fun _ => Prog.ewp_pure.mpr herr) fun _ => ?_
  refine Prog.ewp_ite (fun _ => Prog.ewp_pure.mpr herr) fun _ => ?_
  rw [Prog.ewp_bind]
  refine ewp_eval (fun m _ => .silent _ (not_answered_error _)) fun enable henable => ?_
  rw [Prog.ewp_bind]
  refine ewp_eval (fun m _ => .silent _ (not_answered_error _)) fun toggleOnoff htoggle => ?_
  refine ewp_tryCatch_lanError (ewp_requireLan (fun e => herr) fun host key => ?_)
  rw [Prog.ewp_bind]
  refine ewp_postLan (fun _ e => herr) fun hs g hget _ => ⟨fun resp hresp => ?_, fun m hfail => ?_⟩
  · cases hrule : currentRule "timerx" resp with
    | none =>
        refine Prog.ewp_pure.mpr (.asked g _ hget ?_ not_answered_err)
        intro resp' rule hresp' hrule'
        obtain rfl := Except.ok.inj (hresp.symm.trans hresp')
        rw [hrule] at hrule'
        cases hrule'
    | some rule =>
        have hpatched := patchedRule_eq henable htoggle rule
        dsimp only
        cases hpatch : patchTimerXRule (requestPatch (parseJsonBody req)) enable toggleOnoff rule
          with
        | error failure =>
            rw [hpatch] at hpatched
            have hnone : ∀ resp' rule', receive g.2 = .ok resp' →
                currentRule "timerx" resp' = some rule' →
                patchedRule (parseJsonBody req) rule' = none := by
              intro resp' rule' hresp' hrule'
              obtain rfl := Except.ok.inj (hresp.symm.trans hresp')
              obtain rfl := Option.some.inj (hrule.symm.trans hrule')
              exact hpatched
            cases failure with
            | throws m => exact Prog.ewp_throw.mpr (.asked g _ hget hnone not_answered_err)
            | answers m code => exact Prog.ewp_pure.mpr (.asked g _ hget hnone not_answered_err)
        | ok rule' =>
            rw [hpatch] at hpatched
            dsimp only
            rw [Prog.ewp_bind]
            refine ewp_postLan (fun hs' => absurd hs hs') fun _ ex hset hpayload =>
              ⟨fun resp' _ => ?_, fun m hm => ?_⟩
            · refine ewp_refreshAfter ?_
              rw [Prog.ewp_bind]
              refine ewp_eval (fun m hm => ?_) fun fields hfields => Prog.ewp_pure.mpr ?_
              · exact .unreported g ex resp rule rule' _ m hget hresp hrule hpatched hset hpayload
                  hm not_answered_err
              · exact .reported g ex resp rule rule' _ hget hresp hrule hpatched hset hpayload
                  ⟨fields, hfields⟩
            · exact .lost g ex resp rule rule' _ hget hresp hrule hpatched hset hpayload ⟨m, hm⟩
                not_answered_err
  · refine .asked g _ hget (fun resp rule hresp => ?_) not_answered_err
    rw [hfail] at hresp
    cases hresp

namespace RuleEdit

/-- The key of the rule in the messages. -/
def kind : RuleEdit → String
  | patchTimerX => "timerx"
  | deleteTimerX => "timerx"
  | deleteTriggerX => "triggerx"

/-- The handler of the source. -/
def handler : RuleEdit → Bool → Request → Async Response
  | patchTimerX => createPatchDeviceTimerXHandler
  | deleteTimerX => createDeleteDeviceTimerXHandler
  | deleteTriggerX => createDeleteDeviceTriggerXHandler

/-- The patch does not apply to the rule, so that the handler answers without a SET. -/
def rejects (h : RuleEdit) (req : Request) (rule : Fields) : Bool :=
  match h with
  | patchTimerX => (patchedRule (parseJsonBody req) rule).isNone
  | _ => false

/-- The trimmed id of the rule in a message. -/
def sentId (h : RuleEdit) (ex : Exchange) : Option String :=
  (ex.1.message.payload.get? h.kind).bind ruleId

/-- Every SET in the log carries a rule with the requested id. -/
def TouchesRequested (h : RuleEdit) (req : Request) (log : List Exchange) : Prop :=
  ∀ ex ∈ log, ex.1.message.method = "SET" → h.sentId ex = requestedId req

/-- In the replies to a GET the first rule that the search can reach, if there is one, has
the requested id, or else the patch does not apply to it. -/
def FirstRuleRequested (h : RuleEdit) (req : Request) (log : List Exchange) : Prop :=
  ∀ ex ∈ log, ex.1.message.method = "GET" → ∀ resp, receive ex.2 = .ok resp →
    ∀ rule, (replyRules h.kind resp).head? = some rule →
      ruleId (.obj rule) = requestedId req ∨ h.rejects req rule = true

/-! ### The messages of an edit -/

/-- The id of the rule that is edited after a reply to the GET; `none` if the handler
answers without a SET. A trigger that is not in the reply is deleted under the requested
id. -/
def chosenId (h : RuleEdit) (req : Request) (r : FetchReply) : Option (Option String) :=
  match (receive r).toOption.bind (currentRule h.kind) with
  | some rule => if h.rejects req rule then none else some (ruleId (.obj rule))
  | none => if h = deleteTriggerX then some (requestedId req) else none

/-- What the messages of an edit look like. -/
inductive EditLog (h : RuleEdit) (req : Request) : List Exchange → Prop where
  | silent : EditLog h req []
  | asked (g : Exchange) (hget : g.1.message.method = "GET")
      (hchosen : h.chosenId req g.2 = none) : EditLog h req [g]
  | edited (g : Exchange) (id : Option String) (sets : List Exchange)
      (hget : g.1.message.method = "GET") (hchosen : h.chosenId req g.2 = some id)
      (hne : sets ≠ []) (hsets : ∀ ex ∈ sets, ex.1.message.method = "SET" ∧ h.sentId ex = id) :
      EditLog h req (g :: sets)

/-- The SETs of an edit carry the requested id exactly if that is the id of the rule it chose. -/
lemma touches_edited_iff {h : RuleEdit} {req : Request} {g : Exchange} {id : Option String}
    {sets : List Exchange} (hget : g.1.message.method = "GET") (hne : sets ≠ [])
    (hsets : ∀ ex ∈ sets, ex.1.message.method = "SET" ∧ h.sentId ex = id) :
    h.TouchesRequested req (g :: sets) ↔ id = requestedId req := by
  constructor
  · intro ht
    obtain ⟨ex, hex⟩ := List.exists_mem_of_ne_nil sets hne
    obtain ⟨hset, hid⟩ := hsets ex hex
    rw [← hid]
    exact ht ex (List.mem_cons_of_mem _ hex) hset
  · intro hid ex hex hset
    rcases List.mem_cons.mp hex with rfl | hex
    · exact absurd (hget.symm.trans hset) (by decide)
    · rw [(hsets ex hex).2, hid]

/-- The rule that an edit chose is the requested one exactly if the first one in the reply is. -/
lemma firstRule_edited_iff {h : RuleEdit} {req : Request} {g : Exchange} {id : Option String}
    {sets : List Exchange} (hget : g.1.message.method = "GET")
    (hchosen : h.chosenId req g.2 = some id) (hsets : ∀ ex ∈ sets, ex.1.message.method = "SET") :
    h.FirstRuleRequested req (g :: sets) ↔ id = requestedId req := by
  rw [chosenId] at hchosen
  constructor
  · intro hf
    cases hrule : (receive g.2).toOption.bind (currentRule h.kind) with
    | none =>
        simp only [hrule] at hchosen
        split at hchosen
        · exact (Option.some.inj hchosen).symm
        · cases hchosen
    | some rule =>
        obtain ⟨resp, hresp, hcur⟩ := Option.bind_eq_some_iff.mp hrule
        have hresp : receive g.2 = .ok resp := eq_ok_of_toOption hresp
        rw [currentRule_eq_head?] at hcur
        simp only [hrule] at hchosen
        split at hchosen
        next => cases hchosen
        next hrej =>
          rw [← Option.some.inj hchosen]
          exact (hf g List.mem_cons_self hget resp hresp rule hcur).resolve_right hrej
  · intro hid ex hex hexget resp hresp rule hrule
    rcases List.mem_cons.mp hex with rfl | hex
    · rw [← currentRule_eq_head?] at hrule
      rw [hresp] at hchosen
      simp only [Except.toOption, Option.bind_some, hrule] at hchosen
      split at hchosen
      next hrej => exact Or.inr hrej
      next => exact Or.inl ((Option.some.inj hchosen).trans hid)
    · exact absurd (hexget.symm.trans (hsets ex hex)) (by decide)

/-- An edit touches the requested rule exactly if that is the first one in the reply. -/
lemma EditLog.touches_iff {h : RuleEdit} {req : Request} {log : List Exchange}
    (hlog : h.EditLog req log) : h.TouchesRequested req log ↔ h.FirstRuleRequested req log := by
  cases hlog with
  | silent =>
      have htouch : h.TouchesRequested req [] := by
        intro ex hex
        cases hex
      have hfirst : h.FirstRuleRequested req [] := by
        intro ex hex
        cases hex
      exact iff_of_true htouch hfirst
  | asked g hget hchosen =>
      have htouch : h.TouchesRequested req [g] := by
        intro ex hex hset
        obtain rfl := List.mem_singleton.mp hex
        exact absurd (hget.symm.trans hset) (by decide)
      have hfirst : h.FirstRuleRequested req [g] := by
        intro ex hex _ resp hresp rule hrule
        obtain rfl := List.mem_singleton.mp hex
        rw [← currentRule_eq_head?] at hrule
        rw [chosenId, hresp] at hchosen
        simp only [Except.toOption, Option.bind_some, hrule] at hchosen
        by_cases hrej : h.rejects req rule = true
        · exact Or.inr hrej
        · rw [if_neg hrej] at hchosen
          cases hchosen
      exact iff_of_true htouch hfirst
  | edited g id sets hget hchosen hne hsets =>
      rw [touches_edited_iff hget hne hsets,
        firstRule_edited_iff hget hchosen fun ex hex => (hsets ex hex).1]

/-! ### The handlers -/

section Handlers

variable {Qe : List Exchange → JsError → Prop} {log : List Exchange}

/-- The SETs in the rest of the log carry the id. -/
def Sets (h : RuleEdit) (id : Option String) (log log' : List Exchange) : Prop :=
  ∃ sets, sets ≠ [] ∧ log' = log ++ sets ∧
    ∀ ex ∈ sets, ex.1.message.method = "SET" ∧ h.sentId ex = id

lemma Sets.snoc {h : RuleEdit} {id : Option String} {log log' : List Exchange} {ex : Exchange}
    (hlog : log' = log ∨ h.Sets id log log') (hset : ex.1.message.method = "SET")
    (hid : h.sentId ex = id) : h.Sets id log (log' ++ [ex]) := by
  rcases hlog with rfl | ⟨sets, hne, rfl, hsets⟩
  · refine ⟨[ex], List.cons_ne_nil _ _, rfl, fun e he => ?_⟩
    obtain rfl := List.mem_singleton.mp he
    exact ⟨hset, hid⟩
  · refine ⟨sets ++ [ex], by simp, by simp, fun e he => ?_⟩
    rcases List.mem_append.mp he with he | he
    · exact hsets e he
    · obtain rfl := List.mem_singleton.mp he
      exact ⟨hset, hid⟩

/-- A program that sends one SET with a rule of the id, if it sends anything. -/
def SendsRule (h : RuleEdit) (id : Option String) (send : Fields → Async Json) : Prop :=
  ∀ (fs : Fields) (log : List Exchange) (Q : List Exchange → Json → Prop)
    (Qe : List Exchange → JsError → Prop), ruleId (.obj fs) = id →
    (∀ ex : Exchange, ex.1.message.method = "SET" → h.sentId ex = id →
      (∀ resp, Q (log ++ [ex]) resp) ∧ ∀ e, Qe (log ++ [ex]) e) →
    Prog.ewp lanLog (send fs) Q Qe log

lemma sentId_eq {h : RuleEdit} {ex : Exchange} {fs : Fields}
    (hpayload : ex.1.message.payload = .obj [(h.kind, .obj fs)]) :
    h.sentId ex = ruleId (.obj fs) := by
  rw [sentId, hpayload, Json.get?_obj, Assoc.get_cons, if_pos rfl]
  rfl

lemma sendsRule_postLan (h : RuleEdit) {id : Option String} {ns : String} {host key : Json}
    (hs : Sendable host key) : h.SendsRule id fun fs =>
      postLan ns "SET" (.obj [(h.kind, .obj fs)]) host key none := by
  intro fs log Q Qe hid hex
  refine ewp_postLan (fun hns => absurd hs hns) fun _ ex hmethod hpayload => ?_
  obtain ⟨hok, herr⟩ := hex ex hmethod ((sentId_eq hpayload).trans hid)
  exact ⟨fun resp _ => hok resp, fun m _ => herr _⟩

lemma ruleId_set_enable (rule : Fields) (v : Json) :
    ruleId (.obj (Assoc.set rule "enable" v)) = ruleId (.obj rule) := by
  rw [ruleId, ruleId, Json.get?_obj, Json.get?_obj, Assoc.get_set_of_ne rule (by decide)]

/-- Deleting a rule sends one or two SETs with it. -/
lemma ewp_deleteRule (h : RuleEdit) {name code : String} {send : Fields → Async Json}
    {poller : Bool} {uuid id : String} {host : Json} {rule : Fields}
    (hsend : h.SendsRule (ruleId (.obj rule)) send) :
    Prog.ewp lanLog (deleteRule name code send poller uuid id host rule)
      (fun log' _ => h.Sets (ruleId (.obj rule)) log log')
      (fun log' _ => h.Sets (ruleId (.obj rule)) log log') log := by
  rw [deleteRule, Prog.ewp_bind]
  refine hsend _ _ _ _ (ruleId_set_enable rule _) fun ex hset hid => ?_
  have hfirst := Sets.snoc (Or.inl rfl : log = log ∨ h.Sets _ log log) hset hid
  refine ⟨fun resp => ?_, fun e => hfirst⟩
  split
  · rw [Prog.ewp_bind]
    refine hsend _ _ _ _ ((ruleId_set_enable _ _).trans (ruleId_set_enable rule _)) ?_
    intro ex' hset' hid'
    have hsecond := Sets.snoc (Or.inr hfirst) hset' hid'
    refine ⟨fun resp => ?_, fun e => hsecond⟩
    split
    · exact Prog.ewp_pure.mpr hsecond
    · exact ewp_refreshAfter (Prog.ewp_pure.mpr hsecond)
  · exact ewp_refreshAfter (Prog.ewp_pure.mpr hfirst)

/-- Nothing is deleted with a host or a key that has no text. -/
lemma ewp_deleteRule_of_not_sendable {h : RuleEdit} {name code ns : String} {poller : Bool}
    {uuid id : String} {host key : Json} {rule : Fields} (hs : ¬ Sendable host key) :
    Prog.ewp lanLog (deleteRule name code
        (fun fs => postLan ns "SET" (.obj [(h.kind, .obj fs)]) host key none) poller uuid id host
        rule) (fun log' _ => log' = log) (fun log' _ => log' = log) log := by
  rw [deleteRule, Prog.ewp_bind]
  exact ewp_postLan (fun _ e => rfl) fun hs' => absurd hs' hs

lemma Sets.editLog {h : RuleEdit} {req : Request} {g : Exchange} {id : Option String}
    {log : List Exchange} (hget : g.1.message.method = "GET")
    (hchosen : h.chosenId req g.2 = some id) (hsets : h.Sets id [g] log) : h.EditLog req log := by
  obtain ⟨sets, hne, rfl, hsets⟩ := hsets
  exact .edited g id sets hget hchosen hne hsets

end Handlers

section EditLog

variable {req : Request} {poller : Bool}

lemma requestedId_eq {text : String}
    (h : toText (coalesce ((parseJsonBody req).get? "id") (some (.str ""))) = .ok text) :
    requestedId req = some (trim text) := by
  rw [requestedId, h]
  rfl

/-- What is chosen from a reply that was received. -/
lemma chosenId_of_receive (h : RuleEdit) (req : Request) {r : FetchReply} {resp : Json}
    (hresp : receive r = .ok resp) :
    h.chosenId req r = match currentRule h.kind resp with
      | some rule => if h.rejects req rule then none else some (ruleId (.obj rule))
      | none => if h = deleteTriggerX then some (requestedId req) else none := by
  rw [chosenId, hresp]
  rfl

/-- Nothing is chosen from a message that failed, except for a trigger. -/
lemma chosenId_of_failed (h : RuleEdit) (req : Request) {r : FetchReply} {m : String}
    (hfail : receive r = .error m) :
    h.chosenId req r = if h = deleteTriggerX then some (requestedId req) else none := by
  rw [chosenId, hfail]
  rfl

lemma editLog_deleteTimerX :
    Prog.ewp lanLog (createDeleteDeviceTimerXHandler poller req)
      (fun log _ => deleteTimerX.EditLog req log)
      (fun log _ => deleteTimerX.EditLog req log) [] := by
  rw [createDeleteDeviceTimerXHandler, Prog.ewp_bind]
  refine ewp_textField (fun _ => .silent) fun uuid _ => ?_
  rw [Prog.ewp_bind]
  refine ewp_textField (fun _ => .silent) fun text _ => ?_
  dsimp only
  refine Prog.ewp_ite (fun _ => Prog.ewp_pure.mpr .silent) fun _ => ?_
  refine Prog.ewp_ite (fun _ => Prog.ewp_pure.mpr .silent) fun _ => ?_
  refine ewp_tryCatch_lanError ?_
  refine ewp_requireLan (fun e => .silent) fun host key => ?_
  rw [Prog.ewp_bind]
  refine ewp_postLan (fun _ e => .silent)
    fun hs g hget _ => ⟨fun resp hresp => ?_, fun m hfail => ?_⟩
  · have hchosen := chosenId_of_receive deleteTimerX req hresp
    rw [show deleteTimerX.kind = "timerx" from rfl] at hchosen
    cases hcur : currentRule "timerx" resp with
    | none =>
        rw [hcur] at hchosen
        exact Prog.ewp_pure.mpr (.asked g hget hchosen)
    | some rule =>
        rw [hcur] at hchosen
        exact Prog.ewp_mono (ewp_deleteRule deleteTimerX (sendsRule_postLan deleteTimerX hs))
          (fun _ _ hsets => hsets.editLog hget hchosen) fun _ _ hsets => hsets.editLog hget hchosen
  · exact .asked g hget (chosenId_of_failed deleteTimerX req hfail)

lemma editLog_deleteTriggerX :
    Prog.ewp lanLog (createDeleteDeviceTriggerXHandler poller req)
      (fun log _ => deleteTriggerX.EditLog req log)
      (fun log _ => deleteTriggerX.EditLog req log) [] := by
  rw [createDeleteDeviceTriggerXHandler, Prog.ewp_bind]
  refine ewp_textField (fun _ => .silent) fun uuid _ => ?_
  rw [Prog.ewp_bind]
  refine ewp_textField (fun _ => .silent) fun text htext => ?_
  dsimp only
  refine Prog.ewp_ite (fun _ => Prog.ewp_pure.mpr .silent) fun _ => ?_
  refine Prog.ewp_ite (fun _ => Prog.ewp_pure.mpr .silent) fun _ => ?_
  refine ewp_tryCatch_lanError ?_
  refine ewp_requireLan (fun e => .silent) fun host key => ?_
  rw [Prog.ewp_bind, Prog.ewp_tryCatch, Prog.ewp_map]
  have hbase : ruleId (.obj [("id", .str (trim text))]) = requestedId req := by
    rw [requestedId_eq htext, ruleId, Json.get?_obj, Assoc.get_cons, if_pos rfl]
    exact congrArg some (trim_trim text)
  refine ewp_postLan (fun hs e => ?_) fun hs g hget _ => ⟨fun resp hresp => ?_, fun m hfail => ?_⟩
  · -- Without a text for the host or the key no message is sent at all.
    have hdel : Prog.ewp lanLog (deleteRule "TriggerX" "triggerx_delete_failed"
        (setTriggerX host key) poller uuid (trim text) host [("id", .str (trim text))])
        (fun log' _ => log' = []) (fun log' _ => log' = []) [] :=
      @ewp_deleteRule_of_not_sendable [] deleteTriggerX _ _ _ _ _ _ _ _ _ hs
    rw [Prog.ewp_pure]
    refine Prog.ewp_mono hdel ?_ ?_
    · rintro _ _ rfl
      exact .silent
    · rintro _ _ rfl
      exact .silent
  · have hchosen := chosenId_of_receive deleteTriggerX req hresp
    rw [show deleteTriggerX.kind = "triggerx" from rfl] at hchosen
    have hrule : deleteTriggerX.chosenId req g.2
        = some (ruleId (.obj ((currentRule "triggerx" resp).getD [("id", .str (trim text))]))) := by
      cases hcur : currentRule "triggerx" resp with
      | none =>
          rw [hcur] at hchosen
          exact hchosen.trans (congrArg some hbase.symm)
      | some rule =>
          rw [hcur] at hchosen
          exact hchosen
    exact Prog.ewp_mono (ewp_deleteRule deleteTriggerX (sendsRule_postLan deleteTriggerX hs))
      (fun _ _ hsets => hsets.editLog hget hrule) fun _ _ hsets => hsets.editLog hget hrule
  · have hchosen := chosenId_of_failed deleteTriggerX req hfail
    rw [if_pos rfl, ← hbase] at hchosen
    rw [Prog.ewp_pure]
    exact Prog.ewp_mono (ewp_deleteRule deleteTriggerX (sendsRule_postLan deleteTriggerX hs))
      (fun _ _ hsets => hsets.editLog hget hchosen) fun _ _ hsets => hsets.editLog hget hchosen

/-- The messages of the patch handler are those of an edit. -/
lemma editLog_of_patchLog {log : List Exchange} {r : Except JsError Response}
    (hlog : PatchLog req log r) : patchTimerX.EditLog req log := by
  have hrejects : ∀ rule, patchTimerX.rejects req rule
      = (patchedRule (parseJsonBody req) rule).isNone := fun _ => rfl
  have hedited : ∀ {g ex : Exchange} {resp : Json} {rule rule' : Fields},
      g.1.message.method = "GET" → receive g.2 = .ok resp →
      currentRule "timerx" resp = some rule →
      patchedRule (parseJsonBody req) rule = some rule' → ex.1.message.method = "SET" →
      ex.1.message.payload = .obj [("timerx", .obj rule')] → patchTimerX.EditLog req [g, ex] := by
    intro g ex resp rule rule' hget hresp hrule hpatched hset hpayload
    have hchosen := chosenId_of_receive patchTimerX req hresp
    rw [show patchTimerX.kind = "timerx" from rfl, hrule] at hchosen
    dsimp only at hchosen
    rw [hrejects, hpatched] at hchosen
    have hid : patchTimerX.sentId ex = ruleId (.obj rule) :=
      (sentId_eq hpayload).trans (ruleId_of_patchedRule hpatched)
    exact (Sets.snoc (Or.inl rfl) hset hid).editLog hget hchosen
  cases hlog with
  | silent r hr => exact .silent
  | asked g r hget hnone hr =>
      refine .asked g hget ?_
      cases hresp : receive g.2 with
      | error m => exact chosenId_of_failed patchTimerX req hresp
      | ok resp =>
          have hchosen := chosenId_of_receive patchTimerX req hresp
          rw [show patchTimerX.kind = "timerx" from rfl] at hchosen
          cases hrule : currentRule "timerx" resp with
          | none =>
              rw [hrule] at hchosen
              exact hchosen
          | some rule =>
              rw [hrule] at hchosen
              dsimp only at hchosen
              rw [hrejects, hnone resp rule hresp hrule] at hchosen
              exact hchosen
  | lost g ex resp rule rule' r hget hresp hrule hpatched hset hpayload hfail hr =>
      exact hedited hget hresp hrule hpatched hset hpayload
  | reported g ex resp rule rule' data hget hresp hrule hpatched hset hpayload hparse =>
      exact hedited hget hresp hrule hpatched hset hpayload
  | unreported g ex resp rule rule' r m hget hresp hrule hpatched hset hpayload hparse hr =>
      exact hedited hget hresp hrule hpatched hset hpayload

/-- The messages of every edit are a GET, if anything, and SETs of the rule it chose. -/
lemma editLog_handler (h : RuleEdit) (env : Environment) :
    h.EditLog req (exchanges (Prog.run env (h.handler poller req).run).2) := by
  refine @lanLog_run _ _ (fun log _ => h.EditLog req log) ?_ env
  cases h with
  | patchTimerX =>
      exact Prog.ewp_mono (@patchLog_handler req poller) (fun _ _ h => editLog_of_patchLog h)
        fun _ _ h => editLog_of_patchLog h
  | deleteTimerX => exact @editLog_deleteTimerX req poller
  | deleteTriggerX => exact @editLog_deleteTriggerX req poller

end EditLog

/-- **A schedule edit touches only the requested rule** exactly if the first rule that the
search reaches in the reply has the requested id, or the patch does not apply to it. -/
theorem touches_requested_iff (h : RuleEdit) (poller : Bool) (req : Request)
    (env : Environment) :
    h.TouchesRequested req (exchanges (Prog.run env (h.handler poller req).run).2) ↔
      h.FirstRuleRequested req (exchanges (Prog.run env (h.handler poller req).run).2) :=
  (editLog_handler h env).touches_iff

/-- Surroundings with a known device that answers every message with `reply`. -/
def answering (reply : Json) (c : Call) : Reply c :=
  match c with
  | .readFile => .json (.obj [
      ("cloud", .obj [("key", .str "k")]),
      ("hosts", .obj [("u", .obj [("host", .str "10.0.0.2")])])])
  | .fetchConfig _ => .response 200 "OK" "" (.ok reply)
  | c => silence c

/-- A device with two rules, asked to delete the second one: it is told to delete the
first one. -/
theorem deleteTimerX_touches_other :
    ¬ ∀ (h : RuleEdit) (poller : Bool) (req : Request)
      (env : Environment),
      h.TouchesRequested req (exchanges (Prog.run env (h.handler poller req).run).2) := by
  intro hall
  have h := hall .deleteTimerX false
    ⟨"application/json", some (.obj [("uuid", .str "u"), ("id", .str "b")])⟩
    fun _ => answering (.obj [("payload", .obj [("timerx", .arr
      [.obj [("id", .str "a")], .obj [("id", .str "b")]])])])
  have hset := h _ (List.mem_cons_of_mem _ List.mem_cons_self) rfl
  exact absurd hset (by decide)

end RuleEdit

end Merossity
