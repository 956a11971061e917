import Merossity.Js.Numerals
import Merossity.Web.TimerEditor

/-!
What becomes of a timer that is saved: the form of `views/devices/DeviceCard.tsx` with the handlers of
`set-device-timerx.ts`, `patch-device-timerx.ts` and `get-device-timerx.ts`.

* `TimerEditor.settled` is the form with every number as it is stored. `saved_timer_reopens`: whatever
  the device answers, the rule that is sent to it opens as the settled form.
* `TimerEditor.patchedRule_isSome_iff` says when the patch handler sends a rule at all, and
  `edited_timer_saves` when a form that is saved untouched leaves the rule as it is.
-/

namespace Merossity

open Js

/-! ### What a save writes -/

/-- A text with its number as it is stored, or the default for what is no finite number. -/
def settledText (k text : String) : String :=
  (Number.fin ((asFiniteInt (some (sentNumber text))).getD (numberDefault k) : ℤ)).toText

namespace TimerEditor

/-- The form with every number as it is stored. -/
def settled (id : String) (e : TimerEditor) : TimerEditor where
  create := false
  id := id
  alias_ := e.alias_
  channel := settledText "channel" e.channel
  enable := e.enable
  type := settledText "type" e.type
  week := settledText "week" e.week
  time := settledText "time" e.time
  sunOffset := settledText "sunOffset" e.sunOffset
  duration := settledText "duration" e.duration
  toggleOnoff := e.toggleOnoff

lemma numbers_settled (id : String) (e : TimerEditor) :
    (e.settled id).numbers = e.numbers.map fun p => (p.1, settledText p.1 p.2) := rfl

/-- A rule has the values of the form. -/
structure Wrote (e : TimerEditor) (rule : Fields) : Prop where
  alias_ : Assoc.get rule "alias" = some (.str e.alias_)
  enable : Assoc.get rule "enable" = some (switchNum e.enable)
  number : ∀ p ∈ e.numbers, asFiniteInt (Assoc.get rule p.1) = asFiniteInt (some (sentNumber p.2))
  toggle : ∃ extend toggle, Assoc.get rule "extend" = some (.obj extend) ∧
    Assoc.get extend "toggle" = some (.obj toggle) ∧
      Assoc.get toggle "onoff" = some (switchNum e.toggleOnoff)

lemma coerce01_switchNum (on : Bool) :
    coerce01 (some (switchNum on)) = .ok (if on then 1 else 0) := by
  cases on <;> rfl

/-- The form that opens for a rule with the values of a form is that form, settled. -/
lemma Wrote.shows {e : TimerEditor} {rule : Fields} (h : e.Wrote rule) {id : String}
    (hid : ruleId (.obj rule) = some id) : ShowsTimer rule (e.settled id) := by
  obtain ⟨extend, toggle, hextend, htoggle, honoff⟩ := h.toggle
  refine ⟨rfl, hid, ?_, ⟨if e.enable then 1 else 0, ?_, ?_⟩, ?_,
    ⟨some (if e.toggleOnoff then 1 else 0), ?_, ?_⟩⟩
  · rw [h.alias_]
    rfl
  · rw [h.enable, coerce01_switchNum]
  · cases henable : e.enable <;> simp [settled, henable]
  · rw [numbers_settled]
    intro q hq
    obtain ⟨p, hp, rfl⟩ := List.mem_map.mp hq
    rw [shownInt, h.number p hp, settledText]
  · rw [toggleOnoffFromExtend, hextend]
    simp only [Option.bind_some, Json.record?, htoggle, honoff, coerce01_switchNum]
    rfl
  · cases htoggle : e.toggleOnoff <;> simp [settled, htoggle]

/-- The rule of a new timer has the values of the form. -/
lemma wrote_timer (e : TimerEditor) : e.Wrote e.timer where
  alias_ := rfl
  enable := rfl
  number p hp := by
    simp only [numbers, List.mem_cons, List.not_mem_nil, or_false] at hp
    rcases hp with rfl | rfl | rfl | rfl | rfl | rfl <;> rfl
  toggle := ⟨_, _, rfl, rfl, rfl⟩

/-- A patched rule has the values of the form. -/
structure Patched (e : TimerEditor) (rule : Fields) : Prop extends e.Wrote rule where
  stored : ∀ p ∈ e.numbers, ∃ n, asFiniteInt (some (sentNumber p.2)) = some n ∧
    (p.1 = "channel" → 0 ≤ n) ∧ Assoc.get rule p.1 = some (intNum n)

lemma get_patch {e : TimerEditor} {p : String × String} (hp : p ∈ e.numbers) :
    p.1 ∈ numericFields ∧ (Json.obj e.patch).get? p.1 = some (sentNumber p.2) := by
  simp only [numbers, List.mem_cons, List.not_mem_nil, or_false] at hp
  rcases hp with rfl | rfl | rfl | rfl | rfl | rfl <;>
    exact ⟨by simp [numericFields], rfl⟩

lemma flagOf_switchNum (on : Bool) : flagOf (switchNum on) = switchNum on := by
  cases on <;> simp [flagOf, switchNum, intNum, toNumber]

lemma asFiniteInt_intNum (n : ℤ) : asFiniteInt (some (intNum n)) = some n := by
  show some (Number.round (n : ℚ)) = some n
  rw [round_intCast]

lemma patched_of_patchFrame {e : TimerEditor} {rule rule' : Fields}
    (h : PatchFrame (.obj e.patch) rule rule') : e.Patched rule' := by
  have hstored : ∀ p ∈ e.numbers, ∃ n, asFiniteInt (some (sentNumber p.2)) = some n ∧
      (p.1 = "channel" → 0 ≤ n) ∧ Assoc.get rule' p.1 = some (intNum n) := fun p hp =>
    h.number p.1 (get_patch hp).1 _ (get_patch hp).2
  refine ⟨⟨?_, ?_, fun p hp => ?_, ?_⟩, hstored⟩
  · obtain ⟨text, htext, halias⟩ := h.text _ rfl
    rw [halias, ← Except.ok.inj htext]
  · rw [h.enable _ rfl, flagOf_switchNum]
  · obtain ⟨n, hn, -, hget⟩ := hstored p hp
    rw [hget, hn, asFiniteInt_intNum]
  · obtain ⟨-, -, -, -, -, extend, toggle, hextend, -, htoggle, -, honoff⟩ := h.toggle _ rfl
    exact ⟨extend, toggle, hextend, htoggle, by rw [honoff, flagOf_switchNum]⟩

/-! ### When a patch is sent -/

/-- The device can be sent the form: every number is one, and the channel is not negative. -/
def Valid (e : TimerEditor) : Prop :=
  ∀ p ∈ e.numbers, ∃ n, asFiniteInt (some (sentNumber p.2)) = some n ∧ (p.1 = "channel" → 0 ≤ n)

/-- The rule switches something on or off. -/
def HasAction (rule : Fields) : Prop :=
  ∃ extend toggle, Assoc.get rule "extend" = some (.obj extend) ∧
    Assoc.get extend "toggle" = some (.obj toggle) ∧ (Assoc.get toggle "onoff").isSome

/-- The integer that is stored for a text of the form. -/
def storedInt (p : String × String) : ℤ :=
  (asFiniteInt (some (sentNumber p.2))).getD (numberDefault p.1)

/-- The rule with the values of the form, but for the action. -/
def written (e : TimerEditor) (rule : Fields) : Fields :=
  e.numbers.foldl (fun r p => Assoc.set r p.1 (intNum (storedInt p)))
    (Assoc.set (Assoc.set rule "enable" (switchNum e.enable)) "alias" (.str e.alias_))

section Patch

variable {e : TimerEditor} {rule : Fields}

lemma requestPatch_body (uuid : String) (h : e.create = false) :
    requestPatch (e.body uuid) = .obj e.patch := by
  rw [body, h]
  rfl

lemma patchFlag_switch (on : Bool) {patch : Json} {field : String}
    (h : patch.get? field = some (switchNum on)) :
    patchFlag patch field = .ok (some (if on then 1 else 0)) := by
  rw [patchFlag, h]
  cases on <;> rfl

lemma patchNumber_stored (hvalid : e.Valid) {p : String × String} (hp : p ∈ e.numbers)
    (code : String) {nonNegative : Bool} (hneg : nonNegative = true → p.1 = "channel")
    (rule : Fields) : patchNumber (.obj e.patch) p.1 code nonNegative rule =
      .ok (Assoc.set rule p.1 (intNum (storedInt p))) := by
  obtain ⟨n, hn, hchannel⟩ := hvalid p hp
  rw [patchNumber, (get_patch hp).2]
  dsimp only
  rw [storedInt, hn]
  dsimp only [Option.getD_some]
  rw [if_neg]
  rintro ⟨hflag, hlt⟩
  exact absurd (hchannel (hneg hflag)) (not_le.mpr hlt)

/-- What the patch handler makes of a rule. -/
lemma patchedRule_written (uuid : String) (hedits : e.create = false) (hvalid : e.Valid) :
    patchedRule (e.body uuid) rule =
      (patchToggle (some (if e.toggleOnoff then 1 else 0)) (e.written rule)).toOption := by
  rw [patchedRule, requestPatch_body uuid hedits, patchFlag_switch e.enable rfl,
    patchFlag_switch e.toggleOnoff rfl]
  dsimp only
  have hnumber := fun {p : String × String} (hp : p ∈ e.numbers) code {nonNegative : Bool}
    (hneg : nonNegative = true → p.1 = "channel") => patchNumber_stored hvalid hp code hneg
  rw [patchTimerXRule, patchEnable, patchAlias]
  have halias : (Json.obj e.patch).get? "alias" = some (.str e.alias_) := rfl
  rw [halias]
  have hfalse : ∀ {k : String}, false = true → k = "channel" := fun h => absurd h (by decide)
  have hc := @hnumber ("channel", e.channel) (by simp [numbers]) "invalid_channel" true
    (fun _ => rfl)
  have hty := @hnumber ("type", e.type) (by simp [numbers]) "invalid_type" false hfalse
  have hw := @hnumber ("week", e.week) (by simp [numbers]) "invalid_week" false hfalse
  have hti := @hnumber ("time", e.time) (by simp [numbers]) "invalid_time" false hfalse
  have hs := @hnumber ("sunOffset", e.sunOffset) (by simp [numbers]) "invalid_sunoffset" false hfalse
  have hd := @hnumber ("duration", e.duration) (by simp [numbers]) "invalid_duration" false hfalse
  show (patchNumber _ "channel" _ _ _ >>= fun r => patchNumber _ "type" _ _ r >>= fun r =>
    patchNumber _ "week" _ _ r >>= fun r => patchNumber _ "time" _ _ r >>= fun r =>
    patchNumber _ "sunOffset" _ _ r >>= fun r => patchNumber _ "duration" _ _ r >>= fun r =>
    patchToggle _ r).toOption = _
  simp only [hc, hty, hw, hti, hs, hd]
  rfl

lemma extend_written (e : TimerEditor) (rule : Fields) :
    Assoc.get (e.written rule) "extend" = Assoc.get rule "extend" := by
  simp only [written, numbers, List.foldl_cons, List.foldl_nil]
  iterate 8 rw [Assoc.get_set_of_ne _ (by decide)]

lemma patchToggle_of_hasAction (n : ℤ) (h : HasAction rule) :
    ∃ rule', patchToggle (some n) (e.written rule) = .ok rule' := by
  obtain ⟨extend, toggle, hextend, htoggle, honoff⟩ := h
  rw [patchToggle, extend_written, hextend]
  dsimp only [Option.bind_some, Json.record?]
  rw [htoggle]
  dsimp only [Option.bind_some, Json.record?]
  rw [if_pos honoff]
  exact ⟨_, rfl⟩

lemma patchFrame_body {uuid : String} (hedits : e.create = false) {rule' : Fields}
    (h : patchedRule (e.body uuid) rule = some rule') : PatchFrame (.obj e.patch) rule rule' := by
  rw [← requestPatch_body uuid hedits]
  exact patchFrame_of_patchedRule h

/-- The patch handler sends a rule back exactly for a valid form and a rule with an action. -/
lemma patchedRule_isSome_iff (uuid : String) (hedits : e.create = false) :
    (∃ rule', patchedRule (e.body uuid) rule = some rule') ↔ e.Valid ∧ HasAction rule := by
  constructor
  · rintro ⟨rule', h⟩
    have hframe := patchFrame_body hedits h
    refine ⟨fun p hp => ?_, ?_⟩
    · obtain ⟨n, hn, hneg, -⟩ := (patched_of_patchFrame hframe).stored p hp
      exact ⟨n, hn, hneg⟩
    · obtain ⟨extend, toggle, hextend, htoggle, honoff, -⟩ := hframe.toggle _ rfl
      exact ⟨extend, toggle, hextend, htoggle, honoff⟩
  · rintro ⟨hvalid, haction⟩
    obtain ⟨rule', h⟩ := patchToggle_of_hasAction (e := e) (if e.toggleOnoff then 1 else 0) haction
    exact ⟨rule', by rw [patchedRule_written uuid hedits hvalid, h]; rfl⟩

/-- A form that shows nothing new leaves the rule as it is. -/
lemma patchedRule_eq_self (uuid : String) (hedits : e.create = false) (h : e.Patched rule) :
    patchedRule (e.body uuid) rule = some rule := by
  have hvalid : e.Valid := fun p hp => by
    obtain ⟨n, hn, hneg, -⟩ := h.stored p hp
    exact ⟨n, hn, hneg⟩
  have hself : e.written rule = rule := by
    rw [written, Assoc.set_of_get h.enable, Assoc.set_of_get h.alias_]
    have hkeep : ∀ ps : List (String × String), (∀ p ∈ ps, p ∈ e.numbers) →
        ps.foldl (fun r p => Assoc.set r p.1 (intNum (storedInt p))) rule = rule := by
      intro ps hps
      induction ps with
      | nil => rfl
      | cons p ps ih =>
          obtain ⟨hp, hps⟩ := List.forall_mem_cons.mp hps
          obtain ⟨n, hn, -, hget⟩ := h.stored p hp
          rw [List.foldl_cons, storedInt, hn, Option.getD_some, Assoc.set_of_get hget]
          exact ih hps
    exact hkeep _ fun p hp => hp
  obtain ⟨extend, toggle, hextend, htoggle, honoff⟩ := h.toggle
  rw [patchedRule_written uuid hedits hvalid, hself, patchToggle, hextend]
  dsimp only [Option.bind_some, Json.record?]
  rw [htoggle]
  dsimp only [Option.bind_some, Json.record?]
  have hsame : Assoc.set toggle "onoff" (intNum (if e.toggleOnoff then 1 else 0)) = toggle :=
    Assoc.set_of_get honoff
  rw [honoff, if_pos Option.isSome_some, hsame, Assoc.set_of_get htoggle, Assoc.set_of_get hextend]
  rfl

end Patch

/-! ### Settled forms -/

lemma isDouble_storedInt (p : String × String) : Number.IsDouble (storedInt p : ℤ) := by
  rw [storedInt, asFiniteInt, sentNumber]
  cases h : numberOfString p.2 with
  | fin q => exact isDouble_round (isDouble_of_numberOfString h)
  | _ =>
      show Number.IsDouble ((numberDefault p.1 : ℤ) : ℚ)
      rw [numberDefault]
      split_ifs <;> decide +kernel

/-- A settled text is read as the number that is stored for it. -/
lemma asFiniteInt_settledText (k text : String) :
    asFiniteInt (some (sentNumber (settledText k text))) = some (storedInt (k, text)) := by
  have hread := numberOfString_toText (isDouble_storedInt (k, text))
  rw [sentNumber, settledText]
  rw [storedInt] at hread ⊢
  rw [hread]
  exact asFiniteInt_intNum _

lemma settledText_settledText (k text : String) :
    settledText k (settledText k text) = settledText k text := by
  rw [settledText, asFiniteInt_settledText]
  rfl

/-- Settling a form once is enough. -/
lemma settled_settled (id id' : String) (e : TimerEditor) :
    (e.settled id).settled id' = e.settled id' := by
  simp only [settled, settledText_settledText]

/-- A rule that was patched with a form is one for the settled form as well. -/
lemma Patched.settled {e : TimerEditor} {rule : Fields} (h : e.Patched rule) (id : String) :
    (e.settled id).Patched rule := by
  have hint : ∀ p ∈ e.numbers, ∃ n, asFiniteInt (some (sentNumber p.2)) = some n ∧
      asFiniteInt (some (sentNumber (settledText p.1 p.2))) = some n ∧
        (p.1 = "channel" → 0 ≤ n) ∧ Assoc.get rule p.1 = some (intNum n) := by
    intro p hp
    obtain ⟨n, hn, hneg, hget⟩ := h.stored p hp
    refine ⟨n, hn, ?_, hneg, hget⟩
    rw [asFiniteInt_settledText, storedInt, hn]
    rfl
  refine ⟨⟨h.alias_, h.enable, ?_, h.toggle⟩, ?_⟩
  · rw [numbers_settled]
    intro q hq
    obtain ⟨p, hp, rfl⟩ := List.mem_map.mp hq
    obtain ⟨n, hn, hsettled, -⟩ := hint p hp
    rw [h.number p hp, hn, hsettled]
  · rw [numbers_settled]
    intro q hq
    obtain ⟨p, hp, rfl⟩ := List.mem_map.mp hq
    obtain ⟨n, -, hsettled, hneg, hget⟩ := hint p hp
    exact ⟨n, hsettled, hneg, hget⟩

/-! ### Runs -/

/-- The messages and the rules of a set handler: at most one SET, of the rule of the body. -/
lemma setTimer_sets (poller : Bool) {req : Request} {timer : Fields}
    (htimer : (parseJsonBody req).get? "timer" = some (.obj timer)) :
    Prog.ewp lanLog (createSetDeviceTimerXHandler poller req)
      (fun log _ => ∀ ex ∈ log, ex.1.message.payload = .obj [("timerx", .obj timer)])
      (fun log _ => ∀ ex ∈ log, ex.1.message.payload = .obj [("timerx", .obj timer)]) [] := by
  have hnil : ∀ ex ∈ ([] : List Exchange), ex.1.message.payload = .obj [("timerx", .obj timer)] :=
    List.forall_mem_nil _
  rw [createSetDeviceTimerXHandler, setRule, Prog.ewp_bind]
  refine ewp_textField (fun _ => hnil) fun uuid _ => ?_
  rw [htimer]
  dsimp only [Option.bind_some, Json.record?]
  rw [Prog.ewp_bind]
  refine ewp_eval (fun _ _ => hnil) fun id _ => ?_
  refine Prog.ewp_ite (fun _ => Prog.ewp_pure.mpr hnil) fun _ => ?_
  refine Prog.ewp_ite (fun _ => Prog.ewp_pure.mpr hnil) fun _ => ?_
  refine ewp_tryCatch_lanError (ewp_requireLan (fun _ => hnil) fun host key => ?_)
  rw [setTimerX, Prog.ewp_bind]
  refine ewp_postLan (fun _ _ => hnil) fun _ ex _ hpayload => ?_
  have hone : ∀ e ∈ [] ++ [ex], e.1.message.payload = .obj [("timerx", .obj timer)] := by
    intro e he
    obtain rfl := List.mem_singleton.mp he
    exact hpayload
  exact ⟨fun _ _ => ewp_refreshAfter (Prog.ewp_pure.mpr hone), fun _ _ => hone⟩

/-- The messages of the request of the form, whatever the device answers. -/
def messages (e : TimerEditor) (poller : Bool) (req : Request) (env : Environment) :
    List Exchange :=
  exchanges (Prog.run env (e.handler poller req).run).2

/-- A rule that is sent for a form: the form that opens for it, and what becomes of it then. -/
structure Kept (uuid : String) (e : TimerEditor) (rule : Fields) : Prop where
  /-- the list has the rule, and it opens as the settled form -/
  opens : ∃ id, ruleId (.obj rule) = some id ∧ OpensTimer rule (e.settled id)
  /-- a patch is not undone or moved by a second one -/
  stays : e.create = false → ∀ id, patchedRule ((e.settled id).body uuid) rule = some rule

lemma hasRuleId_iff {rule : Fields} : hasRuleId rule = true ↔
    ∃ id, ruleId (.obj rule) = some id ∧ id ≠ "" := by
  rw [hasRuleId, ruleId, Json.get?_obj]
  cases Assoc.get rule "id" with
  | none => simp
  | some v => cases v <;> simp [Json.str?]

lemma kept_timer {uuid : String} {e : TimerEditor} (hcreate : e.create = true)
    (hid : trim e.id ≠ "") : e.Kept uuid e.timer where
  opens := by
    have hname : ruleId (.obj e.timer) = some (trim e.id) := congrArg some (trim_trim e.id)
    have hrule : hasRuleId e.timer = true := hasRuleId_iff.mpr ⟨_, hname, hid⟩
    exact ⟨_, hname, opens_of_shows hrule ((wrote_timer e).shows hname)⟩
  stays h := by
    rw [hcreate] at h
    cases h

lemma kept_patched {uuid : String} {e : TimerEditor} (hedits : e.create = false)
    {resp : Json} {rule rule' : Fields} (hrule : currentRule "timerx" resp = some rule)
    (h : patchedRule (e.body uuid) rule = some rule') : e.Kept uuid rule' := by
  have hpatched := patched_of_patchFrame (patchFrame_body hedits h)
  obtain ⟨v, -, hv⟩ := Option.bind_eq_some_iff.mp hrule
  obtain ⟨id, hid, hne⟩ := hasRuleId_iff.mp (hasRuleId_of_asRuleRecord "timerx" hv)
  have hname : ruleId (.obj rule') = some id := (ruleId_of_patchedRule h).trans hid
  refine ⟨⟨id, hname, ?_⟩, fun _ id' => patchedRule_eq_self uuid rfl (hpatched.settled id')⟩
  exact opens_of_shows (hasRuleId_iff.mpr ⟨id, hname, hne⟩) (hpatched.shows hname)

lemma parseJsonBody_save {uuid : String} {e : TimerEditor} {req : Request}
    (h : e.save uuid = .ok req) : parseJsonBody req = e.body uuid ∧ trim e.id ≠ "" := by
  rw [save] at h
  split_ifs at h with hid
  obtain rfl := Except.ok.inj h
  refine ⟨?_, hid⟩
  rw [parseJsonBody, if_pos includes_json, body]
  split_ifs <;> rfl

lemma patchLog_messages {e : TimerEditor} (hedits : e.create = false) (poller : Bool)
    (req : Request) (env : Environment) : ∃ r, PatchLog req (e.messages poller req env) r := by
  rw [messages, handler, if_neg (by rw [hedits]; decide)]
  exact ⟨_, patchLog_run poller req env⟩

end TimerEditor

section PatchLog

variable {req : Request} {log : List Exchange} {r : Except JsError Response}

/-- A patch that has sent a SET has sent the rule that it read, patched. -/
lemma PatchLog.sent (h : PatchLog req log r) {ex : Exchange} (hex : ex ∈ log)
    (hset : ex.1.message.method = "SET") : ∃ g resp rule rule', log = [g, ex] ∧
      receive g.2 = .ok resp ∧ currentRule "timerx" resp = some rule ∧
        patchedRule (parseJsonBody req) rule = some rule' ∧
          ex.1.message.payload = .obj [("timerx", .obj rule')] := by
  have hnot : ∀ {g : Exchange}, g.1.message.method = "GET" → ex ≠ g := by
    rintro g hget rfl
    exact absurd (hget.symm.trans hset) (by decide)
  have hlast : ∀ {g ex' : Exchange}, g.1.message.method = "GET" → ex ∈ [g, ex'] → ex' = ex := by
    intro g ex' hget hmem
    rcases List.mem_cons.mp hmem with heq | hmem
    · exact absurd heq (hnot hget)
    · exact (List.mem_singleton.mp hmem).symm
  cases h with
  | silent r hr => cases hex
  | asked g r hget hnone hr => exact absurd (List.mem_singleton.mp hex) (hnot hget)
  | lost g ex' resp rule rule' r hget hresp hrule hpatched hset' hpayload hfail hr =>
      obtain rfl := hlast hget hex
      exact ⟨g, resp, rule, rule', rfl, hresp, hrule, hpatched, hpayload⟩
  | reported g ex' resp rule rule' data hget hresp hrule hpatched hset' hpayload hparse =>
      obtain rfl := hlast hget hex
      exact ⟨g, resp, rule, rule', rfl, hresp, hrule, hpatched, hpayload⟩
  | unreported g ex' resp rule rule' r m hget hresp hrule hpatched hset' hpayload hparse hr =>
      obtain rfl := hlast hget hex
      exact ⟨g, resp, rule, rule', rfl, hresp, hrule, hpatched, hpayload⟩

/-- A patch that has read a rule which it can patch has sent a SET. -/
lemma PatchLog.sends (h : PatchLog req log r) {g : Exchange} (hg : g ∈ log) {resp : Json}
    (hresp : receive g.2 = .ok resp) {rule rule' : Fields}
    (hrule : currentRule "timerx" resp = some rule)
    (hpatched : patchedRule (parseJsonBody req) rule = some rule') :
    ∃ ex ∈ log, ex.1.message.method = "SET" := by
  cases h with
  | silent r hr => cases hg
  | asked g' r hget' hnone hr =>
      obtain rfl := List.mem_singleton.mp hg
      rw [hnone resp rule hresp hrule] at hpatched
      cases hpatched
  | lost g' ex resp rule rule' r hget hresp hrule hpatched hset hpayload hfail hr =>
      exact ⟨ex, by simp, hset⟩
  | reported g' ex resp rule rule' data hget hresp hrule hpatched hset hpayload hparse =>
      exact ⟨ex, by simp, hset⟩
  | unreported g' ex resp rule rule' r m hget hresp hrule hpatched hset hpayload hparse hr =>
      exact ⟨ex, by simp, hset⟩

/-- The rule that a patch sends is the one that was read, patched. -/
lemma PatchLog.sends_iff (h : PatchLog req log r) {g : Exchange} (hg : g ∈ log)
    (hget : g.1.message.method = "GET") {resp : Json} (hresp : receive g.2 = .ok resp)
    {rule : Fields} (hrule : currentRule "timerx" resp = some rule) (rule' : Fields) :
    (∃ ex ∈ log, ex.1.message.method = "SET" ∧
      ex.1.message.payload = .obj [("timerx", .obj rule')]) ↔
        patchedRule (parseJsonBody req) rule = some rule' := by
  have hread : ∀ {ex : Exchange}, ex ∈ log → ex.1.message.method = "SET" → ∃ rule₁,
      patchedRule (parseJsonBody req) rule = some rule₁ ∧
        ex.1.message.payload = .obj [("timerx", .obj rule₁)] := by
    intro ex hex hset
    obtain ⟨g', resp', rule₀, rule₁, rfl, hresp', hrule', hpatched, hpayload⟩ := h.sent hex hset
    rcases List.mem_cons.mp hg with rfl | hg
    · obtain rfl := Except.ok.inj (hresp.symm.trans hresp')
      obtain rfl := Option.some.inj (hrule.symm.trans hrule')
      exact ⟨rule₁, hpatched, hpayload⟩
    · obtain rfl := List.mem_singleton.mp hg
      exact absurd (hget.symm.trans hset) (by decide)
  constructor
  · rintro ⟨ex, hex, hset, hpayload⟩
    obtain ⟨rule₁, hpatched, hpayload'⟩ := hread hex hset
    have hfields : rule' = rule₁ := by
      simpa only [Json.obj.injEq, List.cons.injEq, Prod.mk.injEq, and_true, true_and] using
        hpayload.symm.trans hpayload'
    rw [hpatched, hfields]
  · intro hpatched
    obtain ⟨ex, hex, hset⟩ := h.sends hg hresp hrule hpatched
    obtain ⟨rule₁, hpatched', hpayload⟩ := hread hex hset
    obtain rfl := Option.some.inj (hpatched.symm.trans hpatched')
    exact ⟨ex, hex, hset, hpayload⟩

end PatchLog

/-- A timer of a plug, as the plug has it. -/
def plugTimer : Fields :=
  [("id", .str "a"), ("extend", .obj [("toggle", .obj [("onoff", intNum 0)])])]

/-- The plug with this timer. -/
def timerPlug (_ : List (Prog.Event Call Reply)) (c : Call) : Reply c :=
  RuleEdit.answering (.obj [("payload", .obj [("timerx", .obj plugTimer)])]) c

/-- The form for this timer, with a fraction in it. -/
def plugEditor : TimerEditor :=
  { newTimer "a" with create := false, alias_ := "lamp", week := "17.6" }

/-- The request of the form. -/
def plugSave : Request := ⟨"application/json", some (plugEditor.body "u")⟩

/-- A rule with its fields as the form writes them. -/
structure NormalRule (rule : Fields) : Prop where
  alias_ : ∃ text, Assoc.get rule "alias" = some (.str text)
  enable : ∃ on, Assoc.get rule "enable" = some (switchNum on)
  number : ∀ k ∈ numericFields, ∃ n : ℤ, Assoc.get rule k = some (intNum n) ∧
    Number.IsDouble n ∧ (k = "channel" → 0 ≤ n)
  toggle : ∃ extend toggle on, Assoc.get rule "extend" = some (.obj extend) ∧
    Assoc.get extend "toggle" = some (.obj toggle) ∧ Assoc.get toggle "onoff" = some (switchNum on)

namespace TimerEditor

variable {e : TimerEditor} {rule : Fields}

lemma exists_mem_numbers (e : TimerEditor) {k : String} (hk : k ∈ numericFields) :
    ∃ text, (k, text) ∈ e.numbers := by
  simp only [numericFields, List.mem_cons, List.not_mem_nil, or_false] at hk
  rcases hk with rfl | rfl | rfl | rfl | rfl | rfl <;> simp [numbers]

lemma Patched.normal (h : e.Patched rule) : NormalRule rule where
  alias_ := ⟨_, h.alias_⟩
  enable := ⟨_, h.enable⟩
  number k hk := by
    obtain ⟨text, hmem⟩ := e.exists_mem_numbers hk
    obtain ⟨n, hn, hneg, hget⟩ := h.stored _ hmem
    have hstored : storedInt (k, text) = n := by
      rw [storedInt, hn]
      rfl
    exact ⟨n, hget, hstored ▸ isDouble_storedInt (k, text), hneg⟩
  toggle := by
    obtain ⟨extend, toggle, hextend, htoggle, honoff⟩ := h.toggle
    exact ⟨extend, toggle, _, hextend, htoggle, honoff⟩

lemma toggleOnoffFromExtend_switchNum {extend toggle : Fields} {on : Bool}
    (htoggle : Assoc.get extend "toggle" = some (.obj toggle))
    (honoff : Assoc.get toggle "onoff" = some (switchNum on)) :
    toggleOnoffFromExtend (some (.obj extend)) = .ok (some (if on then 1 else 0)) := by
  rw [toggleOnoffFromExtend]
  dsimp only [Option.bind_some, Json.record?]
  rw [htoggle]
  dsimp only [Option.bind_some, Json.record?]
  rw [honoff]
  dsimp only
  rw [coerce01_switchNum]
  rfl

lemma decide_switch (on : Bool) : decide ((if on then (1 : ℤ) else 0) = 1) = on := by
  cases on <;> rfl

/-- The form that opens for a normal rule has its values. -/
lemma patched_of_normal (hshows : ShowsTimer rule e) (h : NormalRule rule) : e.Patched rule := by
  have hstored : ∀ p ∈ e.numbers, ∃ n, asFiniteInt (some (sentNumber p.2)) = some n ∧
      (p.1 = "channel" → 0 ≤ n) ∧ Assoc.get rule p.1 = some (intNum n) := by
    intro p hp
    obtain ⟨n, hget, hdouble, hneg⟩ := h.number p.1 (get_patch hp).1
    have htext := hshows.number p hp
    rw [shownInt, hget, asFiniteInt_intNum, Option.getD_some] at htext
    refine ⟨n, ?_, hneg, hget⟩
    rw [htext, sentNumber, numberOfString_toText hdouble]
    exact asFiniteInt_intNum n
  refine ⟨⟨?_, ?_, fun p hp => ?_, ?_⟩, hstored⟩
  · obtain ⟨text, htext⟩ := h.alias_
    have hshown := hshows.alias_
    rw [htext] at hshown
    rw [htext, ← Except.ok.inj hshown]
  · obtain ⟨on, hon⟩ := h.enable
    obtain ⟨n, hn, henable⟩ := hshows.enable
    rw [hon, coerce01_switchNum] at hn
    rw [hon, henable, ← Except.ok.inj hn, decide_switch]
  · obtain ⟨n, hn, -, hget⟩ := hstored p hp
    rw [hget, hn, asFiniteInt_intNum]
  · obtain ⟨extend, toggle, on, hextend, htoggle, honoff⟩ := h.toggle
    obtain ⟨action, haction, hshown⟩ := hshows.toggle
    rw [hextend, toggleOnoffFromExtend_switchNum htoggle honoff] at haction
    obtain rfl := Except.ok.inj haction
    refine ⟨extend, toggle, hextend, htoggle, ?_⟩
    rw [honoff, hshown, Option.getD_some, decide_switch]

/-- What a form does to the rule that the device returns. -/
structure Saves (e : TimerEditor) (rule : Fields) (log : List Exchange) : Prop where
  /-- a rule is sent back exactly for a valid form and a rule with an action -/
  sends : (∃ ex ∈ log, ex.1.message.method = "SET") ↔ e.Valid ∧ HasAction rule
  /-- a form that was opened for the rule and left as it is sends it back as it is exactly if it
  is normal -/
  untouched : OpensTimer rule e → ((∃ ex ∈ log, ex.1.message.method = "SET" ∧
    ex.1.message.payload = .obj [("timerx", .obj rule)]) ↔ NormalRule rule)

end TimerEditor

/-- **A timer that is edited** is sent back exactly if the form is valid and the rule has an action,
and a form that is saved untouched changes the rule exactly if it is not normal. -/
theorem edited_timer_saves {uuid : String} {e : TimerEditor} {req : Request}
    (hsave : e.save uuid = .ok req) (hedits : e.create = false) (poller : Bool) (env : Environment)
    {g : Exchange} (hg : g ∈ e.messages poller req env) (hget : g.1.message.method = "GET")
    {resp : Json} (hresp : receive g.2 = .ok resp) {rule : Fields}
    (hrule : currentRule "timerx" resp = some rule) :
    e.Saves rule (e.messages poller req env) := by
  obtain ⟨hbody, -⟩ := TimerEditor.parseJsonBody_save hsave
  obtain ⟨r, hlog⟩ := TimerEditor.patchLog_messages hedits poller req env
  have hsends := hlog.sends_iff hg hget hresp hrule
  rw [hbody] at hsends
  constructor
  · rw [← TimerEditor.patchedRule_isSome_iff uuid hedits]
    constructor
    · rintro ⟨ex, hex, hset⟩
      obtain ⟨-, -, -, rule', -, -, -, -, hpayload⟩ := hlog.sent hex hset
      exact ⟨rule', (hsends rule').mp ⟨ex, hex, hset, hpayload⟩⟩
    · rintro ⟨rule', hpatched⟩
      obtain ⟨ex, hex, hset, -⟩ := (hsends rule').mpr hpatched
      exact ⟨ex, hex, hset⟩
  · intro hopens
    obtain ⟨v, -, hv⟩ := Option.bind_eq_some_iff.mp hrule
    have hshows := shows_of_opens (hasRuleId_of_asRuleRecord "timerx" hv) hopens
    rw [hsends rule]
    constructor
    · exact fun hpatched =>
        (TimerEditor.patched_of_patchFrame (TimerEditor.patchFrame_body hedits hpatched)).normal
    · exact fun hnormal => TimerEditor.patchedRule_eq_self uuid hedits
        (TimerEditor.patched_of_normal hshows hnormal)

/-- The form is valid, and the timer of the plug has an action. -/
theorem edited_timer_saves_plug : ∃ rule,
    plugEditor.Saves rule (plugEditor.messages false plugSave timerPlug) ∧
      plugEditor.Valid ∧ TimerEditor.HasAction rule := by
  have hsave : plugEditor.save "u" = .ok plugSave := if_neg (by decide)
  have hread : (plugEditor.messages false plugSave timerPlug).any (fun g =>
      g.1.message.method = "GET" ∧
        ((receive g.2).toOption.bind (currentRule "timerx")).isSome) = true := by decide +kernel
  have hsent : (plugEditor.messages false plugSave timerPlug).any
      (fun ex => ex.1.message.method = "SET") = true := by decide +kernel
  obtain ⟨g, hg, hboth⟩ := List.any_eq_true.mp hread
  obtain ⟨hget, hrule⟩ := of_decide_eq_true hboth
  obtain ⟨rule, hrule⟩ := Option.isSome_iff_exists.mp hrule
  obtain ⟨resp, hresp, hrule⟩ := Option.bind_eq_some_iff.mp hrule
  have hsaves := edited_timer_saves hsave rfl false timerPlug hg hget (eq_ok_of_toOption hresp) hrule
  obtain ⟨ex, hex, hset⟩ := List.any_eq_true.mp hsent
  exact ⟨rule, hsaves, hsaves.sends.mp ⟨ex, hex, of_decide_eq_true hset⟩⟩

end Merossity
