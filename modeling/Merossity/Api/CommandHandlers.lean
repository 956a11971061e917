import Merossity.Api.RuleEdits

/-!
The handlers that command a device: `meross/lan/togglex.ts`, `meross/lan/light.ts`,
`toggle-device.ts` and `set-device-light.ts`.

* `Command` are the handlers that answer `{ ok: true }` for a command: these two, the two
  that set a schedule rule, and the one that patches a rule.
* `CommandLog` is what their messages and answers look like; `commandLog_handler` proves it
  of every run.
* `honest_iff` says when an answer `{ ok: true }` is one that the device agrees to.
-/

namespace Merossity

open Js

/-! ### The handlers -/

/-- A number as a JSON number. -/
def natNum (n : ℕ) : Json := .num (.fin n)

/-- `setToggleX`. -/
def setToggleX (host key : Json) (channel : ℕ) (onoff : ℤ) : Async Json :=
  postLan "Appliance.Control.ToggleX" "SET"
    (.obj [("togglex", .obj [("channel", natNum channel), ("onoff", intNum onoff)])]) host key none

/-- `...(v !== undefined ? { k: v } : {})`. -/
def optionalNum (k : String) (v : Option ℤ) : Fields :=
  match v with
  | none => []
  | some n => [(k, intNum n)]

/-- `setLight`. -/
def setLight (host key : Json) (channel : ℕ) (onoff luminance temperature rgb : Option ℤ) :
    Async Json :=
  postLan "Appliance.Control.Light" "SET"
    (.obj [("light", .obj ([("channel", natNum channel)] ++ optionalNum "onoff" onoff
      ++ optionalNum "luminance" luminance ++ optionalNum "temperature" temperature
      ++ optionalNum "rgb" rgb))]) host key none

/-- `body.channel === undefined ? 0 : Number(body.channel)`. -/
def channelField (body : Json) : Except String Number :=
  match body.get? "channel" with
  | none => .ok (.fin 0)
  | some raw => toNumber (some raw)

/-- `model.startsWith('MSL') || model.includes('LIGHT')`, of the device type in the cloud
list. -/
def prefersLight (cfg : Json) (uuid : String) : Except String Bool := do
  let cloudDevice ← findCloudDevice false cfg uuid
  let deviceType ← toText (coalesce (Json.opt cloudDevice "deviceType") (some (.str "")))
  let model := toUpperCase (trim deviceType)
  return startsWith model "MSL" || includes model "LIGHT"

/-- `createToggleDeviceHandler`. -/
def createToggleDeviceHandler (poller : Bool) (req : Request) : Async Response := do
  let body := parseJsonBody req
  let uuid ← textField body "uuid"
  let channel ← eval (channelField body)
  let onoff ← eval (coerce01 (body.get? "onoff"))
  if uuid = "" then return apiErr "Missing uuid" "missing_uuid"
  else
    match channel.natural? with
    | none => return apiErr "Invalid channel" "invalid_channel"
    | some channel =>
        tryCatch (do
          let host ← requireLanHost uuid
          let key ← requireLanKey
          let cfg ← readConfig
          let preferLight ← eval (prefersLight cfg uuid)
          let light := setLight host key channel (some onoff) none none none
          let togglex := setToggleX host key channel onoff
          let resp ←
            if preferLight then tryCatch light fun _ => togglex
            else tryCatch togglex fun _ => light
          refreshAfter poller uuid
          return apiOk [("host", host), ("channel", natNum channel), ("onoff", intNum onoff),
            ("resp", resp)]) lanError

/-- `clampInt`. -/
def clampInt (v : Option Json) (min max : ℤ) : Option ℤ :=
  (asFiniteInt v).map fun rounded => Max.max min (Min.min max rounded)

/-- One of the numeric fields of a light; `none` if it cannot be read. -/
def lightField (body : Json) (field : String) (max : ℤ) : Option (Option ℤ) :=
  match body.get? field with
  | none => some none
  | some raw => (clampInt (some raw) 0 max).map some

/-- `createSetDeviceLightHandler`. -/
def createSetDeviceLightHandler (poller : Bool) (req : Request) : Async Response := do
  let body := parseJsonBody req
  let uuid ← textField body "uuid"
  let channel ← eval (channelField body)
  if uuid = "" then return apiErr "Missing uuid" "missing_uuid"
  else
    match channel.natural? with
    | none => return apiErr "Invalid channel" "invalid_channel"
    | some channel =>
        let onoff ← eval (patchFlag body "onoff")
        match lightField body "luminance" 100, lightField body "temperature" 100,
          lightField body "rgb" 0xffffff with
        | none, _, _ => return apiErr "Invalid luminance" "invalid_luminance"
        | _, none, _ => return apiErr "Invalid temperature" "invalid_temperature"
        | _, _, none => return apiErr "Invalid rgb" "invalid_rgb"
        | some luminance, some temperature, some rgb =>
            if onoff = none ∧ luminance = none ∧ temperature = none ∧ rgb = none then
              return apiErr "No light fields provided" "missing_fields"
            else
              tryCatch (do
                let host ← requireLanHost uuid
                let key ← requireLanKey
                let resp ← setLight host key channel onoff luminance temperature rgb
                refreshAfter poller uuid
                return apiOk [("host", host), ("channel", natNum channel), ("resp", resp)]) lanError

/-! ### Commands and their answers -/

/-- The handlers that report a command to a device as done. -/
inductive Command where
  | toggle
  | light
  | setTimerX
  | patchTimerX
  | setTriggerX
  deriving DecidableEq

namespace Command

/-- The handler of the source. -/
def handler : Command → Bool → Request → Async Response
  | toggle => createToggleDeviceHandler
  | light => createSetDeviceLightHandler
  | setTimerX => createSetDeviceTimerXHandler
  | patchTimerX => createPatchDeviceTimerXHandler
  | setTriggerX => createSetDeviceTriggerXHandler

/-- An answer `{ ok: true }` comes only after a last reply in which the device does not
refuse, and a refused first command of `toggle` is followed by the second one. -/
def Honest (h : Command) (log : List Exchange) (r : Except JsError Response) : Prop :=
  (Answered r → ∀ ex, log.getLast? = some ex → ¬ Refused ex) ∧
  (h = toggle → ∀ first rest, log = first :: rest → Refused first → rest ≠ [])

/-- The patch handler has a rule in the reply to its GET that it can patch, but not report:
one of the fields it reports has no text or is no number. -/
def Unreportable (h : Command) (req : Request) (log : List Exchange) : Prop :=
  h = patchTimerX ∧ ∃ ex ∈ log, ex.1.message.method = "GET" ∧ ∃ resp, receive ex.2 = .ok resp ∧
    ∃ rule, currentRule "timerx" resp = some rule ∧
      ∃ rule', patchedRule (parseJsonBody req) rule = some rule' ∧
        ∃ m, parseTimerXRule rule' = .error m

/-- The device refuses no SET, but for those whose rule cannot be reported. -/
def NoSetRefused (h : Command) (req : Request) (log : List Exchange) : Prop :=
  ∀ ex ∈ log, ex.1.message.method = "SET" → Refused ex → h.Unreportable req log

/-- What the messages and the answer of a command look like: every SET before the last one
failed, and an answer `{ ok: true }` comes after a last SET that was received. -/
inductive CommandLog (h : Command) (req : Request) :
    List Exchange → Except JsError Response → Prop where
  | failed (log : List Exchange) (r : Except JsError Response) (hr : ¬ Answered r)
      (hlog : ∀ ex ∈ log, ex.1.message.method = "SET" ∨ h = toggle → Failed ex) :
      CommandLog h req log r
  | done (log : List Exchange) (ex : Exchange) (data : Json)
      (hlog : ∀ e ∈ log, e.1.message.method = "SET" ∨ h = toggle → Failed e)
      (hset : ex.1.message.method = "SET") (hrep : ¬ h.Unreportable req (log ++ [ex])) :
      CommandLog h req (log ++ [ex]) (.ok (.ok data))
  | unreported (log : List Exchange) (r : Except JsError Response) (hr : ¬ Answered r)
      (hrep : h.Unreportable req log) : CommandLog h req log r

/-- The answers of a command are honest exactly if the device refuses none of its SETs. -/
lemma CommandLog.exact_iff {h : Command} {req : Request} {log : List Exchange}
    {r : Except JsError Response} (hlog : h.CommandLog req log r) :
    h.Honest log r ↔ h.NoSetRefused req log := by
  cases hlog with
  | failed log r hr hlog =>
      refine iff_of_true ⟨fun ha => absurd ha hr, ?_⟩ ?_
      · rintro htoggle first rest rfl hrefused
        exact absurd hrefused (hlog first List.mem_cons_self (Or.inr htoggle)).not_refused
      · intro ex hex hset hrefused
        exact absurd hrefused (hlog ex hex (Or.inl hset)).not_refused
  | done log ex data hlog hset hrep =>
      have hlast : (log ++ [ex]).getLast? = some ex := List.getLast?_concat
      constructor
      · intro hhonest e he heset hrefused
        rcases List.mem_append.mp he with he | he
        · exact absurd hrefused (hlog e he (Or.inl heset)).not_refused
        · obtain rfl := List.mem_singleton.mp he
          exact absurd hrefused (hhonest.1 ⟨data, rfl⟩ e hlast)
      · intro hnone
        have hex : ¬ Refused ex := fun hrefused =>
          hrep (hnone ex (List.mem_append_right _ List.mem_cons_self) hset hrefused)
        refine ⟨fun _ e he => ?_, fun htoggle first rest hfirst hrefused => ?_⟩
        · rw [hlast] at he
          rwa [← Option.some.inj he]
        · cases log with
          | nil =>
              obtain ⟨rfl, -⟩ := List.cons.inj hfirst
              exact absurd hrefused hex
          | cons e log =>
              obtain ⟨rfl, -⟩ := List.cons.inj hfirst
              exact absurd hrefused (hlog e List.mem_cons_self (Or.inr htoggle)).not_refused
  | unreported log r hr hrep =>
      refine iff_of_true ⟨fun ha => absurd ha hr, fun htoggle => ?_⟩ fun _ _ _ _ => hrep
      exact absurd (htoggle.symm.trans hrep.1) (by decide)

/-! ### The messages of the handlers -/

section Handlers

variable {req : Request} {poller : Bool} {α : Type} {Q : List Exchange → α → Prop}
  {Qe : List Exchange → JsError → Prop} {log : List Exchange}

/-- Only the patch handler reports a rule. -/
lemma not_unreportable {h : Command} (hne : h ≠ patchTimerX) : ¬ h.Unreportable req log :=
  fun hrep => hne hrep.1

/-- An answer or an error before anything is sent. -/
lemma commandLog_nil {h : Command} {r : Except JsError Response} (hr : ¬ Answered r) :
    h.CommandLog req [] r :=
  .failed [] r hr fun _ hex => absurd hex List.not_mem_nil

/-- The message of `toggle` and, if that fails, the other one. -/
lemma ewp_fallback {Q : List Exchange → Json → Prop} {ns ns' : String}
    {payload payload' host key : Json} {timeoutMs : Option Number}
    (hthrow : ∀ log' e, (∀ ex ∈ log', Failed ex) → Qe log' e)
    (hsend : ∀ log' ex resp, (∀ e ∈ log', Failed e) → ex.1.message.method = "SET" →
      Q (log' ++ [ex]) resp) :
    Prog.ewp lanLog (tryCatch (postLan ns "SET" payload host key timeoutMs) fun _ =>
      postLan ns' "SET" payload' host key timeoutMs) Q Qe [] := by
  have hnone : ∀ ex ∈ ([] : List Exchange), Failed ex := fun ex hex => absurd hex List.not_mem_nil
  have hfailed : ∀ {log' : List Exchange} {ex : Exchange} {m : String}, (∀ e ∈ log', Failed e) →
      receive ex.2 = .error m → ∀ e ∈ log' ++ [ex], Failed e := by
    intro log' ex m hlog' hex e he
    rcases List.mem_append.mp he with he | he
    · exact hlog' e he
    · obtain rfl := List.mem_singleton.mp he
      exact ⟨m, hex⟩
  have hsecond : ∀ log' : List Exchange, (∀ ex ∈ log', Failed ex) →
      Prog.ewp lanLog (postLan ns' "SET" payload' host key timeoutMs) Q Qe log' := by
    intro log' hlog'
    refine ewp_postLan (fun _ e => hthrow log' e hlog') fun _ ex hset _ =>
      ⟨fun resp _ => hsend log' ex resp hlog' hset, fun m hm => ?_⟩
    exact hthrow _ _ (hfailed hlog' hm)
  rw [Prog.ewp_tryCatch]
  refine ewp_postLan (fun _ _ => hsecond [] hnone) fun _ ex hset _ =>
    ⟨fun resp _ => hsend [] ex resp hnone hset, fun m hm => ?_⟩
  exact hsecond _ (hfailed hnone hm)

lemma commandLog_toggle :
    Prog.ewp lanLog (createToggleDeviceHandler poller req)
      (fun log a => toggle.CommandLog req log (.ok a))
      (fun log e => toggle.CommandLog req log (.error e)) [] := by
  have herr : ∀ {m code : String}, toggle.CommandLog req [] (.ok (apiErr m code)) :=
    commandLog_nil not_answered_err
  rw [createToggleDeviceHandler, Prog.ewp_bind]
  refine ewp_textField (fun e => commandLog_nil (not_answered_error e)) fun uuid _ => ?_
  rw [Prog.ewp_bind]
  refine ewp_eval (fun m _ => commandLog_nil (not_answered_error _)) fun channel _ => ?_
  rw [Prog.ewp_bind]
  refine ewp_eval (fun m _ => commandLog_nil (not_answered_error _)) fun onoff _ => ?_
  refine Prog.ewp_ite (fun _ => Prog.ewp_pure.mpr herr) fun _ => ?_
  cases channel.natural? with
  | none => exact Prog.ewp_pure.mpr herr
  | some channel =>
      refine ewp_tryCatch_lanError (ewp_requireLan (fun e => herr) fun host key => ?_)
      rw [Prog.ewp_bind]
      refine ewp_lanLog_of_makes readConfig_makes Call.reads.not_lan (fun cfg => ?_) fun e => herr
      rw [Prog.ewp_bind]
      refine ewp_eval (fun m _ => herr) fun preferLight _ => ?_
      have hthrow : ∀ (log' : List Exchange) (e : JsError), (∀ ex ∈ log', Failed ex) →
          toggle.CommandLog req log' (.ok (apiErr e.message "lan_error")) :=
        fun log' e hlog' => .failed log' _ not_answered_err fun ex hex _ => hlog' ex hex
      have hrest : ∀ (log' : List Exchange) (ex : Exchange) (resp : Json), (∀ e ∈ log', Failed e) →
          ex.1.message.method = "SET" → Prog.ewp lanLog (do
            refreshAfter poller uuid
            return apiOk [("host", host), ("channel", natNum channel), ("onoff", intNum onoff),
              ("resp", resp)]) (fun log a => toggle.CommandLog req log (.ok a))
            (fun log e => toggle.CommandLog req log (.ok (apiErr e.message "lan_error")))
            (log' ++ [ex]) := by
        intro log' ex resp hlog' hset
        refine ewp_refreshAfter (Prog.ewp_pure.mpr ?_)
        exact .done log' ex _ (fun e he _ => hlog' e he) hset (not_unreportable (by decide))
      dsimp only
      refine Prog.ewp_ite (fun _ => ?_) fun _ => ?_
      · rw [Prog.ewp_bind]
        exact ewp_fallback hthrow hrest
      · rw [Prog.ewp_bind]
        exact ewp_fallback hthrow hrest

/-- A handler that sends one SET and answers. -/
lemma ewp_singleSet {h : Command} {ns uuid : String} {payload host key : Json}
    {timeoutMs : Option Number} {data : Json → Fields} (hpatch : h ≠ patchTimerX) :
    Prog.ewp lanLog (do
        let resp ← postLan ns "SET" payload host key timeoutMs
        refreshAfter poller uuid
        return apiOk (data resp)) (fun log a => h.CommandLog req log (.ok a))
      (fun log e => h.CommandLog req log (.ok (apiErr e.message "lan_error"))) [] := by
  rw [Prog.ewp_bind]
  refine ewp_postLan (fun _ e => commandLog_nil not_answered_err) fun _ ex hset _ =>
    ⟨fun resp _ => ?_, fun m hm => ?_⟩
  · refine ewp_refreshAfter (Prog.ewp_pure.mpr ?_)
    exact .done [] ex _ (fun e he => absurd he List.not_mem_nil) hset (not_unreportable hpatch)
  · refine .failed _ _ not_answered_err fun e he _ => ?_
    obtain rfl := List.mem_singleton.mp he
    exact ⟨m, hm⟩

lemma commandLog_light :
    Prog.ewp lanLog (createSetDeviceLightHandler poller req)
      (fun log a => light.CommandLog req log (.ok a))
      (fun log e => light.CommandLog req log (.error e)) [] := by
  have herr : ∀ {m code : String}, light.CommandLog req [] (.ok (apiErr m code)) :=
    commandLog_nil not_answered_err
  rw [createSetDeviceLightHandler, Prog.ewp_bind]
  refine ewp_textField (fun e => commandLog_nil (not_answered_error e)) fun uuid _ => ?_
  rw [Prog.ewp_bind]
  refine ewp_eval (fun m _ => commandLog_nil (not_answered_error _)) fun channel _ => ?_
  refine Prog.ewp_ite (fun _ => Prog.ewp_pure.mpr herr) fun _ => ?_
  cases channel.natural? with
  | none => exact Prog.ewp_pure.mpr herr
  | some channel =>
      dsimp only
      rw [Prog.ewp_bind]
      refine ewp_eval (fun m _ => commandLog_nil (not_answered_error _)) fun onoff _ => ?_
      split
      · exact Prog.ewp_pure.mpr herr
      · exact Prog.ewp_pure.mpr herr
      · exact Prog.ewp_pure.mpr herr
      · refine Prog.ewp_ite (fun _ => Prog.ewp_pure.mpr herr) fun _ => ?_
        refine ewp_tryCatch_lanError (ewp_requireLan (fun e => herr) fun host key => ?_)
        exact ewp_singleSet (by decide)

lemma commandLog_setRule {h : Command} {field kind ns : String}
    {send : Json → Json → Fields → Async Json} (hsend : ∀ host key rule,
      send host key rule = postLan ns "SET" (.obj [(kind, .obj rule)]) host key none)
    (hpatch : h ≠ patchTimerX) :
    Prog.ewp lanLog (setRule field send poller req)
      (fun log a => h.CommandLog req log (.ok a))
      (fun log e => h.CommandLog req log (.error e)) [] := by
  have herr : ∀ {m code : String}, h.CommandLog req [] (.ok (apiErr m code)) :=
    commandLog_nil not_answered_err
  rw [setRule, Prog.ewp_bind]
  refine ewp_textField (fun e => commandLog_nil (not_answered_error e)) fun uuid _ => ?_
  dsimp only
  rw [Prog.ewp_bind]
  refine ewp_eval (fun m _ => commandLog_nil (not_answered_error _)) fun id _ => ?_
  refine Prog.ewp_ite (fun _ => Prog.ewp_pure.mpr herr) fun _ => ?_
  split
  · exact Prog.ewp_pure.mpr herr
  · refine Prog.ewp_ite (fun _ => Prog.ewp_pure.mpr herr) fun _ => ?_
    refine ewp_tryCatch_lanError (ewp_requireLan (fun e => herr) fun host key => ?_)
    rw [hsend]
    exact ewp_singleSet hpatch

/-- The messages of the patch handler are those of a command. -/
lemma commandLog_of_patchLog {r : Except JsError Response} (hlog : PatchLog req log r) :
    patchTimerX.CommandLog req log r := by
  have hfailed : ∀ {g : Exchange}, g.1.message.method = "GET" → ∀ {P : Prop},
      g.1.message.method = "SET" ∨ patchTimerX = toggle → P := by
    intro g hget P h
    rcases h with h | h
    · exact absurd (hget.symm.trans h) (by decide)
    · exact absurd h (by decide)
  cases hlog with
  | silent r hr => exact commandLog_nil hr
  | asked g r hget hnone hr =>
      refine .failed [g] r hr fun ex hex h => ?_
      obtain rfl := List.mem_singleton.mp hex
      exact hfailed hget h
  | lost g ex resp rule rule' r hget hresp hrule hpatched hset hpayload hfail hr =>
      refine .failed [g, ex] r hr fun e he h => ?_
      rcases List.mem_cons.mp he with rfl | he
      · exact hfailed hget h
      · obtain rfl := List.mem_singleton.mp he
        exact hfail
  | reported g ex resp rule rule' data hget hresp hrule hpatched hset hpayload hparse =>
      refine .done [g] ex data (fun e he h => ?_) hset ?_
      · obtain rfl := List.mem_singleton.mp he
        exact hfailed hget h
      · rintro ⟨-, e, he, heget, resp', hresp', rule₁, hrule₁, rule₂, hrule₂, m, hm⟩
        rcases List.mem_cons.mp he with rfl | he
        · obtain rfl := Except.ok.inj (hresp.symm.trans hresp')
          obtain rfl := Option.some.inj (hrule.symm.trans hrule₁)
          obtain rfl := Option.some.inj (hpatched.symm.trans hrule₂)
          obtain ⟨fields, hfields⟩ := hparse
          rw [hfields] at hm
          cases hm
        · obtain rfl := List.mem_singleton.mp he
          exact absurd (heget.symm.trans hset) (by decide)
  | unreported g ex resp rule rule' r m hget hresp hrule hpatched hset hpayload hparse hr =>
      exact .unreported [g, ex] r hr ⟨rfl, g, List.mem_cons_self, hget, resp, hresp, rule, hrule,
        rule', hpatched, m, hparse⟩

end Handlers

/-- The messages and the answer of every run of a command. -/
lemma commandLog_handler (h : Command) (poller : Bool) (req : Request)
    (env : Environment) :
    h.CommandLog req (exchanges (Prog.run env (h.handler poller req).run).2)
      (Prog.run env (h.handler poller req).run).1 := by
  refine @lanLog_run _ _ (fun log r => h.CommandLog req log r) ?_ env
  cases h with
  | toggle => exact @commandLog_toggle req poller
  | light => exact @commandLog_light req poller
  | setTimerX =>
      show Prog.ewp lanLog (createSetDeviceTimerXHandler poller req) _ _ []
      exact commandLog_setRule (fun _ _ _ => rfl) (by decide)
  | patchTimerX =>
      exact Prog.ewp_mono (@patchLog_handler req poller) (fun _ _ h => commandLog_of_patchLog h)
        fun _ _ h => commandLog_of_patchLog h
  | setTriggerX =>
      show Prog.ewp lanLog (createSetDeviceTriggerXHandler poller req) _ _ []
      exact commandLog_setRule (fun _ _ _ => rfl) (by decide)

/-- **No command is reported as done when the device refused it** exactly in the runs in
which the device refuses no SET, or the rule of a refused SET cannot be reported. -/
theorem honest_iff (h : Command) (poller : Bool) (req : Request)
    (env : Environment) :
    h.Honest (exchanges (Prog.run env (h.handler poller req).run).2)
        (Prog.run env (h.handler poller req).run).1 ↔
      h.NoSetRefused req (exchanges (Prog.run env (h.handler poller req).run).2) :=
  (commandLog_handler h poller req env).exact_iff

/-- A device that refuses `ToggleX` in a reply with status 200: the toggle is reported as
done, and `Light` is not tried. -/
theorem toggle_reports_refused :
    ¬ ∀ (h : Command) (poller : Bool) (req : Request)
      (env : Environment),
      h.Honest (exchanges (Prog.run env (h.handler poller req).run).2)
        (Prog.run env (h.handler poller req).run).1 := by
  intro hall
  have h := hall .toggle false
    ⟨"application/json", some (.obj [("uuid", .str "u"), ("onoff", .num (.fin 1))])⟩
    fun _ => RuleEdit.answering
      (.obj [("payload", .obj [("error", .obj [("code", .num (.fin 5001))])])])
  have hrefused : refused (.obj [("payload", .obj [("error", .obj [("code", .num (.fin 5001))])])])
      = true := by decide +kernel
  exact h.2 rfl _ _ rfl ⟨_, rfl, hrefused⟩ rfl

end Command

end Merossity
