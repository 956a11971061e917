import Merossity.Api.Shared

/-!
The handlers that edit the schedule rules of a device: `meross/lan/timerx.ts`,
`meross/lan/triggerx.ts`, `set-device-timerx.ts`, `patch-device-timerx.ts`,
`delete-device-timerx.ts`, `set-device-triggerx.ts` and `delete-device-triggerx.ts`.

* `asRuleRecord kind` is `asTimerRuleRecord` and `asTriggerRuleRecord`: the source has
  it twice, with the key `kind` of the nested rules as the only difference.
* `rulesOf kind` lists all the rules that the search can reach; `asRuleRecord_eq_head?`
  says that the search picks the first of them.
* `patchTimerXRule` are the assignments of the patch handler to the rule it has read, and
  `patchEdits` says what each of them writes (`edits_patchTimerXRule`); none of them touches the
  id (`id_patchTimerXRule`).
-/

namespace Merossity

open Js

/-! ### Rules in a reply -/

/-- `typeof v.id === 'string' && v.id.trim()`. -/
def hasRuleId (fs : Fields) : Bool :=
  match Assoc.get fs "id" with
  | some (.str id) => trim id ≠ ""
  | _ => false

lemma exists_id_of_hasRuleId {fs : Fields} (h : hasRuleId fs = true) :
    ∃ id, Assoc.get fs "id" = some (.str id) := by
  rw [hasRuleId] at h
  split at h
  next id hget => exact ⟨id, hget⟩
  next => cases h

mutual

/-- `asTimerRuleRecord` (`kind` is `timerx`) and `asTriggerRuleRecord` (`triggerx`). -/
def asRuleRecord (kind : String) : Json → Option Fields
  | .arr items => asRuleRecordIn kind items
  | .obj fs => if hasRuleId fs then some fs else asRuleRecordAt kind fs
  | _ => none

/-- The loop over the items of an array. -/
def asRuleRecordIn (kind : String) : List Json → Option Fields
  | [] => none
  | v :: vs => (asRuleRecord kind v).or (asRuleRecordIn kind vs)

/-- The search in `v[kind]`. -/
def asRuleRecordAt (kind : String) : Fields → Option Fields
  | [] => none
  | e :: fs => if e.1 = kind then asRuleRecordField kind e else asRuleRecordAt kind fs

/-- The search in the value of one property. -/
def asRuleRecordField (kind : String) : String × Json → Option Fields
  | (_, v) => asRuleRecord kind v

end

mutual

/-- All rules that the search can reach, in the order of the search. -/
def rulesOf (kind : String) : Json → List Fields
  | .arr items => rulesIn kind items
  | .obj fs => if hasRuleId fs then [fs] else rulesAt kind fs
  | _ => []

/-- The rules in the items of an array. -/
def rulesIn (kind : String) : List Json → List Fields
  | [] => []
  | v :: vs => rulesOf kind v ++ rulesIn kind vs

/-- The rules in `v[kind]`. -/
def rulesAt (kind : String) : Fields → List Fields
  | [] => []
  | e :: fs => if e.1 = kind then rulesField kind e else rulesAt kind fs

/-- The rules in the value of one property. -/
def rulesField (kind : String) : String × Json → List Fields
  | (_, v) => rulesOf kind v

end

mutual

/-- The search picks the first rule that it can reach. -/
lemma asRuleRecord_eq_head? (kind : String) : ∀ v, asRuleRecord kind v = (rulesOf kind v).head?
  | .arr items => asRuleRecordIn_eq_head? kind items
  | .obj fs => by
      rw [asRuleRecord, rulesOf]
      by_cases h : hasRuleId fs = true
      · rw [if_pos h, if_pos h, List.head?_cons]
      · rw [if_neg h, if_neg h]
        exact asRuleRecordAt_eq_head? kind fs
  | .null => rfl
  | .bool _ => rfl
  | .num _ => rfl
  | .str _ => rfl

lemma asRuleRecordIn_eq_head? (kind : String) :
    ∀ vs, asRuleRecordIn kind vs = (rulesIn kind vs).head?
  | [] => rfl
  | v :: vs => by
      rw [asRuleRecordIn, rulesIn, List.head?_append, asRuleRecord_eq_head? kind v,
        asRuleRecordIn_eq_head? kind vs]

lemma asRuleRecordAt_eq_head? (kind : String) :
    ∀ fs, asRuleRecordAt kind fs = (rulesAt kind fs).head?
  | [] => rfl
  | e :: fs => by
      rw [asRuleRecordAt, rulesAt]
      by_cases h : e.1 = kind
      · rw [if_pos h, if_pos h]
        exact asRuleRecordField_eq_head? kind e
      · rw [if_neg h, if_neg h]
        exact asRuleRecordAt_eq_head? kind fs

lemma asRuleRecordField_eq_head? (kind : String) :
    ∀ e, asRuleRecordField kind e = (rulesField kind e).head?
  | (_, v) => asRuleRecord_eq_head? kind v

end

/-- The rules of the reply to a GET, where the source looks for them. -/
def replyRules (kind : String) (resp : Json) : List Fields :=
  ((resp.path ["payload", kind]).map (rulesOf kind)).getD []

/-- `asTimerRuleRecord(currentResp?.payload?.timerx)`, and the same for `triggerx`. -/
def currentRule (kind : String) (resp : Json) : Option Fields :=
  (resp.path ["payload", kind]).bind (asRuleRecord kind)

lemma currentRule_eq_head? (kind : String) (resp : Json) :
    currentRule kind resp = (replyRules kind resp).head? := by
  rw [currentRule, replyRules]
  cases resp.path ["payload", kind] with
  | none => rfl
  | some v => exact asRuleRecord_eq_head? kind v

/-- The trimmed id of a rule. -/
def ruleId (rule : Json) : Option String := ((rule.get? "id").bind Json.str?).map trim

/-! ### Messages about rules -/

/-- `getTimerX`. -/
def getTimerX (host key : Json) (id : String) : Async Json :=
  postLan "Appliance.Control.TimerX" "GET" (.obj [("timerx", .obj [("id", .str id)])]) host key none

/-- `setTimerX`. -/
def setTimerX (host key : Json) (timer : Fields) : Async Json :=
  postLan "Appliance.Control.TimerX" "SET" (.obj [("timerx", .obj timer)]) host key none

/-- `getTriggerX`. -/
def getTriggerX (host key : Json) (id : String) : Async Json :=
  postLan "Appliance.Control.TriggerX" "GET" (.obj [("triggerx", .obj [("id", .str id)])]) host key
    none

/-- `setTriggerX`. -/
def setTriggerX (host key : Json) (trigger : Fields) : Async Json :=
  postLan "Appliance.Control.TriggerX" "SET" (.obj [("triggerx", .obj trigger)]) host key none

/-! ### Patching a rule -/

/-- What ends the patching of a rule early: an error thrown, or the answer given. -/
inductive PatchFailure where
  | throws (message : String)
  | answers (message code : String)

/-- An integer as a JSON number. -/
def intNum (n : ℤ) : Json := .num (.fin n)

/-- The assignment of one of the numeric fields; `nonNegative` for `channel` only. -/
def patchNumber (patch : Json) (field code : String) (nonNegative : Bool) (rule : Fields) :
    Except PatchFailure Fields :=
  match patch.get? field with
  | none => .ok rule
  | some raw =>
      match asFiniteInt (some raw) with
      | none => .error (.answers s!"Invalid {field}" code)
      | some n =>
          if nonNegative = true ∧ n < 0 then .error (.answers s!"Invalid {field}" code)
          else .ok (Assoc.set rule field (intNum n))

/-- The assignment to `enable`. -/
def patchEnable (enable : Option ℤ) (rule : Fields) : Fields :=
  match enable with
  | none => rule
  | some n => Assoc.set rule "enable" (intNum n)

/-- The assignment to `alias`. -/
def patchAlias (patch : Json) (rule : Fields) : Except PatchFailure Fields :=
  match patch.get? "alias" with
  | none => .ok rule
  | some raw =>
      match toText (coalesce (some raw) (some (.str ""))) with
      | .error message => .error (.throws message)
      | .ok text => .ok (Assoc.set rule "alias" (.str text))

/-- The answer for a rule that switches nothing on or off. -/
def unsupportedAction : PatchFailure :=
  .answers "TimerX rule does not support extend.toggle.onoff" "unsupported_action"

/-- The assignment to `extend.toggle.onoff`, which the rule has to have already. -/
def patchToggle (toggleOnoff : Option ℤ) (rule : Fields) : Except PatchFailure Fields :=
  match toggleOnoff with
  | none => .ok rule
  | some n =>
      match (Assoc.get rule "extend").bind Json.record? with
      | none => .error unsupportedAction
      | some extend =>
          match (Assoc.get extend "toggle").bind Json.record? with
          | none => .error unsupportedAction
          | some toggle =>
              if (Assoc.get toggle "onoff").isSome then
                .ok (Assoc.set rule "extend" (.obj (Assoc.set extend "toggle"
                  (.obj (Assoc.set toggle "onoff" (intNum n))))))
              else .error unsupportedAction

/-- What the patch handler does to the rule before it sends it back. -/
def patchTimerXRule (patch : Json) (enable toggleOnoff : Option ℤ) (rule : Fields) :
    Except PatchFailure Fields := do
  let rule := patchEnable enable rule
  let rule ← patchAlias patch rule
  let rule ← patchNumber patch "channel" "invalid_channel" true rule
  let rule ← patchNumber patch "type" "invalid_type" false rule
  let rule ← patchNumber patch "week" "invalid_week" false rule
  let rule ← patchNumber patch "time" "invalid_time" false rule
  let rule ← patchNumber patch "sunOffset" "invalid_sunoffset" false rule
  let rule ← patchNumber patch "duration" "invalid_duration" false rule
  patchToggle toggleOnoff rule

/-! ### What a patch writes -/

/-- The value under `extend` has an `onoff` under `toggle`, and nothing but that is replaced. -/
def SwitchesAction (onoff : Json) (old new : Option Json) : Prop :=
  ∃ extend toggle, old = some (.obj extend) ∧ Assoc.get extend "toggle" = some (.obj toggle)
    ∧ (Assoc.get toggle "onoff").isSome ∧ ∃ extend' toggle', new = some (.obj extend')
    ∧ (∀ k ≠ "toggle", Assoc.get extend' k = Assoc.get extend k)
    ∧ Assoc.get extend' "toggle" = some (.obj toggle')
    ∧ (∀ k ≠ "onoff", Assoc.get toggle' k = Assoc.get toggle k)
    ∧ Assoc.get toggle' "onoff" = some onoff

/-- The edit of one of the numeric fields. -/
def numberEdit (patch : Json) (nonNegative : Bool) (field : String) : Assoc.Edit String Json where
  key := field
  due := patch.get? field ≠ none
  value _ new := ∃ n, asFiniteInt (patch.get? field) = some n ∧ (nonNegative = true → 0 ≤ n) ∧
    new = some (intNum n)

/-- The edit of `enable`. -/
def enableEdit (enable : Option ℤ) : Assoc.Edit String Json where
  key := "enable"
  due := enable ≠ none
  value _ new := new = enable.map intNum

/-- The edit of `alias`. -/
def aliasEdit (patch : Json) : Assoc.Edit String Json where
  key := "alias"
  due := patch.get? "alias" ≠ none
  value _ new := ∃ text,
    toText (coalesce (patch.get? "alias") (some (.str ""))) = .ok text ∧ new = some (.str text)

/-- The edit of `extend.toggle.onoff`. -/
def toggleEdit (toggleOnoff : Option ℤ) : Assoc.Edit String Json where
  key := "extend"
  due := toggleOnoff ≠ none
  value old new := ∃ n, toggleOnoff = some n ∧ SwitchesAction (intNum n) old new

/-- The edits of a patch. -/
def patchEdits (patch : Json) (enable toggleOnoff : Option ℤ) : List (Assoc.Edit String Json) :=
  [enableEdit enable, aliasEdit patch, numberEdit patch true "channel",
    numberEdit patch false "type", numberEdit patch false "week", numberEdit patch false "time",
    numberEdit patch false "sunOffset", numberEdit patch false "duration", toggleEdit toggleOnoff]

section PatchEdits

variable {patch : Json} {rule rule' : Fields}

lemma makes_patchEnable (enable : Option ℤ) :
    (enableEdit enable).Makes rule (patchEnable enable rule) := by
  cases enable with
  | none => exact Assoc.Edit.makes_of_not_due (e := enableEdit none) (fun h => h rfl) rule
  | some n => exact Assoc.Edit.makes_set (Option.some_ne_none n) rfl

lemma makes_patchAlias (h : patchAlias patch rule = .ok rule') :
    (aliasEdit patch).Makes rule rule' := by
  rw [patchAlias] at h
  split at h
  next hnone =>
    obtain rfl := Except.ok.inj h
    exact Assoc.Edit.makes_of_not_due (e := aliasEdit patch) (fun hdue => hdue hnone) rule
  next raw hraw =>
    split at h
    next => cases h
    next text htext =>
      obtain rfl := Except.ok.inj h
      rw [← hraw] at htext
      exact Assoc.Edit.makes_set (e := aliasEdit patch) (by simp [aliasEdit, hraw])
        ⟨text, htext, rfl⟩

lemma makes_patchNumber {field code : String} {nonNegative : Bool}
    (h : patchNumber patch field code nonNegative rule = .ok rule') :
    (numberEdit patch nonNegative field).Makes rule rule' := by
  rw [patchNumber] at h
  split at h
  next hnone =>
    obtain rfl := Except.ok.inj h
    exact Assoc.Edit.makes_of_not_due (e := numberEdit patch nonNegative field)
      (fun hdue => hdue hnone) rule
  next raw hraw =>
    split at h
    next => cases h
    next n hn =>
      split at h
      next => cases h
      next hvalid =>
        obtain rfl := Except.ok.inj h
        rw [← hraw] at hn
        refine Assoc.Edit.makes_set (e := numberEdit patch nonNegative field)
          (by simp [numberEdit, hraw]) ⟨n, hn, fun hneg => ?_, rfl⟩
        exact not_lt.mp fun hlt => hvalid ⟨hneg, hlt⟩

lemma record?_eq_some {v : Option Json} {fs : Fields} (h : v.bind Json.record? = some fs) :
    v = some (.obj fs) := by
  obtain ⟨w, rfl, hw⟩ := Option.bind_eq_some_iff.mp h
  cases w with
  | obj fs' => rw [Option.some.inj hw]
  | _ => cases hw

lemma makes_patchToggle {toggleOnoff : Option ℤ} (h : patchToggle toggleOnoff rule = .ok rule') :
    (toggleEdit toggleOnoff).Makes rule rule' := by
  cases toggleOnoff with
  | none =>
      obtain rfl := Except.ok.inj h
      exact Assoc.Edit.makes_of_not_due (e := toggleEdit none) (fun hdue => hdue rfl) rule
  | some n =>
      rw [patchToggle] at h
      split at h
      next => cases h
      next extend hextend =>
        split at h
        next => cases h
        next toggle htoggle =>
          split at h
          next honoff =>
            obtain rfl := Except.ok.inj h
            refine Assoc.Edit.makes_set (e := toggleEdit (some n)) (Option.some_ne_none n)
              ⟨n, rfl, extend, toggle, record?_eq_some hextend, record?_eq_some htoggle, honoff,
                _, _, rfl, fun k hk => Assoc.get_set_of_ne extend hk.symm _,
                Assoc.get_set_self extend _ _, fun k hk => Assoc.get_set_of_ne toggle hk.symm _,
                Assoc.get_set_self toggle _ _⟩
          next => cases h

/-- What the patch handler does to the rule are the edits of the patch. -/
lemma edits_patchTimerXRule {enable toggleOnoff : Option ℤ}
    (h : patchTimerXRule patch enable toggleOnoff rule = .ok rule') :
    Assoc.Edits (patchEdits patch enable toggleOnoff) rule rule' := by
  rw [patchTimerXRule] at h
  obtain ⟨r₁, h₁, h⟩ := bind_eq_ok h
  obtain ⟨r₂, h₂, h⟩ := bind_eq_ok h
  obtain ⟨r₃, h₃, h⟩ := bind_eq_ok h
  obtain ⟨r₄, h₄, h⟩ := bind_eq_ok h
  obtain ⟨r₅, h₅, h⟩ := bind_eq_ok h
  obtain ⟨r₆, h₆, h⟩ := bind_eq_ok h
  obtain ⟨r₇, h₇, h⟩ := bind_eq_ok h
  exact .cons (makes_patchEnable enable) <| .cons (makes_patchAlias h₁) <|
    .cons (makes_patchNumber h₂) <| .cons (makes_patchNumber h₃) <|
    .cons (makes_patchNumber h₄) <| .cons (makes_patchNumber h₅) <|
    .cons (makes_patchNumber h₆) <| .cons (makes_patchNumber h₇) <|
    .cons (makes_patchToggle h) (.nil rule')

/-- The keys that a patch may write. -/
lemma keys_patchEdits (patch : Json) (enable toggleOnoff : Option ℤ) :
    (patchEdits patch enable toggleOnoff).map Assoc.Edit.key
      = ["enable", "alias", "channel", "type", "week", "time", "sunOffset", "duration",
        "extend"] := rfl

/-- A patch keeps the id of the rule. -/
lemma id_patchTimerXRule {enable toggleOnoff : Option ℤ}
    (h : patchTimerXRule patch enable toggleOnoff rule = .ok rule') :
    Assoc.get rule' "id" = Assoc.get rule "id" := by
  refine (edits_patchTimerXRule h).frame fun e he _ hkey => ?_
  have hmem := List.mem_map_of_mem (f := Assoc.Edit.key) he
  rw [keys_patchEdits, ← hkey] at hmem
  exact absurd hmem (by decide)

end PatchEdits

/-! ### Reporting a patched rule -/

/-- `Number(v) === 1 ? 1 : 0`, as a number. -/
def coerce01 (v : Option Json) : Except String ℤ :=
  (toNumber v).map fun n => if n = .fin 1 then 1 else 0

/-- `...(raw.k !== undefined ? { k: convert(raw.k) } : {})`. -/
def optionalField (raw : Fields) (k : String) (convert : Json → Except String Json) :
    Except String Fields :=
  match Assoc.get raw k with
  | none => .ok []
  | some v => (convert v).map fun w => [(k, w)]

section OptionalField

variable {raw : Fields} {k : String} {convert : Json → Except String Json}

lemma optionalField_of_some {v : Json} (h : Assoc.get raw k = some v)
    (convert : Json → Except String Json) :
    optionalField raw k convert = (convert v).map fun w => [(k, w)] := by
  rw [optionalField, h]

lemma ok_optionalField_iff : (∃ fs, optionalField raw k convert = .ok fs)
    ↔ ∀ v, Assoc.get raw k = some v → ∃ w, convert v = .ok w := by
  cases hv : Assoc.get raw k with
  | none => exact iff_of_true ⟨[], by rw [optionalField, hv]⟩ fun v h => nomatch h
  | some v => rw [optionalField_of_some hv, ok_map_iff]; simp

end OptionalField

/-- `String(v ?? '')` throws only if `String(v)` does. -/
lemma ok_coalesce_iff (v : Json) :
    (∃ text, toText (coalesce (some v) (some (.str ""))) = .ok text)
      ↔ ∃ text, toText (some v) = .ok text := by
  cases v with
  | null => exact iff_of_true ⟨_, rfl⟩ ⟨_, rfl⟩
  | _ => exact Iff.rfl

/-- `parseTimerXRule`. -/
def parseTimerXRule (raw : Fields) : Except String Fields := do
  let number := fun v : Json => (toNumber (some v)).map Json.num
  let text := fun v : Json => (toText (coalesce (some v) (some (.str "")))).map Json.str
  let id ← toText (coalesce (Assoc.get raw "id") (some (.str "")))
  let enable ← optionalField raw "enable" fun v => (coerce01 (some v)).map intNum
  let channel ← optionalField raw "channel" number
  let alias_ ← optionalField raw "alias" text
  let type ← optionalField raw "type" number
  let week ← optionalField raw "week" number
  let time ← optionalField raw "time" number
  let sunOffset ← optionalField raw "sunOffset" number
  let duration ← optionalField raw "duration" number
  let extend ← optionalField raw "extend" .ok
  return [("id", .str (trim id))] ++ enable ++ channel ++ alias_ ++ type ++ week ++ time
    ++ sunOffset ++ duration ++ extend

/-! ### The handlers -/

/-- The fields of a patch, each of which makes the request one. -/
def patchFields : List String :=
  ["enable", "toggleOnoff", "alias", "channel", "type", "week", "time", "sunOffset", "duration"]

/-- `Number(raw) === 1 ? 1 : 0` if the patch has the field. -/
def patchFlag (patch : Json) (field : String) : Except String (Option ℤ) :=
  match patch.get? field with
  | none => .ok none
  | some raw => (coerce01 (some raw)).map some

/-- `isRecord(body.patch) ? body.patch : {}`. -/
def requestPatch (body : Json) : Json := .obj (((body.get? "patch").bind Json.record?).getD [])

/-- `createPatchDeviceTimerXHandler`. -/
def createPatchDeviceTimerXHandler (poller : Bool) (req : Request) : Async Response := do
  let body := parseJsonBody req
  let uuid ← textField body "uuid"
  let id := trim (← textField body "id")
  let patch := requestPatch body
  if uuid = "" then return apiErr "Missing uuid" "missing_uuid"
  else if id = "" then return apiErr "Missing id" "missing_id"
  else if patchFields.all fun field => (patch.get? field).isNone then
    return apiErr "No patch fields provided" "missing_fields"
  else
    let enable ← eval (patchFlag patch "enable")
    let toggleOnoff ← eval (patchFlag patch "toggleOnoff")
    tryCatch (do
      let host ← requireLanHost uuid
      let key ← requireLanKey
      let currentResp ← getTimerX host key id
      match currentRule "timerx" currentResp with
      | none => return apiErr "TimerX rule not found in response" "timerx_not_found"
      | some rule =>
          match patchTimerXRule patch enable toggleOnoff rule with
          | .error (.throws message) => throwNew message
          | .error (.answers message code) => return apiErr message code
          | .ok rule =>
              let resp ← setTimerX host key rule
              refreshAfter poller uuid
              let updated ← eval (parseTimerXRule rule)
              return apiOk [("host", host), ("id", .str id), ("updated", .obj updated),
                ("resp", resp)]) lanError

/-- `lanErrorCode` in a template. -/
def lanErrorText (resp : Json) : String :=
  match lanErrorCode resp with
  | none => "null"
  | some n => (Number.fin n).toText

/-- What the two delete handlers do with the rule: try to delete it, and disable it if
the device refuses. -/
def deleteRule (name code : String) (send : Fields → Async Json) (poller : Bool) (uuid id : String)
    (host : Json) (rule : Fields) : Async Response := do
  let rule := Assoc.set rule "enable" (intNum (-1))
  let resp ← send rule
  if refused resp then
    let rule := Assoc.set rule "enable" (intNum 0)
    let resp ← send rule
    if refused resp then
      return apiErr s!"{name} delete failed (error code {lanErrorText resp})" code (some resp)
    else
      refreshAfter poller uuid
      return apiOk [("host", host), ("id", .str id), ("deleted", .bool false),
        ("disabled", .bool true), ("resp", resp)]
  else
    refreshAfter poller uuid
    return apiOk [("host", host), ("id", .str id), ("deleted", .bool true),
      ("disabled", .bool false), ("resp", resp)]

/-- `createDeleteDeviceTimerXHandler`. -/
def createDeleteDeviceTimerXHandler (poller : Bool) (req : Request) : Async Response := do
  let body := parseJsonBody req
  let uuid ← textField body "uuid"
  let id := trim (← textField body "id")
  if uuid = "" then return apiErr "Missing uuid" "missing_uuid"
  else if id = "" then return apiErr "Missing id" "missing_id"
  else
    tryCatch (do
      let host ← requireLanHost uuid
      let key ← requireLanKey
      let currentResp ← getTimerX host key id
      match currentRule "timerx" currentResp with
      | none => return apiErr "TimerX rule not found in response" "timerx_not_found"
      | some rule =>
          deleteRule "TimerX" "timerx_delete_failed" (setTimerX host key) poller uuid id host
            rule) lanError

/-- `createDeleteDeviceTriggerXHandler`. A rule that cannot be read is replaced by one that
has only the id. -/
def createDeleteDeviceTriggerXHandler (poller : Bool) (req : Request) : Async Response := do
  let body := parseJsonBody req
  let uuid ← textField body "uuid"
  let id := trim (← textField body "id")
  if uuid = "" then return apiErr "Missing uuid" "missing_uuid"
  else if id = "" then return apiErr "Missing id" "missing_id"
  else
    tryCatch (do
      let host ← requireLanHost uuid
      let key ← requireLanKey
      let currentResp ← tryCatch (some <$> getTriggerX host key id) fun _ => pure none
      let rule := currentResp.bind (currentRule "triggerx")
      deleteRule "TriggerX" "triggerx_delete_failed" (setTriggerX host key) poller uuid id host
        (rule.getD [("id", .str id)])) lanError

/-- `createSetDeviceTimerXHandler` and `createSetDeviceTriggerXHandler`, which differ in the
name of the rule and in the message they send. -/
def setRule (field : String) (send : Json → Json → Fields → Async Json) (poller : Bool)
    (req : Request) : Async Response := do
  let body := parseJsonBody req
  let uuid ← textField body "uuid"
  let rule := (body.get? field).bind Json.record?
  let id := trim (← eval (toText (coalesce (rule.bind fun rule => Assoc.get rule "id")
    (some (.str "")))))
  if uuid = "" then return apiErr "Missing uuid" "missing_uuid"
  else
    match rule with
    | none => return apiErr s!"Missing {field}" s!"missing_{field}"
    | some rule =>
        if id = "" then return apiErr s!"Missing {field}.id" "missing_id"
        else
          tryCatch (do
            let host ← requireLanHost uuid
            let key ← requireLanKey
            let resp ← send host key rule
            refreshAfter poller uuid
            return apiOk [("host", host), ("id", .str id), ("resp", resp)]) lanError

/-- `createSetDeviceTimerXHandler`. -/
def createSetDeviceTimerXHandler : Bool → Request → Async Response := setRule "timer" setTimerX

/-- `createSetDeviceTriggerXHandler`. -/
def createSetDeviceTriggerXHandler : Bool → Request → Async Response :=
  setRule "trigger" setTriggerX

end Merossity
