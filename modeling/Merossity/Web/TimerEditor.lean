import Merossity.Api.PatchFrame
import Merossity.Api.TimerRules

/-!
The editor of timers, the form of `views/devices/DeviceCard.tsx`.

* `newTimer` and `editRule` open the form, and `TimerEditor.save` is the request of its button.
* A rule of the device is listed by the list handler before the form opens for it. `ShowsTimer`
  compares the form with the rule itself, and `opens_iff_shows` goes through the list once and for
  all.
-/

namespace Merossity

open Js

/-! ### The form -/

/-- The state of the form. -/
structure TimerEditor where
  create : Bool
  id : String
  alias_ : String
  channel : String
  enable : Bool
  type : String
  week : String
  time : String
  sunOffset : String
  duration : String
  toggleOnoff : Bool
  deriving DecidableEq

/-- The button `New timer`, with the random id. -/
def newTimer (id : String) : TimerEditor where
  create := true
  id := id
  alias_ := ""
  channel := "0"
  enable := true
  type := "0"
  week := "0"
  time := "-1"
  sunOffset := "0"
  duration := "0"
  toggleOnoff := true

/-- `toggleOnoffFromExtend`. -/
def toggleOnoffFromExtend (extend : Option Json) : Except String (Option ℤ) :=
  match (extend.bind Json.record?).bind fun ex => (Assoc.get ex "toggle").bind Json.record? with
  | none => .ok none
  | some toggle =>
      match Assoc.get toggle "onoff" with
      | none => .ok none
      | some onoff => (coerce01 (some onoff)).map some

/-- `String(t.k ?? value)`, as all texts of the form but the id are made. -/
def ruleText (t : Fields) (k : String) (value : Json) : Except String String :=
  toText (coalesce (Assoc.get t k) (some value))

/-- `v === 1`. -/
def isOne : Option Json → Bool
  | some (.num n) => n = .fin 1
  | _ => false

/-- The button `Edit` of a timer of the list. -/
def editRule (t : Fields) : Except String TimerEditor := do
  let action ← toggleOnoffFromExtend (Assoc.get t "extend")
  return {
    create := false
    id := ((Assoc.get t "id").bind Json.str?).getD ""
    alias_ := ← ruleText t "alias" (.str "")
    channel := ← ruleText t "channel" (intNum 0)
    enable := isOne (Assoc.get t "enable")
    type := ← ruleText t "type" (intNum 0)
    week := ← ruleText t "week" (intNum 0)
    time := ← ruleText t "time" (intNum (-1))
    sunOffset := ← ruleText t "sunOffset" (intNum 0)
    duration := ← ruleText t "duration" (intNum 0)
    toggleOnoff := action.getD 0 = 1 }

/-- `on ? 1 : 0`. -/
def switchNum (on : Bool) : Json := intNum (if on then 1 else 0)

/-- `Number(text)` inside a body: `JSON.stringify` writes a number that is not finite as `null`. -/
def sentNumber (text : String) : Json :=
  match numberOfString text with
  | .fin q => .num (.fin q)
  | _ => .null

namespace TimerEditor

/-- The rule of a new timer. -/
def timer (e : TimerEditor) : Fields :=
  [("id", .str (trim e.id)), ("alias", .str e.alias_), ("channel", sentNumber e.channel),
    ("enable", switchNum e.enable), ("type", sentNumber e.type), ("week", sentNumber e.week),
    ("time", sentNumber e.time), ("sunOffset", sentNumber e.sunOffset),
    ("duration", sentNumber e.duration),
    ("extend", .obj [("toggle", .obj [("onoff", switchNum e.toggleOnoff)])]),
    ("createTime", intNum 0)]

/-- The patch of a timer that exists. -/
def patch (e : TimerEditor) : Fields :=
  [("alias", .str e.alias_), ("channel", sentNumber e.channel), ("enable", switchNum e.enable),
    ("type", sentNumber e.type), ("week", sentNumber e.week), ("time", sentNumber e.time),
    ("sunOffset", sentNumber e.sunOffset), ("duration", sentNumber e.duration),
    ("toggleOnoff", switchNum e.toggleOnoff)]

/-- The body of the request. -/
def body (uuid : String) (e : TimerEditor) : Json :=
  if e.create then .obj [("uuid", .str uuid), ("timer", .obj e.timer)]
  else .obj [("uuid", .str uuid), ("id", .str (trim e.id)), ("patch", .obj e.patch)]

/-- The handler of the request. -/
def handler (e : TimerEditor) : Bool → Request → Async Response :=
  if e.create then createSetDeviceTimerXHandler else createPatchDeviceTimerXHandler

/-- The button `Save`: a message, or the request. -/
def save (uuid : String) (e : TimerEditor) : Except String Request :=
  if trim e.id = "" then .error "Missing timer id"
  else .ok ⟨"application/json", some (e.body uuid)⟩

/-- The texts of the numbers, under the keys of the rule. -/
def numbers (e : TimerEditor) : List (String × String) :=
  [("channel", e.channel), ("type", e.type), ("week", e.week), ("time", e.time),
    ("sunOffset", e.sunOffset), ("duration", e.duration)]

end TimerEditor

/-! ### A rule in the list -/

lemma get_fieldOf (rule : Fields) (k : String) : Assoc.get (fieldOf k rule) k = Assoc.get rule k := by
  induction rule with
  | nil => rfl
  | cons e rule ih =>
      obtain ⟨j, v⟩ := e
      by_cases hj : j = k
      · rw [fieldOf, List.filter_cons_of_pos (by simpa using hj), Assoc.get_cons, Assoc.get_cons,
          if_pos hj, if_pos hj]
      · rw [fieldOf, List.filter_cons_of_neg (by simpa using hj), Assoc.get_cons, if_neg hj]
        exact ih

/-- The integer that the list shows under a key, or what the form has in its place. -/
def shownInt (raw : Fields) (k : String) (value : ℤ) : String :=
  (Number.fin ((asFiniteInt (Assoc.get raw k)).getD value : ℤ)).toText

/-- What the form reads of a rule of the list. -/
structure ListedAs (raw listed : Fields) : Prop where
  id : ∃ text, toText (coalesce (Assoc.get raw "id") (some (.str ""))) = .ok text ∧
    Assoc.get listed "id" = some (.str (trim text))
  alias_ : ∃ text, toText (coalesce (Assoc.get raw "alias") (some (.str ""))) = .ok text ∧
    ruleText listed "alias" (.str "") = .ok text
  enable : ∃ n, coerce01 (Assoc.get raw "enable") = .ok n ∧
    isOne (Assoc.get listed "enable") = decide (n = 1)
  number : ∀ k ∈ ruleNumbers, ∀ value : ℤ,
    ruleText listed k (intNum value) = .ok (shownInt raw k value)
  extend : Assoc.get listed "extend" = Assoc.get raw "extend"

lemma listedAs_of_parse {raw listed : Fields}
    (h : GetDeviceTimerX.parseTimerXRule raw = .ok listed) : ListedAs raw listed := by
  have hnumber := field_list h
  rw [GetDeviceTimerX.parseTimerXRule] at h
  obtain ⟨id, hid, h⟩ := bind_eq_ok h
  obtain ⟨enable, henable, h⟩ := bind_eq_ok h
  obtain ⟨alias_, halias, h⟩ := bind_eq_ok h
  obtain ⟨extend, hextend, h⟩ := bind_eq_ok h
  have hlisted := (Except.ok.inj h).symm
  let pieces : List (String × Fields) := [("id", [("id", .str (trim id))]), ("enable", enable),
    ("channel", GetDeviceTimerX.optionalInt raw "channel"), ("alias", alias_),
    ("type", GetDeviceTimerX.optionalInt raw "type"),
    ("week", GetDeviceTimerX.optionalInt raw "week"),
    ("time", GetDeviceTimerX.optionalInt raw "time"),
    ("sunOffset", GetDeviceTimerX.optionalInt raw "sunOffset"),
    ("duration", GetDeviceTimerX.optionalInt raw "duration"), ("extend", extend)]
  have hunder : ∀ p ∈ pieces, ∀ e ∈ p.2, e.1 = p.1 := by
    simp only [pieces, List.forall_mem_cons]
    exact ⟨by simp, under_optionalField henable, under_optionalInt raw _,
      under_optionalField halias, under_optionalInt raw _, under_optionalInt raw _,
      under_optionalInt raw _, under_optionalInt raw _, under_optionalInt raw _,
      under_optionalField hextend, List.forall_mem_nil _⟩
  have hflat : pieces.flatMap Prod.snd = listed := by
    rw [hlisted]
    simp [pieces]
  have hget : ∀ k fs, (k, fs) ∈ pieces → Assoc.get listed k = Assoc.get fs k := by
    intro k fs hmem
    rw [← get_fieldOf listed, ← hflat, fieldOf_flatMap hunder (by simp [pieces]) hmem]
  constructor
  · refine ⟨id, hid, ?_⟩
    rw [hget "id" [("id", .str (trim id))] (by simp [pieces])]
    rfl
  · rw [ruleText, hget "alias" alias_ (by simp [pieces])]
    rw [optionalField] at halias
    split at halias
    next hnone =>
      obtain rfl := Except.ok.inj halias
      rw [hnone]
      exact ⟨"", rfl, rfl⟩
    next v hv =>
      obtain ⟨w, hw, rfl⟩ := map_eq_ok halias
      obtain ⟨text, htext, rfl⟩ := map_eq_ok hw
      rw [hv]
      exact ⟨text, htext, rfl⟩
  · rw [hget "enable" enable (by simp [pieces])]
    rw [optionalField] at henable
    split at henable
    next hnone =>
      obtain rfl := Except.ok.inj henable
      rw [hnone]
      exact ⟨0, rfl, rfl⟩
    next v hv =>
      obtain ⟨w, hw, rfl⟩ := map_eq_ok henable
      obtain ⟨n, hn, rfl⟩ := map_eq_ok hw
      rw [hv]
      refine ⟨n, hn, ?_⟩
      rw [Assoc.get_cons, if_pos rfl, intNum, isOne]
      simp
  · intro k hk value
    rw [ruleText, ← get_fieldOf, hnumber k hk, GetDeviceTimerX.optionalInt, shownInt]
    cases asFiniteInt (Assoc.get raw k) with
    | none => rfl
    | some n =>
        dsimp only
        rw [Assoc.get_cons, if_pos rfl]
        rfl
  · rw [hget "extend" extend (by simp [pieces])]
    rw [optionalField] at hextend
    split at hextend
    next hnone =>
      obtain rfl := Except.ok.inj hextend
      rw [hnone]
      rfl
    next v hv =>
      obtain ⟨w, hw, rfl⟩ := map_eq_ok hextend
      obtain rfl := Except.ok.inj hw
      rw [hv, Assoc.get_cons, if_pos rfl]

/-- What the form has in place of a number that the rule lacks. -/
def numberDefault (k : String) : ℤ := if k = "time" then -1 else 0

/-- The list has the rule, and the form that opens for it is `e`. -/
def OpensTimer (raw : Fields) (e : TimerEditor) : Prop :=
  ∃ listed, GetDeviceTimerX.parseTimerXRule raw = .ok listed ∧ editRule listed = .ok e

/-- The form against the rule of the device. -/
structure ShowsTimer (raw : Fields) (e : TimerEditor) : Prop where
  edits : e.create = false
  id : ruleId (.obj raw) = some e.id
  alias_ : toText (coalesce (Assoc.get raw "alias") (some (.str ""))) = .ok e.alias_
  enable : ∃ n, coerce01 (Assoc.get raw "enable") = .ok n ∧ e.enable = decide (n = 1)
  number : ∀ p ∈ e.numbers, p.2 = shownInt raw p.1 (numberDefault p.1)
  toggle : ∃ action, toggleOnoffFromExtend (Assoc.get raw "extend") = .ok action ∧
    e.toggleOnoff = decide (action.getD 0 = 1)

section Opening

variable {raw listed : Fields}

lemma ruleId_of_hasRuleId (h : hasRuleId raw = true) {text : String}
    (htext : toText (coalesce (Assoc.get raw "id") (some (.str ""))) = .ok text) :
    ruleId (.obj raw) = some (trim text) := by
  obtain ⟨id, hid⟩ := exists_id_of_hasRuleId h
  rw [hid] at htext
  obtain rfl := Except.ok.inj htext
  rw [ruleId, Json.get?_obj, hid]
  rfl

/-- The form that opens for a rule of the list. -/
lemma editRule_listed (h : ListedAs raw listed) {alias_ id : String} {n : ℤ}
    (hid : Assoc.get listed "id" = some (.str id))
    (halias : ruleText listed "alias" (.str "") = .ok alias_)
    (henable : isOne (Assoc.get listed "enable") = decide (n = 1)) :
    editRule listed = (toggleOnoffFromExtend (Assoc.get raw "extend")).map fun action =>
      ⟨false, id, alias_, shownInt raw "channel" 0, decide (n = 1), shownInt raw "type" 0,
        shownInt raw "week" 0, shownInt raw "time" (-1), shownInt raw "sunOffset" 0,
        shownInt raw "duration" 0, decide (action.getD 0 = 1)⟩ := by
  rw [editRule, h.extend, halias, hid, henable, h.number "channel" (by decide),
    h.number "type" (by decide), h.number "week" (by decide), h.number "time" (by decide),
    h.number "sunOffset" (by decide), h.number "duration" (by decide)]
  cases toggleOnoffFromExtend (Assoc.get raw "extend") <;> rfl

lemma shows_of_opens (hid : hasRuleId raw = true) {e : TimerEditor} (h : OpensTimer raw e) :
    ShowsTimer raw e := by
  obtain ⟨listed, hlisted, he⟩ := h
  have has := listedAs_of_parse hlisted
  obtain ⟨id, htext, hget⟩ := has.id
  obtain ⟨alias_, halias, hshown⟩ := has.alias_
  obtain ⟨n, hn, henable⟩ := has.enable
  rw [editRule_listed has hget hshown henable] at he
  obtain ⟨action, haction, rfl⟩ := map_eq_ok he
  refine ⟨rfl, ruleId_of_hasRuleId hid htext, halias, ⟨n, hn, rfl⟩, ?_, ⟨action, haction, rfl⟩⟩
  simp [TimerEditor.numbers, numberDefault]

lemma opens_of_shows (hid : hasRuleId raw = true) {e : TimerEditor} (h : ShowsTimer raw e) :
    OpensTimer raw e := by
  obtain ⟨n, hn, henable⟩ := h.enable
  obtain ⟨action, haction, htoggle⟩ := h.toggle
  have hconvertible : ConvertibleRule raw := by
    refine ⟨fun v hv => ?_, fun v hv => ?_⟩
    · rw [hv] at hn
      obtain ⟨number, hnumber, -⟩ := map_eq_ok hn
      exact ⟨number, hnumber⟩
    · have halias := h.alias_
      rw [hv] at halias
      exact (ok_coalesce_iff v).mp ⟨_, halias⟩
  obtain ⟨listed, hlisted⟩ := (ok_list_iff hid).mpr hconvertible
  have has := listedAs_of_parse hlisted
  obtain ⟨id, htext, hget⟩ := has.id
  obtain ⟨alias_, halias, hshown⟩ := has.alias_
  obtain ⟨n', hn', henable'⟩ := has.enable
  obtain rfl := Except.ok.inj (hn.symm.trans hn')
  refine ⟨listed, hlisted, ?_⟩
  rw [editRule_listed has hget hshown henable', haction]
  have hname := h.id
  rw [ruleId_of_hasRuleId hid htext] at hname
  rw [h.alias_] at halias
  obtain ⟨create, id, alias_, channel, enable, type, week, time, sunOffset, duration, toggle⟩ := e
  have hnumber := h.number
  have hedits := h.edits
  simp only [TimerEditor.numbers, List.forall_mem_cons, numberDefault] at hnumber
  simp_all [Except.map]

/-- The form opens for a rule exactly as it shows it. -/
lemma opens_iff_shows (hid : hasRuleId raw = true) {e : TimerEditor} :
    OpensTimer raw e ↔ ShowsTimer raw e :=
  ⟨shows_of_opens hid, opens_of_shows hid⟩

end Opening

end Merossity
