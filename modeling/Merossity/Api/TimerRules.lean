import Merossity.Api.Rgb
import Merossity.Api.ScheduleHandlers

/-!
The two descriptions of a timer: `parseTimerXRule` of `patch-device-timerx.ts` and of
`get-device-timerx.ts`.

* `GetDeviceTimerX.parseTimerXRule` is the parser of the list handler. It rounds the numeric
  fields and gives none that cannot be read (`optionalInt`), where the parser of the patch handler
  reports whatever `Number` makes of them.
* `field_patch` and `field_list` read one field back from the reported rule, so that two rules are
  compared field by field; `number_eq_optionalInt_iff` is the comparison of one numeric field.
* `describesAlike_iff`: the two parsers describe a rule alike exactly if each numeric field that it
  has is the numeral of an integer, or neither of them describes it.
-/

namespace Merossity

open Js

/-! ### The parser of the list handler -/

namespace GetDeviceTimerX

/-- `...(raw.k !== undefined ? { k: coerceInt(raw.k) } : {})`. A property that is `undefined` is
none of the object that the handler sends. -/
def optionalInt (raw : Fields) (k : String) : Fields :=
  match asFiniteInt (Assoc.get raw k) with
  | none => []
  | some n => [(k, intNum n)]

/-- `parseTimerXRule`. -/
def parseTimerXRule (raw : Fields) : Except String Fields := do
  let text := fun v : Json => (toText (coalesce (some v) (some (.str "")))).map Json.str
  let id ← toText (coalesce (Assoc.get raw "id") (some (.str "")))
  let enable ← optionalField raw "enable" fun v => (coerce01 (some v)).map intNum
  let channel := optionalInt raw "channel"
  let alias_ ← optionalField raw "alias" text
  let type := optionalInt raw "type"
  let week := optionalInt raw "week"
  let time := optionalInt raw "time"
  let sunOffset := optionalInt raw "sunOffset"
  let duration := optionalInt raw "duration"
  let extend ← optionalField raw "extend" .ok
  return [("id", .str (trim id))] ++ enable ++ channel ++ alias_ ++ type ++ week ++ time
    ++ sunOffset ++ duration ++ extend

end GetDeviceTimerX

/-! ### One numeric field -/

/-- The conversion of a numeric field by the parser of the patch handler. -/
def reportNumber (v : Json) : Except String Json := (toNumber (some v)).map Json.num

/-- The value of a field is the numeral of an integer. -/
def IsIntegral (v : Json) : Prop := ∃ n : ℤ, IsNumeral v n

lemma round_intCast (n : ℤ) : Number.round (n : ℚ) = n := by
  rw [Number.round_eq_floor, Int.floor_eq_iff]
  constructor <;> linarith

/-- The number of a numeral. -/
lemma reportNumber_numeral {v : Json} {q : ℚ} (h : IsNumeral v q) :
    reportNumber v = .ok (.num (.fin q)) := by
  rcases h with _ | ⟨_, hq⟩
  · rfl
  · rw [reportNumber, toNumber, hq]
    rfl

/-- Both parsers report the same of a numeric field exactly if it is integral. -/
lemma number_eq_optionalInt_iff (raw : Fields) (k : String) :
    optionalField raw k reportNumber = .ok (GetDeviceTimerX.optionalInt raw k)
      ↔ ∀ v, Assoc.get raw k = some v → IsIntegral v := by
  cases hv : Assoc.get raw k with
  | none =>
      rw [optionalField, GetDeviceTimerX.optionalInt, hv]
      refine iff_of_true rfl fun v h => ?_
      cases h
  | some v =>
      rw [optionalField_of_some hv, GetDeviceTimerX.optionalInt, hv, asFiniteInt]
      have hall : (∀ w, some v = some w → IsIntegral w) ↔ IsIntegral v :=
        ⟨fun h => h v rfl, fun h w hw => Option.some.inj hw ▸ h⟩
      rw [hall]
      cases hq : coerceFiniteNumber (some v) with
      | none =>
          -- the list handler leaves the field out, and the other one does not
          refine iff_of_false (fun h => ?_) ?_
          · obtain ⟨w, -, hw⟩ := map_eq_ok h
            cases hw
          · rintro ⟨n, hn⟩
            rw [coerceFiniteNumber_eq_some_iff.mpr hn] at hq
            cases hq
      | some q =>
          have hnum := coerceFiniteNumber_eq_some_iff.mp hq
          rw [reportNumber_numeral hnum]
          constructor
          · intro h
            have hround : q = Number.round q := by
              simpa [Except.map, intNum] using h
            exact ⟨Number.round q, hround ▸ hnum⟩
          · rintro ⟨n, hn⟩
            have hqn : some (n : ℚ) = some q := by
              rw [← coerceFiniteNumber_eq_some_iff.mpr hn, hq]
            obtain rfl := Option.some.inj hqn
            simp [Except.map, intNum, round_intCast]

/-! ### The fields of a reported rule -/

/-- The numeric fields of a rule. -/
def ruleNumbers : List String := ["channel", "type", "week", "time", "sunOffset", "duration"]

/-- The entries under one key. -/
def fieldOf (k : String) (rule : Fields) : Fields := rule.filter fun e => e.1 = k

lemma fieldOf_append (k : String) (a b : Fields) :
    fieldOf k (a ++ b) = fieldOf k a ++ fieldOf k b :=
  List.filter_append a b

lemma fieldOf_under {j : String} {fs : Fields} (h : ∀ e ∈ fs, e.1 = j) (k : String) :
    fieldOf k fs = if j = k then fs else [] := by
  rw [fieldOf]
  split
  next hjk => exact List.filter_eq_self.mpr fun e he => decide_eq_true ((h e he).trans hjk)
  next hjk =>
    exact List.filter_eq_nil_iff.mpr fun e he hk => hjk ((h e he).symm.trans (of_decide_eq_true hk))

lemma under_optionalField {raw fs : Fields} {j : String} {convert : Json → Except String Json}
    (h : optionalField raw j convert = .ok fs) : ∀ e ∈ fs, e.1 = j := by
  rw [optionalField] at h
  split at h
  next =>
    obtain rfl := Except.ok.inj h
    exact List.forall_mem_nil _
  next v _ =>
    obtain ⟨w, -, rfl⟩ := map_eq_ok h
    simp

lemma under_optionalInt (raw : Fields) (j : String) :
    ∀ e ∈ GetDeviceTimerX.optionalInt raw j, e.1 = j := by
  rw [GetDeviceTimerX.optionalInt]
  split <;> simp

/-- A rule put together from its fields, each present or not, is read field by field. -/
lemma fieldOf_flatMap {pieces : List (String × Fields)}
    (hunder : ∀ p ∈ pieces, ∀ e ∈ p.2, e.1 = p.1) (hkeys : (pieces.map Prod.fst).Nodup)
    {k : String} {fs : Fields} (hmem : (k, fs) ∈ pieces) :
    fieldOf k (pieces.flatMap Prod.snd) = fs := by
  induction pieces with
  | nil => cases hmem
  | cons p pieces ih =>
      obtain ⟨j, gs⟩ := p
      rw [List.map_cons, List.nodup_cons] at hkeys
      have hhead := fieldOf_under (hunder _ List.mem_cons_self) k
      rw [List.flatMap_cons, fieldOf_append, hhead]
      rcases List.mem_cons.mp hmem with h | h
      · obtain ⟨rfl, rfl⟩ := Prod.mk.inj h
        have hrest : fieldOf k (pieces.flatMap Prod.snd) = [] := by
          refine List.filter_eq_nil_iff.mpr fun e he hk => hkeys.1 ?_
          obtain ⟨q, hq, he⟩ := List.mem_flatMap.mp he
          rw [← of_decide_eq_true hk, hunder q (List.mem_cons_of_mem _ hq) e he]
          exact List.mem_map_of_mem hq
        rw [if_pos rfl, hrest, List.append_nil]
      · have hk : k ∈ pieces.map Prod.fst := List.mem_map_of_mem (f := Prod.fst) h
        have hjk : j ≠ k := fun hjk => hkeys.1 (hjk ▸ hk)
        rw [if_neg hjk, List.nil_append]
        exact ih (fun q hq => hunder q (List.mem_cons_of_mem _ hq)) hkeys.2 h

lemma fieldOf_rule {id enable channel alias_ type week time sunOffset duration extend : Fields}
    (hid : ∀ e ∈ id, e.1 = "id") (henable : ∀ e ∈ enable, e.1 = "enable")
    (hchannel : ∀ e ∈ channel, e.1 = "channel") (halias : ∀ e ∈ alias_, e.1 = "alias")
    (htype : ∀ e ∈ type, e.1 = "type") (hweek : ∀ e ∈ week, e.1 = "week")
    (htime : ∀ e ∈ time, e.1 = "time") (hsunOffset : ∀ e ∈ sunOffset, e.1 = "sunOffset")
    (hduration : ∀ e ∈ duration, e.1 = "duration") (hextend : ∀ e ∈ extend, e.1 = "extend")
    {k : String} {fs : Fields}
    (hmem : (k, fs) ∈ [("channel", channel), ("type", type), ("week", week), ("time", time),
      ("sunOffset", sunOffset), ("duration", duration)]) :
    fieldOf k (id ++ enable ++ channel ++ alias_ ++ type ++ week ++ time ++ sunOffset ++ duration
      ++ extend) = fs := by
  let pieces := [("id", id), ("enable", enable), ("channel", channel), ("alias", alias_),
    ("type", type), ("week", week), ("time", time), ("sunOffset", sunOffset),
    ("duration", duration), ("extend", extend)]
  have hunder : ∀ p ∈ pieces, ∀ e ∈ p.2, e.1 = p.1 := by
    simp only [pieces, List.forall_mem_cons]
    exact ⟨hid, henable, hchannel, halias, htype, hweek, htime, hsunOffset, hduration, hextend,
      fun p hp => nomatch hp⟩
  have hkeys : (pieces.map Prod.fst).Nodup := by simp [pieces]
  have hsub : (k, fs) ∈ pieces := by
    simp only [List.mem_cons, List.not_mem_nil, or_false] at hmem
    rcases hmem with h | h | h | h | h | h <;> simp [pieces, h]
  have hflat : pieces.flatMap Prod.snd = id ++ enable ++ channel ++ alias_ ++ type ++ week ++ time
      ++ sunOffset ++ duration ++ extend := by
    simp [pieces]
  rw [← hflat]
  exact fieldOf_flatMap hunder hkeys hsub

section Reported

variable {raw rule : Fields}

/-- The numeric fields that the patch handler reports. -/
lemma field_patch (h : parseTimerXRule raw = .ok rule) :
    ∀ k ∈ ruleNumbers, optionalField raw k reportNumber = .ok (fieldOf k rule) := by
  rw [parseTimerXRule] at h
  obtain ⟨id, -, h⟩ := bind_eq_ok h
  obtain ⟨enable, henable, h⟩ := bind_eq_ok h
  obtain ⟨channel, hchannel, h⟩ := bind_eq_ok h
  obtain ⟨alias_, halias, h⟩ := bind_eq_ok h
  obtain ⟨type, htype, h⟩ := bind_eq_ok h
  obtain ⟨week, hweek, h⟩ := bind_eq_ok h
  obtain ⟨time, htime, h⟩ := bind_eq_ok h
  obtain ⟨sunOffset, hsunOffset, h⟩ := bind_eq_ok h
  obtain ⟨duration, hduration, h⟩ := bind_eq_ok h
  obtain ⟨extend, hextend, h⟩ := bind_eq_ok h
  obtain rfl := Except.ok.inj h
  have hread : ∀ k fs, (k, fs) ∈ _ → fieldOf k _ = fs := fun k fs =>
    fieldOf_rule (by simp : ∀ e ∈ [("id", Json.str (trim id))], e.1 = "id")
      (under_optionalField henable) (under_optionalField hchannel) (under_optionalField halias)
      (under_optionalField htype) (under_optionalField hweek) (under_optionalField htime)
      (under_optionalField hsunOffset) (under_optionalField hduration) (under_optionalField hextend)
  intro k hk
  simp only [ruleNumbers, List.mem_cons, List.not_mem_nil, or_false] at hk
  rcases hk with rfl | rfl | rfl | rfl | rfl | rfl
  · rw [hread _ channel (by simp)]; exact hchannel
  · rw [hread _ type (by simp)]; exact htype
  · rw [hread _ week (by simp)]; exact hweek
  · rw [hread _ time (by simp)]; exact htime
  · rw [hread _ sunOffset (by simp)]; exact hsunOffset
  · rw [hread _ duration (by simp)]; exact hduration

/-- The numeric fields that the list handler gives. -/
lemma field_list (h : GetDeviceTimerX.parseTimerXRule raw = .ok rule) :
    ∀ k ∈ ruleNumbers, fieldOf k rule = GetDeviceTimerX.optionalInt raw k := by
  rw [GetDeviceTimerX.parseTimerXRule] at h
  obtain ⟨id, -, h⟩ := bind_eq_ok h
  obtain ⟨enable, henable, h⟩ := bind_eq_ok h
  obtain ⟨alias_, halias, h⟩ := bind_eq_ok h
  obtain ⟨extend, hextend, h⟩ := bind_eq_ok h
  obtain rfl := Except.ok.inj h
  intro k hk
  refine fieldOf_rule (by simp) (under_optionalField henable) (under_optionalInt raw _)
    (under_optionalField halias) (under_optionalInt raw _) (under_optionalInt raw _)
    (under_optionalInt raw _) (under_optionalInt raw _) (under_optionalInt raw _)
    (under_optionalField hextend) ?_
  simp only [ruleNumbers, List.mem_cons, List.not_mem_nil, or_false] at hk
  rcases hk with rfl | rfl | rfl | rfl | rfl | rfl <;> simp

/-! ### The two descriptions -/

/-- What can be converted without a throw: `enable` to a number and `alias` to text. -/
def ConvertibleRule (raw : Fields) : Prop :=
  (∀ v, Assoc.get raw "enable" = some v → ∃ n, toNumber (some v) = .ok n)
    ∧ ∀ v, Assoc.get raw "alias" = some v → ∃ text, toText (some v) = .ok text

/-- The patch handler reports the rule that the list handler gives, and each of them fails with
the other one. -/
def DescribesAlike (raw : Fields) : Prop :=
  ∀ rule, parseTimerXRule raw = .ok rule ↔ GetDeviceTimerX.parseTimerXRule raw = .ok rule

/-- The two conversions that the parsers have in common do not throw. -/
lemma convertibleRule_iff :
    ConvertibleRule raw ↔
      (∃ fs, optionalField raw "enable" (fun v => (coerce01 (some v)).map intNum) = .ok fs)
      ∧ ∃ fs, optionalField raw "alias"
        (fun v => (toText (coalesce (some v) (some (.str "")))).map Json.str) = .ok fs := by
  rw [ok_optionalField_iff, ok_optionalField_iff, ConvertibleRule]
  simp only [coerce01, ok_map_iff, ok_coalesce_iff]

lemma convertibleRule_of_patch (h : parseTimerXRule raw = .ok rule) : ConvertibleRule raw := by
  rw [parseTimerXRule] at h
  obtain ⟨id, -, h⟩ := bind_eq_ok h
  obtain ⟨enable, henable, h⟩ := bind_eq_ok h
  obtain ⟨channel, -, h⟩ := bind_eq_ok h
  obtain ⟨alias_, halias, -⟩ := bind_eq_ok h
  exact convertibleRule_iff.mpr ⟨⟨enable, henable⟩, ⟨alias_, halias⟩⟩

/-- The list handler reads a rule with an id exactly if the two conversions do not throw. -/
lemma ok_list_iff (hid : hasRuleId raw = true) :
    (∃ rule, GetDeviceTimerX.parseTimerXRule raw = .ok rule) ↔ ConvertibleRule raw := by
  rw [convertibleRule_iff]
  constructor
  · rintro ⟨rule, h⟩
    rw [GetDeviceTimerX.parseTimerXRule] at h
    obtain ⟨id, -, h⟩ := bind_eq_ok h
    obtain ⟨enable, henable, h⟩ := bind_eq_ok h
    obtain ⟨alias_, halias, -⟩ := bind_eq_ok h
    exact ⟨⟨enable, henable⟩, ⟨alias_, halias⟩⟩
  · rintro ⟨⟨enable, henable⟩, ⟨alias_, halias⟩⟩
    obtain ⟨id, hid⟩ := exists_id_of_hasRuleId hid
    obtain ⟨extend, hextend⟩ : ∃ fs, optionalField raw "extend" .ok = .ok fs :=
      ok_optionalField_iff.mpr fun v _ => ⟨v, rfl⟩
    rw [GetDeviceTimerX.parseTimerXRule, hid, henable, halias, hextend]
    exact ⟨_, rfl⟩

/-- Both parsers do the same where every numeric field is integral. -/
lemma parse_eq_of_integral
    (h : ∀ k ∈ ruleNumbers, ∀ v, Assoc.get raw k = some v → IsIntegral v) :
    parseTimerXRule raw = GetDeviceTimerX.parseTimerXRule raw := by
  have hnumber : ∀ k ∈ ruleNumbers,
      (optionalField raw k fun v => (toNumber (some v)).map Json.num)
        = .ok (GetDeviceTimerX.optionalInt raw k) :=
    fun k hk => (number_eq_optionalInt_iff raw k).mpr (h k hk)
  rw [parseTimerXRule, GetDeviceTimerX.parseTimerXRule, hnumber "channel" (by simp [ruleNumbers]),
    hnumber "type" (by simp [ruleNumbers]), hnumber "week" (by simp [ruleNumbers]),
    hnumber "time" (by simp [ruleNumbers]), hnumber "sunOffset" (by simp [ruleNumbers]),
    hnumber "duration" (by simp [ruleNumbers])]
  rfl

/-- **The two handlers describe a timer alike** exactly if each numeric field of the rule is the
numeral of an integer, or neither of them can convert the rule. -/
theorem describesAlike_iff (hid : hasRuleId raw = true) :
    DescribesAlike raw ↔ (ConvertibleRule raw →
      ∀ k ∈ ruleNumbers, ∀ v, Assoc.get raw k = some v → IsIntegral v) := by
  constructor
  · intro halike hconvertible k hk
    obtain ⟨rule, hlist⟩ := (ok_list_iff hid).mpr hconvertible
    have hpatch := field_patch ((halike rule).mpr hlist) k hk
    rw [field_list hlist k hk] at hpatch
    exact (number_eq_optionalInt_iff raw k).mp hpatch
  · intro h rule
    by_cases hconvertible : ConvertibleRule raw
    · rw [parse_eq_of_integral (h hconvertible)]
    · refine iff_of_false (fun hpatch => hconvertible (convertibleRule_of_patch hpatch))
        fun hlist => ?_
      exact hconvertible ((ok_list_iff hid).mp ⟨rule, hlist⟩)

end Reported

/-- A rule with numerals in both spellings is described alike. -/
theorem describesAlike_numerals :
    DescribesAlike [("id", .str "a"), ("week", .str " 17 "), ("time", .num (.fin 420))] := by
  refine (describesAlike_iff (by decide)).mpr fun _ k hk v hv => ?_
  have hv : ("week" = k ∧ v = .str " 17 ") ∨ ("time" = k ∧ v = .num (.fin 420)) := by
    simp only [ruleNumbers, List.mem_cons, List.not_mem_nil, or_false] at hk
    rcases hk with rfl | rfl | rfl | rfl | rfl | rfl <;> simp_all [Assoc.get]
  rcases hv with ⟨-, rfl⟩ | ⟨-, rfl⟩
  · exact ⟨17, .str (by decide) (by decide +kernel)⟩
  · exact ⟨420, .num 420⟩

/-- A timer whose channel is null: channel 0 after a patch, and no channel in the list. -/
theorem not_describesAlike_null : hasRuleId [("id", .str "a"), ("channel", .null)] = true
    ∧ ¬DescribesAlike [("id", .str "a"), ("channel", .null)] := by
  refine ⟨by decide, fun h => ?_⟩
  have hlist := (h [("id", .str "a"), ("channel", intNum 0)]).mp rfl
  cases hlist

end Merossity
