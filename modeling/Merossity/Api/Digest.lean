import Merossity.Api.Shared
import Merossity.Meross.Lan
import Mathlib.Data.List.Sort
import Mathlib.Data.String.Basic

/-!
Reading the digest of a device: the `extractLan…` functions of `api/shared.ts`.

* A digest is found under one of several keys (`candidates`), as one item or as an array of
  items, and an item that cannot be decoded is left out.
* `extractLanToggleX` and `extractLanLight` take the first candidate with an item that can be
  decoded, the schedule digests the first candidate that there is.
* `extractLanElectricity` reads a measurement.
-/

namespace Merossity

open Js

/-- What the program takes from the system it runs on: the order of strings in its locale, and
its environment. -/
class Runtime where
  localeCompare : String → String → Ordering
  env : String → Option String

/-- A system whose strings are ordered by their characters, without an environment. -/
@[reducible] def plainRuntime : Runtime := ⟨compare, fun _ => none⟩

/-- `localeCompare` is a total order of the texts. -/
class LocaleOrder [Runtime] : Prop where
  total (a b : String) : Runtime.localeCompare a b ≠ .gt ∨ Runtime.localeCompare b a ≠ .gt
  trans (a b c : String) : Runtime.localeCompare a b ≠ .gt → Runtime.localeCompare b c ≠ .gt →
    Runtime.localeCompare a c ≠ .gt

/-- The order of the characters is a total order of the texts. -/
lemma localeOrder_plainRuntime : @LocaleOrder plainRuntime :=
  let _ := plainRuntime
  have hle : ∀ a b : String, Runtime.localeCompare a b ≠ .gt ↔ a ≤ b := fun _ _ =>
    compare_gt_iff_gt.not.trans not_lt
  { total := fun a b => (le_total a b).imp (hle a b).mpr (hle b a).mpr
    trans := fun a b c hab hbc => (hle a c).mpr (((hle a b).mp hab).trans ((hle b c).mp hbc)) }

/-! ### Items -/

/-- `Array.isArray(c) ? c : [c]`. -/
def itemsOf : Json → List Json
  | .arr items => items
  | c => [c]

/-- The items that can be decoded. -/
def decodeItems {α : Type} (decode : Json → Except String (Option α)) :
    List Json → Except String (List α)
  | [] => .ok []
  | item :: items => do
      let a ← decode item
      let out ← decodeItems decode items
      return a.toList ++ out

/-- The decoded items of the first candidate that has one. -/
def firstDecoded {α : Type} (decode : Json → Except String (Option α)) :
    List (Option Json) → Except String (Option (List α))
  | [] => .ok none
  | c :: cs =>
      if truthy c then do
        match ← decodeItems decode (itemsOf (c.getD .null)) with
        | [] => firstDecoded decode cs
        | out => return some out
      else firstDecoded decode cs

/-- The sort by channel, which is stable. -/
def sortByChannel {α : Type} (channel : α → ℕ) (l : List α) : List α :=
  l.insertionSort fun a b => channel a ≤ channel b

/-- What the digest has under a chain of keys. -/
def digestAt (resp : Json) (ks : List String) : Option Json :=
  resp.path (["payload", "all", "digest"] ++ ks)

/-! ### Switches -/

structure LanToggleXState where
  channel : ℕ
  onoff : Bool
  deriving DecidableEq

/-- An item of a toggle digest. -/
def toggleXItem (item : Json) : Except String (Option LanToggleXState) := do
  let channel ← toNumber (item.get? "channel")
  let onoff ← toNumber (item.get? "onoff")
  return channel.natural?.map fun channel => { channel, onoff := onoff = .fin 1 }

/-- `extractLanToggleX`. -/
def extractLanToggleX (resp : Json) : Except String (Option (List LanToggleXState)) := do
  let out ← firstDecoded toggleXItem
    ([["togglex"], ["toggleX"], ["toggle"], ["togglex", "togglex"]].map (digestAt resp))
  return out.map (sortByChannel LanToggleXState.channel)

/-! ### Lights -/

structure LanLightState where
  channel : ℕ
  onoff : Bool
  luminance : Option ℚ
  temperature : Option ℚ
  rgb : Option ℚ
  deriving DecidableEq

/-- `Number.isInteger(c) && c >= 0 && c <= 255`, together with the byte. -/
def byte? (q : ℚ) : Option ℕ := if q.den = 1 ∧ 0 ≤ q ∧ q ≤ 255 then some q.num.toNat else none

/-- The colour of three components. -/
def packRgb (r g b : Option Json) : Option ℚ := do
  let r ← (coerceFiniteNumber r).bind byte?
  let g ← (coerceFiniteNumber g).bind byte?
  let b ← (coerceFiniteNumber b).bind byte?
  return (((r &&& 0xff) <<< 16 ||| (g &&& 0xff) <<< 8 ||| (b &&& 0xff) : ℕ) : ℚ)

/-- `coerceRgb`. -/
def coerceRgb (v : Option Json) : Option ℚ :=
  match coerceFiniteNumber v with
  | some n => some (Number.round n)
  | none => match v with
    | some (.arr (r :: g :: b :: _)) => packRgb (some r) (some g) (some b)
    | some (.obj _) => packRgb (firstOf v ["r", "red"]) (firstOf v ["g", "green"])
        (firstOf v ["b", "blue"])
    | _ => none

/-- An item of a light digest. -/
def lightItem (item : Json) : Except String (Option LanLightState) := do
  let channel ← toNumber (item.get? "channel")
  let onoff ← toNumber (firstOf (some item) ["onoff", "state"])
  return channel.natural?.map fun channel =>
    { channel
      onoff := onoff = .fin 1
      luminance := coerceFiniteNumber
        (firstOf (some item) ["luminance", "brightness", "luma", "lum"])
      temperature := coerceFiniteNumber
        (firstOf (some item) ["temperature", "temp", "colorTemp", "colortemp"])
      rgb := coerceRgb (item.get? "rgb") }

/-- `extractLanLight`. -/
def extractLanLight (resp : Json) : Except String (Option (List LanLightState)) := do
  let out ← firstDecoded lightItem
    ([["light"], ["light", "light"], ["lamp"], ["lamp", "lamp"]].map (digestAt resp))
  return out.map (sortByChannel LanLightState.channel)

/-! ### Schedules -/

structure LanScheduleDigestEntry where
  channel : ℕ
  id : String
  count : ℕ
  deriving DecidableEq

/-- An item of a schedule digest. -/
def scheduleItem (item : Json) : Except String (Option LanScheduleDigestEntry) := do
  let channel ← toNumber (item.get? "channel")
  let id ← toText (coalesce (item.get? "id") (some (.str "")))
  let count := ((coerceFiniteNumber (item.get? "count")).map Number.round).getD 0
  return channel.natural?.bind fun channel =>
    if trim id = "" then none else some { channel, id := trim id, count := count.toNat }

/-! ### As JSON -/

/-- A number as JSON. -/
def natJson (n : ℕ) : Json := .num (.fin n)

def onoffJson (onoff : Bool) : Json := .num (.fin (if onoff then 1 else 0))

/-- A property of an object that is there if the value is. -/
def numberField (k : String) (q : Option ℚ) : Fields :=
  (q.map fun q => (k, Json.num (.fin q))).toList

def LanToggleXState.json (c : LanToggleXState) : Json :=
  .obj [("channel", natJson c.channel), ("onoff", onoffJson c.onoff)]

def LanLightState.json (l : LanLightState) : Json :=
  .obj ([("channel", natJson l.channel), ("onoff", onoffJson l.onoff)]
    ++ numberField "luminance" l.luminance ++ numberField "temperature" l.temperature
    ++ numberField "rgb" l.rgb)

def LanScheduleDigestEntry.json (e : LanScheduleDigestEntry) : Json :=
  .obj [("channel", natJson e.channel), ("id", .str e.id), ("count", natJson e.count)]

variable [Runtime]

/-- `a.channel - b.channel || a.id.localeCompare(b.id)`. -/
def scheduleLe (a b : LanScheduleDigestEntry) : Prop :=
  a.channel < b.channel ∨ a.channel = b.channel ∧ Runtime.localeCompare a.id b.id ≠ .gt

instance : DecidableRel scheduleLe := fun a b =>
  inferInstanceAs (Decidable (a.channel < b.channel ∨ _ ∧ _ ≠ Ordering.gt))

instance scheduleLe_total [LocaleOrder] : Std.Total scheduleLe where
  total a b := by
    rcases lt_trichotomy a.channel b.channel with h | h | h
    · exact Or.inl (Or.inl h)
    · rcases LocaleOrder.total a.id b.id with hid | hid
      · exact Or.inl (Or.inr ⟨h, hid⟩)
      · exact Or.inr (Or.inr ⟨h.symm, hid⟩)
    · exact Or.inr (Or.inl h)

instance scheduleLe_trans [LocaleOrder] : IsTrans LanScheduleDigestEntry scheduleLe where
  trans a b c := by
    rintro (hab | ⟨hab, hidab⟩) (hbc | ⟨hbc, hidbc⟩)
    · exact Or.inl (hab.trans hbc)
    · exact Or.inl (hbc ▸ hab)
    · exact Or.inl (hab ▸ hbc)
    · exact Or.inr ⟨hab.trans hbc, LocaleOrder.trans _ _ _ hidab hidbc⟩

/-- `extractLanScheduleDigest`. -/
def extractLanScheduleDigest (resp : Json) (kind : String) :
    Except String (List LanScheduleDigestEntry) :=
  match ([[kind], [kind, kind]].map (digestAt resp)).find? truthy with
  | some c => do
      let out ← decodeItems scheduleItem (itemsOf (c.getD .null))
      return out.insertionSort scheduleLe
  | none => .ok []

/-- `extractLanTimerXDigest`. -/
def extractLanTimerXDigest (resp : Json) : Except String (List LanScheduleDigestEntry) :=
  extractLanScheduleDigest resp "timerx"

/-- `extractLanTriggerXDigest`. -/
def extractLanTriggerXDigest (resp : Json) : Except String (List LanScheduleDigestEntry) :=
  extractLanScheduleDigest resp "triggerx"

/-! ### Electricity -/

/-- A measurement, in the units of the device and scaled. -/
structure LanElectricityState where
  channel : ℕ
  voltageDv : Option ℤ
  currentMa : Option ℤ
  powerMw : Option ℤ
  voltageV : Option ℚ
  currentA : Option ℚ
  powerW : Option ℚ

/-- The measurement that a candidate is. -/
def electricityOf (e : Json) : Option LanElectricityState :=
  let channel := (coerceFiniteNumber (e.get? "channel")).getD 0
  let voltageDv := coerceFiniteNumber (e.get? "voltage")
  let currentMa := coerceFiniteNumber (e.get? "current")
  let powerMw := coerceFiniteNumber (e.get? "power")
  if !e.isObject || (voltageDv.isNone && currentMa.isNone && powerMw.isNone) then none
  else (Number.fin channel).natural?.map fun channel =>
    { channel
      voltageDv := voltageDv.map Number.round
      currentMa := currentMa.map Number.round
      powerMw := powerMw.map Number.round
      voltageV := voltageDv.map fun v => Number.div v 10
      currentA := currentMa.map fun v => Number.div v 1000
      powerW := powerMw.map fun v => Number.div v 1000 }

/-- `extractLanElectricity`, without the ratios of the measurement, which only the handler of
that name reports. -/
def extractLanElectricity (resp : Json) : Option LanElectricityState :=
  ([resp.path ["payload", "electricity"], resp.path ["payload", "electricity", "electricity"],
    digestAt resp ["electricity"], digestAt resp ["electricity", "electricity"]]).findSome?
      fun c => c.bind electricityOf

end Merossity
