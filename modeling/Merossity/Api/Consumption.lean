import Mathlib.Data.String.Basic
import Merossity.Api.DigestLayouts

/-!
The daily energy of a device, for `extractConsumptionX` of `api/get-device-consumptionx.ts`.

* A `ConsumptionXEntry` is an entry that is kept: its date is one, and its numbers are rounded down.
  `entryOf` says which entry an item stands for.
* `stableSort_extract`: the list of items that is read becomes the valid entries, sorted by date.
  This is a list directly under `consumptionx` or `ConsumptionX`.
* One level down the object around the list is itself the first candidate, and the loop ends with
  it (`extractConsumptionX_nested`). `readsConsumption_iff`: the layouts are read alike exactly if
  there is nothing to read.
-/

namespace Merossity

open Js

/-! ### Entries -/

/-- `/^\d{4}-\d{2}-\d{2}$/`. -/
def isDate (s : String) : Bool :=
  match s.toList with
  | [a, b, c, d, '-', e, f, '-', g, h] => [a, b, c, d, e, f, g, h].all Char.isDigit
  | _ => false

/-- An entry: the day, the time of the reading in seconds, and the energy of the day in Wh. -/
structure ConsumptionXEntry where
  date : String
  time : ℕ
  value : ℕ
  isDate : isDate date = true
  deriving DecidableEq

/-- The entry of a date and two numbers, if they are valid. -/
def ConsumptionXEntry.of? (date : String) (time value : Number) : Option ConsumptionXEntry :=
  if h : Merossity.isDate date = true then
    match time, value with
    | .fin time, .fin value =>
        if 0 < time ∧ 0 ≤ value then
          some { date, time := time.floor.toNat, value := value.floor.toNat, isDate := h }
        else none
    | _, _ => none
  else none

/-- An item of the list of a device. -/
def consumptionItem (item : Json) : Except String (Option ConsumptionXEntry) := do
  let date ← toText (coalesce (item.get? "date") (some (.str "")))
  let time ← toNumber (item.get? "time")
  let value ← toNumber (item.get? "value")
  return ConsumptionXEntry.of? (trim date) time value

/-- The conversions of an item do not throw. -/
def ConvertibleEntry (item : Json) : Prop :=
  (∃ date, toText (coalesce (item.get? "date") (some (.str ""))) = .ok date)
    ∧ Converts (item.get? "time") ∧ Converts (item.get? "value")

/-- The entry that an item stands for: its date is one, its time is positive and its value is not
negative, both being finite. -/
def consumptionOf (item : Json) : Option ConsumptionXEntry :=
  match toText (coalesce (item.get? "date") (some (.str ""))), toNumber (item.get? "time"),
      toNumber (item.get? "value") with
  | .ok date, .ok time, .ok value => ConsumptionXEntry.of? (trim date) time value
  | _, _, _ => none

lemma decodes_consumptionItem : Decodes consumptionItem ConvertibleEntry consumptionOf where
  ok_iff := by
    intro item a
    rw [consumptionItem, ConvertibleEntry, Converts, Converts, consumptionOf]
    cases toText (coalesce (item.get? "date") (some (.str ""))) with
    | error e => simp [bind, Except.bind]
    | ok date =>
        cases toNumber (item.get? "time") with
        | error e => simp [bind, Except.bind]
        | ok time =>
            cases toNumber (item.get? "value") with
            | error e => simp [bind, Except.bind]
            | ok value =>
                constructor
                · intro h
                  exact ⟨⟨⟨_, rfl⟩, ⟨_, rfl⟩, _, rfl⟩, (Except.ok.inj h).symm⟩
                · rintro ⟨-, rfl⟩
                  rfl
  blank := by
    intro item h
    rw [ConvertibleEntry, Converts, Converts, consumptionOf, h "date", h "time", h "value"]
    exact ⟨⟨⟨_, rfl⟩, ⟨_, rfl⟩, _, rfl⟩, rfl⟩

/-- What is valid about the items that stand for an entry. -/
lemma consumptionOf_eq_some_iff {item : Json} {e : ConsumptionXEntry} :
    consumptionOf item = some e ↔ ∃ date time value,
      toText (coalesce (item.get? "date") (some (.str ""))) = .ok date
        ∧ toNumber (item.get? "time") = .ok (.fin time)
        ∧ toNumber (item.get? "value") = .ok (.fin value)
        ∧ isDate (trim date) = true ∧ 0 < time ∧ 0 ≤ value
        ∧ e.date = trim date ∧ e.time = ⌊time⌋.toNat ∧ e.value = ⌊value⌋.toNat := by
  constructor
  · intro h
    rw [consumptionOf] at h
    split at h
    next date time value hdate htime hvalue =>
      rw [ConsumptionXEntry.of?] at h
      split at h
      next hisDate =>
        split at h
        next time value =>
          split at h
          next hvalid =>
            obtain rfl := Option.some.inj h
            exact ⟨date, time, value, hdate, htime, hvalue, hisDate, hvalid.1, hvalid.2, rfl, rfl,
              rfl⟩
          next => cases h
        next => cases h
      next => cases h
    next => cases h
  · rintro ⟨date, time, value, hdate, htime, hvalue, hisDate, hpos, hnonneg, hed, het, hev⟩
    obtain ⟨_, _, _, _⟩ := e
    obtain rfl : _ = _ := hed
    obtain rfl : _ = _ := het
    obtain rfl : _ = _ := hev
    rw [consumptionOf, hdate, htime, hvalue]
    simp only [ConsumptionXEntry.of?, dif_pos hisDate, if_pos (And.intro hpos hnonneg)]
    rfl

/-! ### The list -/

/-- `localeCompare` puts dates in the order of the calendar. -/
class DateOrder [Runtime] : Prop where
  ne_gt_iff (a b : String) : isDate a = true → isDate b = true →
    (Runtime.localeCompare a b ≠ .gt ↔ a ≤ b)

section

variable [Runtime]

/-- `a.date.localeCompare(b.date)`. -/
def dateLe (a b : ConsumptionXEntry) : Prop := Runtime.localeCompare a.date b.date ≠ .gt

instance : DecidableRel dateLe := fun a b =>
  inferInstanceAs (Decidable (Runtime.localeCompare a.date b.date ≠ .gt))

lemma dateLe_iff [DateOrder] (a b : ConsumptionXEntry) : dateLe a b ↔ a.date ≤ b.date :=
  DateOrder.ne_gt_iff a.date b.date a.isDate b.isDate

instance dateLe_total [DateOrder] : Std.Total dateLe where
  total a b := by
    rw [dateLe_iff, dateLe_iff]
    exact le_total a.date b.date

instance dateLe_trans [DateOrder] : IsTrans ConsumptionXEntry dateLe where
  trans a b c := by
    rw [dateLe_iff, dateLe_iff, dateLe_iff]
    exact le_trans

/-- `extractConsumptionX`. -/
def extractConsumptionX (resp : Json) : Except String (List ConsumptionXEntry) :=
  match ([["payload", "consumptionx"], ["payload", "consumptionx", "consumptionx"],
      ["payload", "ConsumptionX"]].map resp.path).find? truthy with
  | some c => do
      let out ← decodeItems consumptionItem ((c.bind Json.arr?).getD [])
      return out.insertionSort dateLe
  | none => .ok []

/-- The list that is read off a reply: the first candidate that is truthy, if it is a list. -/
def consumptionList (resp : Json) : List Json :=
  match ([["payload", "consumptionx"], ["payload", "consumptionx", "consumptionx"],
      ["payload", "ConsumptionX"]].map resp.path).find? truthy with
  | some c => (c.bind Json.arr?).getD []
  | none => []

lemma extractConsumptionX_eq (resp : Json) :
    extractConsumptionX resp = do
      return (← decodeItems consumptionItem (consumptionList resp)).insertionSort dateLe := by
  rw [extractConsumptionX, consumptionList]
  split <;> rfl

omit [Runtime] in
/-- The list directly under `consumptionx`. -/
lemma consumptionList_flat {resp c : Json} (h : resp.path ["payload", "consumptionx"] = some c)
    (hc : truthy (some c) = true) : consumptionList resp = c.arr?.getD [] := by
  rw [consumptionList, List.map_cons, h, List.find?_cons_of_pos hc]
  rfl

omit [Runtime] in
/-- The list under `ConsumptionX`, if there is nothing under `consumptionx`. -/
lemma consumptionList_capital {resp : Json} {items : List Json}
    (hnone : resp.path ["payload", "consumptionx"] = none)
    (h : resp.path ["payload", "ConsumptionX"] = some (.arr items)) :
    consumptionList resp = items := by
  have hnested : resp.path ["payload", "consumptionx", "consumptionx"] = none := by
    have hpath : resp.path ["payload", "consumptionx", "consumptionx"] =
        Json.opt (resp.path ["payload", "consumptionx"]) "consumptionx" := rfl
    rw [hpath, hnone]
    rfl
  rw [consumptionList, List.map_cons, List.map_cons, List.map_cons, hnone, hnested, h]
  rfl

/-- A list that is one level down is not read. -/
lemma extractConsumptionX_nested {resp : Json} {items : List Json}
    (h : resp.path ["payload", "consumptionx"] = some (.obj [("consumptionx", .arr items)])) :
    extractConsumptionX resp = .ok [] := by
  rw [extractConsumptionX_eq, consumptionList_flat h rfl]
  rfl

/-! ### Layouts -/

/-- A reply with a list directly under `consumptionx`, one with the list one level down, and one
with it under `ConsumptionX`. -/
structure ConsumptionLayouts (items : List Json) (flat nested capital : Json) : Prop where
  items_flat : flat.path ["payload", "consumptionx"] = some (.arr items)
  items_nested : nested.path ["payload", "consumptionx"]
    = some (.obj [("consumptionx", .arr items)])
  items_capital : capital.path ["payload", "ConsumptionX"] = some (.arr items)
  nothing_else : flat.path ["payload", "ConsumptionX"] = none
    ∧ nested.path ["payload", "ConsumptionX"] = none
    ∧ capital.path ["payload", "consumptionx"] = none

/-- The three layouts of a list are read alike, as its valid entries sorted by date. -/
def ReadsConsumption (items : List Json) (flat nested capital : Json) : Prop :=
  ∃ out, extractConsumptionX flat = .ok out ∧ extractConsumptionX nested = .ok out
    ∧ extractConsumptionX capital = .ok out
    ∧ StableSort (fun a b => a.date ≤ b.date) out (items.filterMap consumptionOf)

/-- The valid entries of a list, sorted by date. -/
lemma stableSort_entries [DateOrder] (l : List ConsumptionXEntry) :
    StableSort (fun a b => a.date ≤ b.date) (l.insertionSort dateLe) l := by
  have hsort := stableSort_insertionSort (r := dateLe) l
  have htied : ∀ a b : ConsumptionXEntry,
      Tied (fun a b => a.date ≤ b.date) a b ↔ Tied dateLe a b := fun a b =>
    and_congr (dateLe_iff a b).symm (dateLe_iff b a).symm
  refine ⟨hsort.perm, hsort.sorted.imp fun hab => (dateLe_iff _ _).mp hab, fun a => ?_⟩
  simpa only [htied] using hsort.stable a

/-- What is read off a reply are its valid entries, sorted by date. -/
lemma stableSort_extract [DateOrder] {resp : Json} {out : List ConsumptionXEntry}
    (h : extractConsumptionX resp = .ok out) :
    StableSort (fun a b => a.date ≤ b.date) out
      ((consumptionList resp).filterMap consumptionOf) := by
  rw [extractConsumptionX_eq] at h
  obtain ⟨entries, hentries, hout⟩ := bind_eq_ok h
  obtain rfl := Except.ok.inj hout
  rw [(decodes_consumptionItem.items_eq_ok_iff.mp hentries).2]
  exact stableSort_entries _

/-- A reply is read exactly if no item of its list throws. -/
lemma exists_extract_iff {resp : Json} :
    (∃ out, extractConsumptionX resp = .ok out) ↔
      ∀ item ∈ consumptionList resp, ConvertibleEntry item := by
  rw [extractConsumptionX_eq]
  constructor
  · rintro ⟨out, hout⟩
    obtain ⟨entries, hentries, -⟩ := bind_eq_ok hout
    exact (decodes_consumptionItem.items_eq_ok_iff.mp hentries).1
  · intro hitems
    rw [decodes_consumptionItem.items_eq_ok_iff.mpr ⟨hitems, rfl⟩]
    exact ⟨_, rfl⟩

/-- **The three layouts** of a list are read alike exactly if there is nothing to read: no item
throws, and none is valid. -/
theorem readsConsumption_iff [DateOrder] {items : List Json} {flat nested capital : Json}
    (h : ConsumptionLayouts items flat nested capital) :
    ReadsConsumption items flat nested capital ↔
      ∀ item ∈ items, ConvertibleEntry item ∧ consumptionOf item = none := by
  have hflat : consumptionList flat = items := consumptionList_flat h.items_flat rfl
  have hcapital := consumptionList_capital h.nothing_else.2.2 h.items_capital
  rw [ReadsConsumption, extractConsumptionX_nested h.items_nested]
  constructor
  · rintro ⟨out, hout, hempty, -, hsort⟩
    obtain rfl := Except.ok.inj hempty
    have hitems := exists_extract_iff.mp ⟨[], hout⟩
    rw [hflat] at hitems
    have hnone := List.filterMap_eq_nil_iff.mp (List.perm_nil.mp hsort.perm.symm)
    exact fun item hitem => ⟨hitems item hitem, hnone item hitem⟩
  · intro hitems
    have hnil : items.filterMap consumptionOf = [] :=
      List.filterMap_eq_nil_iff.mpr fun item hitem => (hitems item hitem).2
    -- a reply with these items is read as no entry
    have hread : ∀ resp, consumptionList resp = items → extractConsumptionX resp = .ok [] := by
      intro resp hresp
      obtain ⟨out, hout⟩ :=
        exists_extract_iff.mpr (hresp ▸ fun item hitem => (hitems item hitem).1)
      have hsort := stableSort_extract hout
      rw [hresp, hnil] at hsort
      rw [hout, hsort.eq_nil]
    refine ⟨[], hread flat hflat, rfl, hread capital hcapital, ?_⟩
    rw [hnil]
    exact stableSort_nil

end

/-- The order of texts by their characters is that of the calendar on dates. -/
lemma dateOrder_plainRuntime : @DateOrder plainRuntime :=
  let _ := plainRuntime
  ⟨fun _ _ _ _ => compare_le_iff_le⟩

/-- A reply with a value under a key of its payload. -/
def payloadReply (k : String) (v : Json) : Json := .obj [("payload", .obj [(k, v)])]

/-- A day of 1200 Wh. -/
def dayItem : Json :=
  .obj [("date", .str "2024-05-01"), ("time", .num (.fin 1714600000)), ("value", .num (.fin 1200))]

lemma consumptionLayouts_reply (items : List Json) :
    ConsumptionLayouts items (payloadReply "consumptionx" (.arr items))
      (payloadReply "consumptionx" (.obj [("consumptionx", .arr items)]))
      (payloadReply "ConsumptionX" (.arr items)) where
  items_flat := rfl
  items_nested := rfl
  items_capital := rfl
  nothing_else := ⟨rfl, rfl, rfl⟩

/-- A day without a time is dropped in all three layouts. -/
theorem readsConsumption_untimed : let _ := plainRuntime
    ReadsConsumption [.obj [("date", .str "2024-05-01")]]
      (payloadReply "consumptionx" (.arr [.obj [("date", .str "2024-05-01")]]))
      (payloadReply "consumptionx"
        (.obj [("consumptionx", .arr [.obj [("date", .str "2024-05-01")]])]))
      (payloadReply "ConsumptionX" (.arr [.obj [("date", .str "2024-05-01")]])) := by
  let _ := plainRuntime
  have _ := dateOrder_plainRuntime
  refine (readsConsumption_iff (consumptionLayouts_reply _)).mpr fun item hitem => ?_
  obtain rfl := List.mem_singleton.mp hitem
  exact ⟨⟨⟨_, rfl⟩, ⟨_, rfl⟩, _, rfl⟩, by decide +kernel⟩

/-- A day is not read in the second layout. -/
theorem loses_nested_day : let _ := plainRuntime
    ¬ ReadsConsumption [dayItem] (payloadReply "consumptionx" (.arr [dayItem]))
      (payloadReply "consumptionx" (.obj [("consumptionx", .arr [dayItem])]))
      (payloadReply "ConsumptionX" (.arr [dayItem])) := by
  rintro _ ⟨out, -, hnested, -, hsort⟩
  rw [extractConsumptionX_nested rfl] at hnested
  obtain rfl := Except.ok.inj hnested
  exact absurd (List.perm_nil.mp hsort.perm.symm) (by decide +kernel)

end Merossity
