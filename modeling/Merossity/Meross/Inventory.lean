import Merossity.Js.Json
import Merossity.Lib.SortKey

/-!
The inventory of the devices: `meross/inventory.ts`.

* `inventoryDevice` is one entry, `deviceSortKey` its sort key, and `groupDevicesForControl` makes
  the two groups. `toLowerCase` is a parameter, and `localeCompare` compares code units.
* `sortTuple` is what the groups are to be sorted by, and `lt_iff_parts` compares it by the parts of
  the sort key.
* **`sortedPartition_iff`**: the groups are a sorted partition of the devices exactly if all entries
  can be made, and no two of one group clash, that is, the name or the type of one continues that of
  the other with a character before the line feed that separates the parts, or with a line feed.
-/

namespace Merossity

open Js

/-! ### Entries -/

/-- `InventoryDevice`. -/
structure InventoryDevice where
  uuid : String
  name : String
  type : String
  online : String
  host : Option String
  mac : Option String
  hostUpdatedAt : Option String

/-- `v ? String(v) : null`. -/
def textOrNull (v : Option Json) : Except String (Option String) :=
  if truthy v then (toText v).map some else .ok none

/-- `String(d.k ?? '')`. -/
def fieldText (d : Json) (k : String) : Except String String :=
  match d with
  | .null => .error "null is not an object"
  | d => toText (coalesce (d.get? k) (some (.str "")))

/-- `[d.deviceType, d.subType].filter(Boolean).join(' / ')`. -/
def typeText (d : Json) : Except String String :=
  (itemTexts (([d.get? "deviceType", d.get? "subType"].filter truthy).reduceOption)).map
    (String.intercalate " / ")

/-- `hosts?.[uuid]?.k`. -/
def hostField (hosts : Option Json) (uuid k : String) : Option Json :=
  Json.opt (Json.opt hosts uuid) k

/-- The body of the loop of `groupDevicesForControl`: the entry of a device, if it has a uuid. -/
def inventoryDevice (hosts : Option Json) (d : Json) :
    Except String (Option InventoryDevice) := do
  let uuid ← fieldText d "uuid"
  if uuid = "" then return none
  else
    let host ← textOrNull (hostField hosts uuid "host")
    let hostUpdatedAt ← textOrNull (hostField hosts uuid "updatedAt")
    let mac ← textOrNull (hostField hosts uuid "mac")
    let name ← fieldText d "devName"
    let type ← typeText d
    let online ← fieldText d "onlineStatus"
    return some { uuid, name, type, online, host, mac, hostUpdatedAt }

/-- `if (host)`. -/
def InventoryDevice.ready (e : InventoryDevice) : Bool :=
  match e.host with
  | some host => host ≠ ""
  | none => false

/-! ### Sort keys -/

/-- The code units of a character. -/
def charUnits (c : Char) : List ℕ :=
  if c.toNat < 0x10000 then [c.toNat]
  else [0xd800 + (c.toNat - 0x10000) / 0x400, 0xdc00 + (c.toNat - 0x10000) % 0x400]

/-- The code units of a text. -/
def codeUnits (s : String) : List ℕ := s.toList.flatMap charUnits

@[simp] lemma codeUnits_append (s t : String) :
    codeUnits (s ++ t) = codeUnits s ++ codeUnits t := by
  rw [codeUnits, String.toList_append, List.flatMap_append, codeUnits, codeUnits]

section Groups

variable (lower : String → String)

/-- `norm`. -/
def norm (s : String) : String := lower (trim s)

/-- `nameKey` in `deviceSortKey`: empty names come last. -/
def nameKey (e : InventoryDevice) : String :=
  if norm lower e.name ≠ "" then "0:" ++ norm lower e.name else "1:"

/-- `deviceSortKey`. -/
def deviceSortKey (e : InventoryDevice) : String :=
  nameKey lower e ++ "\n" ++ norm lower e.type ++ "\n" ++ norm lower e.uuid

/-- `deviceSortKey(a).localeCompare(deviceSortKey(b)) <= 0`. -/
def keyLe (a b : InventoryDevice) : Prop :=
  codeUnits (deviceSortKey lower a) ≤ codeUnits (deviceSortKey lower b)

instance keyLe_decidable : DecidableRel (keyLe lower) := fun _ _ =>
  inferInstanceAs (Decidable (_ ≤ _))

instance keyLe_total' : Std.Total (keyLe lower) := ⟨fun _ _ => le_total _ _⟩

instance keyLe_trans' : IsTrans InventoryDevice (keyLe lower) := ⟨fun _ _ _ => le_trans⟩

/-- `groupDevicesForControl`. -/
def groupDevicesForControl (devices : Option (List Json)) (hosts : Option Json) :
    Except String (List InventoryDevice × List InventoryDevice) := do
  let entries ← (devices.getD []).mapM (inventoryDevice hosts)
  let ready := entries.reduceOption.filter InventoryDevice.ready
  let inaccessible := entries.reduceOption.filter fun e => !e.ready
  return (ready.insertionSort (keyLe lower), inaccessible.insertionSort (keyLe lower))

/-! ### The order -/

/-- What a device is sorted by: nameless devices last, then name, type and uuid. -/
def sortTuple (e : InventoryDevice) : Bool ×ₗ List ℕ ×ₗ List ℕ ×ₗ List ℕ :=
  toLex (decide (norm lower e.name = ""), toLex (codeUnits (norm lower e.name),
    toLex (codeUnits (norm lower e.type), codeUnits (norm lower e.uuid))))

/-- The parts of the sort key. -/
def parts (e : InventoryDevice) : List (List ℕ) :=
  [codeUnits (nameKey lower e), codeUnits (norm lower e.type), codeUnits (norm lower e.uuid)]

lemma codeUnits_deviceSortKey (e : InventoryDevice) :
    codeUnits (deviceSortKey lower e) = SortKey.joinKey 10 (parts lower e) := by
  have hsep : codeUnits "\n" = [10] := by decide
  rw [deviceSortKey, parts]
  simp only [codeUnits_append, hsep, SortKey.joinKey, List.append_assoc, List.cons_append,
    List.nil_append]

lemma codeUnits_nameKey (e : InventoryDevice) : codeUnits (nameKey lower e) =
    if norm lower e.name = "" then [49, 58] else 48 :: 58 :: codeUnits (norm lower e.name) := by
  by_cases h : norm lower e.name = ""
  · rw [nameKey, if_neg (not_not_intro h), if_pos h]
    decide
  · have hmark : codeUnits "0:" = [48, 58] := by decide
    rw [nameKey, if_pos h, if_neg h, codeUnits_append, hmark]
    rfl

/-- The names are compared by whether they are empty, and then by their texts. -/
lemma nameKey_lt_iff {a b : InventoryDevice} :
    codeUnits (nameKey lower a) < codeUnits (nameKey lower b) ↔
      decide (norm lower a.name = "") < decide (norm lower b.name = "")
        ∨ decide (norm lower a.name = "") = decide (norm lower b.name = "")
          ∧ codeUnits (norm lower a.name) < codeUnits (norm lower b.name) := by
  rw [codeUnits_nameKey, codeUnits_nameKey]
  by_cases ha : norm lower a.name = "" <;> by_cases hb : norm lower b.name = ""
  · simp [ha, hb]
  · simp [ha, hb, List.cons_lt_cons_iff]
  · simp [ha, hb, List.cons_lt_cons_iff]
  · simp [ha, hb]

lemma nameKey_eq_iff {a b : InventoryDevice} :
    codeUnits (nameKey lower a) = codeUnits (nameKey lower b) ↔
      decide (norm lower a.name = "") = decide (norm lower b.name = "")
        ∧ codeUnits (norm lower a.name) = codeUnits (norm lower b.name) := by
  rw [codeUnits_nameKey, codeUnits_nameKey]
  by_cases ha : norm lower a.name = "" <;> by_cases hb : norm lower b.name = "" <;> simp [ha, hb]

/-- The tuples are compared as the parts of the sort keys are. -/
lemma lt_iff_parts {a b : InventoryDevice} :
    sortTuple lower a < sortTuple lower b ↔ parts lower a < parts lower b := by
  rw [sortTuple, sortTuple, parts, parts]
  simp only [Prod.Lex.toLex_lt_toLex, List.cons_lt_cons_iff, nameKey_lt_iff, nameKey_eq_iff,
    lt_irrefl, and_false, or_false, or_assoc, and_assoc, and_or_left]

/-- The sort puts neither device against the tuples, the first one being in front in the input. -/
def Compatible (a b : InventoryDevice) : Prop :=
  ¬SortKey.Clash 10 (· < ·) (parts lower a) (parts lower b)
    ∧ ¬SortKey.Clash 10 (· ≤ ·) (parts lower b) (parts lower a)

/-- The clashes are the disagreements of the sort keys with the tuples. -/
lemma clash_parts_iff {r : List ℕ → List ℕ → Prop} (hr : SortKey.Lexicographic r)
    {a b : InventoryDevice} : SortKey.Clash 10 r (parts lower a) (parts lower b) ↔
      sortTuple lower a < sortTuple lower b
        ∧ r (codeUnits (deviceSortKey lower b)) (codeUnits (deviceSortKey lower a)) := by
  have hlen : (parts lower a).length = (parts lower b).length := rfl
  rw [← SortKey.clash_iff hr hlen, lt_iff_parts, codeUnits_deviceSortKey, codeUnits_deviceSortKey]

lemma compatible_iff {a b : InventoryDevice} : Compatible lower a b ↔
    (keyLe lower a b → sortTuple lower a ≤ sortTuple lower b)
      ∧ (¬keyLe lower a b → sortTuple lower b ≤ sortTuple lower a) := by
  rw [Compatible, clash_parts_iff lower SortKey.lexicographic_lt,
    clash_parts_iff lower SortKey.lexicographic_le]
  constructor
  · rintro ⟨hlt, hle⟩
    exact ⟨fun h => not_lt.mp fun hba => hle ⟨hba, h⟩,
      fun h => not_lt.mp fun hab => hlt ⟨hab, not_le.mp h⟩⟩
  · rintro ⟨hle, hgt⟩
    exact ⟨fun h => (hgt (not_le.mpr h.2)).not_gt h.1, fun h => (hle h.2).not_gt h.1⟩

/-- Devices do not clash, if no character of a name or a type is a line feed or before it. -/
lemma compatible_of_above {a b : InventoryDevice} (ha : ∀ part ∈ parts lower a, ∀ c ∈ part, 10 < c)
    (hb : ∀ part ∈ parts lower b, ∀ c ∈ part, 10 < c) : Compatible lower a b :=
  ⟨SortKey.not_clash_of_above hb, SortKey.not_clash_of_above ha⟩

/-- **A group is sorted** by the tuples exactly if no two devices in it clash. -/
lemma sorted_iff {l : List InventoryDevice} :
    (l.insertionSort (keyLe lower)).Pairwise (fun a b => sortTuple lower a ≤ sortTuple lower b)
      ↔ l.Pairwise (Compatible lower) := by
  rw [SortKey.pairwise_insertionSort_iff]
  exact List.Pairwise.iff fun a b => (compatible_iff lower).symm

end Groups

/-! ### The partition -/

/-- The entry of a device, if it has one. -/
def inventoryEntry (hosts : Option Json) (d : Json) : Option InventoryDevice :=
  match inventoryDevice hosts d with
  | .ok e => e
  | .error _ => none

/-- The entry has the uuid, the name and the type of the device, and the host that the map has for
it. -/
structure EntryFor (hosts : Option Json) (d : Json) (e : InventoryDevice) : Prop where
  uuid : fieldText d "uuid" = .ok e.uuid
  name : fieldText d "devName" = .ok e.name
  type : typeText d = .ok e.type
  host : textOrNull (hostField hosts e.uuid "host") = .ok e.host

/-- The host map gives a host for the uuid. -/
def HasHost (hosts : Option Json) (uuid : String) : Prop :=
  ∃ host, truthy (hostField hosts uuid "host") = true
    ∧ toText (hostField hosts uuid "host") = .ok host ∧ host ≠ ""

/-- The device has a uuid that is not empty. -/
def named (d : Json) : Bool :=
  match fieldText d "uuid" with
  | .ok uuid => uuid ≠ ""
  | .error _ => false

/-- Two groups that are a sorted partition of the devices: one entry for each device with a uuid, in
the first group exactly if the map has a host for it, and each group in the order of the tuples. -/
structure SortedPartition (lower : String → String) (devices : List Json) (hosts : Option Json)
    (ready inaccessible : List InventoryDevice) : Prop where
  entries : ∃ entries, List.Forall₂ (EntryFor hosts) (devices.filter named) entries
    ∧ (ready ++ inaccessible).Perm entries
  hosted : ∀ e ∈ ready, HasHost hosts e.uuid
  hostless : ∀ e ∈ inaccessible, ¬HasHost hosts e.uuid
  readySorted : ready.Pairwise fun a b => sortTuple lower a ≤ sortTuple lower b
  inaccessibleSorted : inaccessible.Pairwise fun a b => sortTuple lower a ≤ sortTuple lower b

lemma inventoryDevice_of_named {hosts : Option Json} {d : Json} {entry : Option InventoryDevice}
    (h : inventoryDevice hosts d = .ok entry) :
    (named d = false ∧ entry = none)
      ∨ ∃ e, named d = true ∧ entry = some e ∧ EntryFor hosts d e := by
  obtain ⟨uuid, huuid, h⟩ := bind_eq_ok h
  by_cases hempty : uuid = ""
  · rw [if_pos hempty] at h
    refine .inl ⟨?_, (Except.ok.inj h).symm⟩
    rw [named, huuid, hempty]
    rfl
  · rw [if_neg hempty] at h
    obtain ⟨host, hhost, h⟩ := bind_eq_ok h
    obtain ⟨hostUpdatedAt, -, h⟩ := bind_eq_ok h
    obtain ⟨mac, -, h⟩ := bind_eq_ok h
    obtain ⟨name, hname, h⟩ := bind_eq_ok h
    obtain ⟨type, htype, h⟩ := bind_eq_ok h
    obtain ⟨online, -, h⟩ := bind_eq_ok h
    refine .inr ⟨_, ?_, (Except.ok.inj h).symm, huuid, hname, htype, hhost⟩
    rw [named, huuid]
    exact decide_eq_true hempty

/-- An entry is ready exactly if the map has a host for it. -/
lemma EntryFor.ready_iff {hosts : Option Json} {d : Json} {e : InventoryDevice}
    (h : EntryFor hosts d e) : e.ready = true ↔ HasHost hosts e.uuid := by
  have hhost := h.host
  rw [textOrNull] at hhost
  rw [InventoryDevice.ready, HasHost]
  by_cases htruthy : truthy (hostField hosts e.uuid "host") = true
  · rw [if_pos htruthy] at hhost
    obtain ⟨host, htext, heq⟩ := map_eq_ok hhost
    rw [← heq]
    simp [htruthy, htext]
  · rw [if_neg htruthy] at hhost
    rw [← Except.ok.inj hhost]
    simp [htruthy]

/-- The device can be read: it is not null, and its uuid has a text, as has everything else that is
read of it and its host if the uuid is not empty. -/
def Readable (hosts : Option Json) (d : Json) : Prop :=
  ∃ uuid, fieldText d "uuid" = .ok uuid ∧ (uuid ≠ "" →
    (∀ k ∈ ["host", "updatedAt", "mac"], ∃ text, textOrNull (hostField hosts uuid k) = .ok text)
      ∧ (∀ k ∈ ["devName", "onlineStatus"], ∃ text, fieldText d k = .ok text)
      ∧ ∃ text, typeText d = .ok text)

lemma exists_entry_iff {hosts : Option Json} {d : Json} :
    (∃ entry, inventoryDevice hosts d = .ok entry) ↔ Readable hosts d := by
  constructor
  · rintro ⟨entry, h⟩
    obtain ⟨uuid, huuid, h⟩ := bind_eq_ok h
    refine ⟨uuid, huuid, fun hempty => ?_⟩
    rw [if_neg hempty] at h
    obtain ⟨host, hhost, h⟩ := bind_eq_ok h
    obtain ⟨hostUpdatedAt, hupdatedAt, h⟩ := bind_eq_ok h
    obtain ⟨mac, hmac, h⟩ := bind_eq_ok h
    obtain ⟨name, hname, h⟩ := bind_eq_ok h
    obtain ⟨type, htype, h⟩ := bind_eq_ok h
    obtain ⟨online, honline, -⟩ := bind_eq_ok h
    simp only [List.forall_mem_cons]
    exact ⟨⟨⟨host, hhost⟩, ⟨hostUpdatedAt, hupdatedAt⟩, ⟨mac, hmac⟩, List.forall_mem_nil _⟩,
      ⟨⟨name, hname⟩, ⟨online, honline⟩, List.forall_mem_nil _⟩, type, htype⟩
  · rintro ⟨uuid, huuid, h⟩
    rw [inventoryDevice, huuid]
    by_cases hempty : uuid = ""
    · exact ⟨none, if_pos hempty⟩
    · simp only [List.forall_mem_cons] at h
      obtain ⟨⟨⟨host, hhost⟩, ⟨hostUpdatedAt, hupdatedAt⟩, ⟨mac, hmac⟩, -⟩,
        ⟨⟨name, hname⟩, ⟨online, honline⟩, -⟩, type, htype⟩ := h hempty
      refine ⟨some ⟨uuid, name, type, online, host, mac, hostUpdatedAt⟩, ?_⟩
      change ite _ _ _ = _
      rw [if_neg hempty, hhost, hupdatedAt, hmac, hname, htype, honline]
      rfl

/-- All entries can be made. -/
def EntriesMade (hosts : Option Json) (devices : List Json) : Prop :=
  ∀ d ∈ devices, ∃ entry, inventoryDevice hosts d = .ok entry

section Entries

variable {hosts : Option Json} {devices : List Json}

lemma entriesMade_of_mapM {entries : List (Option InventoryDevice)}
    (h : devices.mapM (inventoryDevice hosts) = .ok entries) : EntriesMade hosts devices := by
  induction devices generalizing entries with
  | nil => exact List.forall_mem_nil _
  | cons d devices ih =>
      rw [List.mapM_cons] at h
      obtain ⟨entry, hentry, h⟩ := bind_eq_ok h
      obtain ⟨rest, hrest, -⟩ := bind_eq_ok h
      exact List.forall_mem_cons.mpr ⟨⟨entry, hentry⟩, ih hrest⟩

lemma mapM_of_entriesMade (h : EntriesMade hosts devices) :
    devices.mapM (inventoryDevice hosts) = .ok (devices.map (inventoryEntry hosts)) := by
  induction devices with
  | nil => rfl
  | cons d devices ih =>
      obtain ⟨⟨entry, hentry⟩, hrest⟩ := List.forall_mem_cons.mp h
      have hof : inventoryEntry hosts d = entry := by rw [inventoryEntry, hentry]
      rw [List.mapM_cons, hentry, ih hrest, List.map_cons, hof]
      rfl

/-- There is one entry for each device with a uuid. -/
lemma forall₂_entries (h : EntriesMade hosts devices) :
    List.Forall₂ (EntryFor hosts) (devices.filter named)
      (devices.filterMap (inventoryEntry hosts)) := by
  induction devices with
  | nil => exact .nil
  | cons d devices ih =>
      obtain ⟨⟨entry, hentry⟩, hrest⟩ := List.forall_mem_cons.mp h
      have hof : inventoryEntry hosts d = entry := by rw [inventoryEntry, hentry]
      rcases inventoryDevice_of_named hentry with ⟨hnamed, rfl⟩ | ⟨e, hnamed, rfl, he⟩
      · rw [List.filter_cons_of_neg (by simp [hnamed]), List.filterMap_cons_none hof]
        exact ih hrest
      · rw [List.filter_cons_of_pos hnamed, List.filterMap_cons_some hof]
        exact .cons he (ih hrest)

lemma ready_iff_of_mem (h : EntriesMade hosts devices) {e : InventoryDevice}
    (he : e ∈ devices.filterMap (inventoryEntry hosts)) :
    e.ready = true ↔ HasHost hosts e.uuid := by
  obtain ⟨d, hd, hof⟩ := List.mem_filterMap.mp he
  obtain ⟨entry, hentry⟩ := h d hd
  rw [inventoryEntry, hentry] at hof
  obtain rfl : entry = some e := hof
  rcases inventoryDevice_of_named hentry with ⟨-, hnone⟩ | ⟨e', -, hsome, he'⟩
  · cases hnone
  · obtain rfl := Option.some.inj hsome
    exact he'.ready_iff

/-- The groups, if all entries can be made. -/
lemma groupDevicesForControl_eq (lower : String → String) (h : EntriesMade hosts devices) :
    groupDevicesForControl lower (some devices) hosts = .ok
      (((devices.filterMap (inventoryEntry hosts)).filter InventoryDevice.ready).insertionSort
          (keyLe lower),
        ((devices.filterMap (inventoryEntry hosts)).filter fun e => !e.ready).insertionSort
          (keyLe lower)) := by
  rw [groupDevicesForControl, Option.getD_some, mapM_of_entriesMade h]
  have hreduce : (devices.map (inventoryEntry hosts)).reduceOption
      = devices.filterMap (inventoryEntry hosts) := List.filterMap_map
  rw [← hreduce]
  rfl

end Entries

/-- Both groups are free of clashes exactly if no two devices of one group clash. -/
lemma groups_compatible_iff (lower : String → String) (h : EntriesMade hosts devices) :
    ((devices.filterMap (inventoryEntry hosts)).filter InventoryDevice.ready).Pairwise
          (Compatible lower)
        ∧ ((devices.filterMap (inventoryEntry hosts)).filter fun e => !e.ready).Pairwise
          (Compatible lower) ↔
      (devices.filterMap (inventoryEntry hosts)).Pairwise fun a b =>
        (HasHost hosts a.uuid ↔ HasHost hosts b.uuid) → Compatible lower a b := by
  rw [List.pairwise_filter, List.pairwise_filter, ← List.pairwise_and_iff]
  refine List.Pairwise.iff_of_mem fun {a b} ha hb => ?_
  rw [← ready_iff_of_mem h ha, ← ready_iff_of_mem h hb]
  cases a.ready <;> cases b.ready <;> simp

/-! ### Sorted partitions -/

/-- The groups are a sorted partition. -/
def GroupsSorted (lower : String → String) (devices : List Json) (hosts : Option Json) : Prop :=
  ∃ ready inaccessible, groupDevicesForControl lower (some devices) hosts
    = .ok (ready, inaccessible) ∧ SortedPartition lower devices hosts ready inaccessible

/-- **The groups are a sorted partition** exactly if all devices can be read, and no two of one
group clash. -/
theorem sortedPartition_iff (lower : String → String) (devices : List Json) (hosts : Option Json) :
    GroupsSorted lower devices hosts ↔ (∀ d ∈ devices, Readable hosts d)
      ∧ (devices.filterMap (inventoryEntry hosts)).Pairwise fun a b =>
        (HasHost hosts a.uuid ↔ HasHost hosts b.uuid) → Compatible lower a b := by
  simp only [← exists_entry_iff]
  constructor
  · rintro ⟨ready, inaccessible, hgroups, hpartition⟩
    have hmade : EntriesMade hosts devices := by
      obtain ⟨entries, hentries, -⟩ := bind_eq_ok hgroups
      exact entriesMade_of_mapM hentries
    rw [groupDevicesForControl_eq lower hmade] at hgroups
    obtain ⟨rfl, rfl⟩ := Prod.mk.inj (Except.ok.inj hgroups)
    exact ⟨hmade, (groups_compatible_iff lower hmade).mp
      ⟨(sorted_iff lower).mp hpartition.readySorted,
        (sorted_iff lower).mp hpartition.inaccessibleSorted⟩⟩
  · rintro ⟨hmade, hcompatible⟩
    obtain ⟨hready, hinaccessible⟩ := (groups_compatible_iff lower hmade).mpr hcompatible
    refine ⟨_, _, groupDevicesForControl_eq lower hmade, ?_⟩
    refine ⟨⟨_, forall₂_entries hmade, ?_⟩, fun e he => ?_, fun e he => ?_,
      (sorted_iff lower).mpr hready, (sorted_iff lower).mpr hinaccessible⟩
    · exact ((List.perm_insertionSort _ _).append (List.perm_insertionSort _ _)).trans
        (List.filter_append_perm _ _)
    · obtain ⟨hmem, hready⟩ := List.mem_filter.mp ((List.mem_insertionSort _).mp he)
      exact (ready_iff_of_mem hmade hmem).mp hready
    · obtain ⟨hmem, hready⟩ := List.mem_filter.mp ((List.mem_insertionSort _).mp he)
      rw [← ready_iff_of_mem hmade hmem]
      simpa using hready

/-- Two devices, the name of the second one continuing that of the first one with a tab. -/
def tabbedDevices : List Json :=
  [.obj [("uuid", .str "1"), ("devName", .str "a")],
    .obj [("uuid", .str "2"), ("devName", .str "a\tb")]]

/-- The device with the tab in its name is put first. -/
theorem not_groupsSorted_tabbed : ¬GroupsSorted toLowerCase tabbedDevices none := by
  rintro ⟨ready, inaccessible, hgroups, hpartition⟩
  let plain : InventoryDevice := ⟨"1", "a", "", "", none, none, none⟩
  let tabbed : InventoryDevice := ⟨"2", "a\tb", "", "", none, none, none⟩
  have hcomputed : groupDevicesForControl toLowerCase (some tabbedDevices) none
      = .ok ([], [tabbed, plain]) := by rfl
  rw [hcomputed] at hgroups
  obtain ⟨rfl, rfl⟩ := Prod.mk.inj (Except.ok.inj hgroups)
  have hle : sortTuple toLowerCase tabbed ≤ sortTuple toLowerCase plain := by
    simpa using hpartition.inaccessibleSorted
  have hlt : sortTuple toLowerCase plain < sortTuple toLowerCase tabbed :=
    (lt_iff_parts toLowerCase).mpr (by decide)
  exact hle.not_gt hlt

end Merossity
