import Merossity.Api.DigestLayouts

/-!
The two layouts of a digest of schedules, for `extractLanScheduleDigest` of `api/shared.ts`: the
items directly under `timerx` or `triggerx`, or one level down under the same key.

* `entryOf` says which entry an item stands for (`decodes_scheduleItem`), so a list of items is
  decoded to the entries of the valid ones, if every item can be converted.
* `extractLanScheduleDigest_flat` is about the first layout. In the second one the object around the
  items is itself a candidate, and the loop over the candidates ends at it with no entry
  (`extractLanScheduleDigest_nested`).
-/

namespace Merossity

open Js

/-! ### Items -/

/-- The conversions of an item do not throw. -/
def Convertible (item : Json) : Prop :=
  (∃ channel, toNumber (item.get? "channel") = .ok channel) ∧
    ∃ id, toText (coalesce (item.get? "id") (some (.str ""))) = .ok id

/-- The entry that an item stands for: its channel is a natural number, its identifier is not
blank, and its count is rounded and not negative, `0` if there is none. -/
def entryOf (item : Json) : Option LanScheduleDigestEntry :=
  match toNumber (item.get? "channel"), toText (coalesce (item.get? "id") (some (.str ""))) with
  | .ok channel, .ok id => channel.natural?.bind fun channel =>
      let count := ((coerceFiniteNumber (item.get? "count")).map Number.round).getD 0
      if trim id = "" then none else some { channel, id := trim id, count := (max 0 count).toNat }
  | _, _ => none

lemma scheduleItem_eq_ok_iff {item : Json} {a : Option LanScheduleDigestEntry} :
    scheduleItem item = .ok a ↔ Convertible item ∧ a = entryOf item := by
  rw [scheduleItem, Convertible, entryOf]
  cases toNumber (item.get? "channel") with
  | error e => simp [bind, Except.bind]
  | ok channel =>
      cases toText (coalesce (item.get? "id") (some (.str ""))) with
      | error e => simp [bind, Except.bind]
      | ok id =>
          have hcount : ∀ count : ℤ, (max 0 count).toNat = count.toNat := fun count => by omega
          simp only [hcount]
          constructor
          · intro h
            exact ⟨⟨⟨_, rfl⟩, _, rfl⟩, (Except.ok.inj h).symm⟩
          · rintro ⟨-, rfl⟩
            rfl

/-- An item without the properties of an entry stands for none. -/
lemma entryOf_eq_none {item : Json} (hchannel : item.get? "channel" = none)
    (hid : item.get? "id" = none) : Convertible item ∧ entryOf item = none := by
  rw [Convertible, entryOf, hchannel, hid]
  exact ⟨⟨⟨_, rfl⟩, _, rfl⟩, rfl⟩

lemma decodes_scheduleItem : Decodes scheduleItem Convertible entryOf where
  ok_iff := scheduleItem_eq_ok_iff
  blank h := entryOf_eq_none (h "channel") (h "id")

/-! ### Layouts -/

section

variable [Runtime]

/-- In the first layout the items are read. -/
lemma extractLanScheduleDigest_flat {resp D : Json} {kind : String}
    (h : digestAt resp [kind] = some D) :
    extractLanScheduleDigest resp kind
      = (decodeItems scheduleItem (itemsOf D)).map (·.insertionSort scheduleLe) := by
  rw [extractLanScheduleDigest, List.map_cons, List.map_cons, List.map_nil, h]
  cases htruthy : truthy (some D) with
  | true =>
      rw [List.find?_cons_of_pos htruthy]
      rfl
  | false =>
      have hget := get?_eq_none_of_falsy htruthy
      have hnested : digestAt resp [kind, kind] = none := by rw [digestAt_cons h, hget kind]
      have hitems : itemsOf D = [D] := by
        cases D with
        | arr items => cases htruthy
        | _ => rfl
      have hnone := entryOf_eq_none (hget "channel") (hget "id")
      have hout : decodeItems scheduleItem [D] = .ok [] := by
        rw [decodes_scheduleItem.items_eq_ok_iff, List.filterMap_cons_none hnone.2]
        exact ⟨fun item hitem => List.mem_singleton.mp hitem ▸ hnone.1, rfl⟩
      rw [List.find?_cons_of_neg (by simp [htruthy]), hnested, hitems, hout]
      rfl

/-- In the second layout the object around the items is taken for an item. -/
lemma extractLanScheduleDigest_nested {resp D : Json} {kind : String}
    (hkind : kind ∈ ["timerx", "triggerx"])
    (h : digestAt resp [kind] = some (.obj [(kind, D)])) :
    extractLanScheduleDigest resp kind = .ok [] := by
  have hget : ∀ k ∉ ["timerx", "triggerx"], (Json.obj [(kind, D)]).get? k = none := by
    intro k hk
    have hne : kind ≠ k := fun heq => hk (heq ▸ hkind)
    simp [Assoc.get, hne]
  have hnone := entryOf_eq_none (hget "channel" (by decide)) (hget "id" (by decide))
  have hout : decodeItems scheduleItem [.obj [(kind, D)]] = .ok [] := by
    rw [decodes_scheduleItem.items_eq_ok_iff, List.filterMap_cons_none hnone.2]
    exact ⟨fun item hitem => List.mem_singleton.mp hitem ▸ hnone.1, rfl⟩
  have hitems : itemsOf (.obj [(kind, D)]) = [.obj [(kind, D)]] := rfl
  rw [extractLanScheduleDigest_flat h, hitems, hout]
  rfl

/-- The two layouts of a digest are read alike: as the entries of the valid items, sorted by channel
and then by identifier. -/
def ReadsBothLayouts (kind : String) (D flat nested : Json) : Prop :=
  ∃ out, extractLanScheduleDigest flat kind = .ok out
    ∧ extractLanScheduleDigest nested kind = .ok out
    ∧ out.Perm ((itemsOf D).filterMap entryOf) ∧ out.Pairwise scheduleLe

/-- **The flat layout**: if every item can be converted, the valid ones are read, and sorted. -/
theorem extractLanScheduleDigest_perm [LocaleOrder] {resp D : Json} {kind : String}
    (h : digestAt resp [kind] = some D) (hitems : ∀ item ∈ itemsOf D, Convertible item) :
    ∃ out, extractLanScheduleDigest resp kind = .ok out
      ∧ out.Perm ((itemsOf D).filterMap entryOf) ∧ out.Pairwise scheduleLe := by
  refine ⟨_, ?_, List.perm_insertionSort scheduleLe _, List.pairwise_insertionSort _ _⟩
  rw [extractLanScheduleDigest_flat h, decodes_scheduleItem.items_eq_ok_iff.mpr ⟨hitems, rfl⟩]
  rfl

/-- **The two layouts** are read alike exactly when there is nothing to read: no item throws, and
none is valid. -/
theorem readsBothLayouts_iff {kind : String} (hkind : kind ∈ ["timerx", "triggerx"])
    {D flat nested : Json} (hflat : digestAt flat [kind] = some D)
    (hnested : digestAt nested [kind] = some (.obj [(kind, D)])) :
    ReadsBothLayouts kind D flat nested ↔
      ∀ item ∈ itemsOf D, Convertible item ∧ entryOf item = none := by
  rw [ReadsBothLayouts, extractLanScheduleDigest_flat hflat,
    extractLanScheduleDigest_nested hkind hnested]
  constructor
  · rintro ⟨out, hout, hempty, hperm, -⟩
    obtain rfl := Except.ok.inj hempty
    obtain ⟨entries, hdecoded, -⟩ := bind_eq_ok hout
    have hitems := (decodes_scheduleItem.items_eq_ok_iff.mp hdecoded).1
    have hnone := List.filterMap_eq_nil_iff.mp (List.perm_nil.mp hperm.symm)
    exact fun item hitem => ⟨hitems item hitem, hnone item hitem⟩
  · intro h
    have hnil : (itemsOf D).filterMap entryOf = [] :=
      List.filterMap_eq_nil_iff.mpr fun item hitem => (h item hitem).2
    have hdecoded :=
      decodes_scheduleItem.items_eq_ok_iff.mpr ⟨fun item hitem => (h item hitem).1, rfl⟩
    rw [hdecoded, hnil]
    exact ⟨[], rfl, rfl, .nil, .nil⟩

end

/-- A reply with a digest of timers. -/
def timerReply (digest : Json) : Json :=
  .obj [("payload", .obj [("all", .obj [("digest", .obj [("timerx", digest)])])])]

/-- A channel without an identifier is dropped in both layouts. -/
theorem readsBothLayouts_blank : let _ := plainRuntime
    ReadsBothLayouts "timerx" (.obj [("channel", .num (.fin 0))])
      (timerReply (.obj [("channel", .num (.fin 0))]))
      (timerReply (.obj [("timerx", .obj [("channel", .num (.fin 0))])])) := by
  let _ := plainRuntime
  refine (readsBothLayouts_iff (by decide) rfl rfl).mpr fun item hitem => ?_
  obtain rfl := List.mem_singleton.mp hitem
  exact ⟨⟨⟨_, rfl⟩, _, rfl⟩, rfl⟩

/-- One timer is read in the first layout, and not in the second. -/
theorem reads_one_layout : let _ := plainRuntime
    ¬ ReadsBothLayouts "timerx" (.arr [.obj [("channel", .num (.fin 0)), ("id", .str "a")]])
      (timerReply (.arr [.obj [("channel", .num (.fin 0)), ("id", .str "a")]]))
      (timerReply (.obj [("timerx",
        .arr [.obj [("channel", .num (.fin 0)), ("id", .str "a")]])])) := by
  rintro _ ⟨out, -, hnested, hperm, -⟩
  rw [extractLanScheduleDigest_nested (by decide) rfl] at hnested
  obtain rfl := Except.ok.inj hnested
  exact absurd (List.perm_nil.mp hperm.symm) (by decide +kernel)

end Merossity
