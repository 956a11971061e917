import Merossity.Lib.Sorting
import Merossity.Api.Digest
import Merossity.Meross.Cidr

/-!
The layouts of the digests of switches and lights, for `extractLanToggleX` and `extractLanLight` of
`api/shared.ts`.

* `Decodes` says which value an item stands for: it is made if no conversion throws, and an item
  without properties stands for none. `Decodes.items_eq_ok_iff` is about a list of items.
* `Decodes.firstDecoded_eq_ok_iff` is about the candidates: the loop over them ends at the first one
  with a valid item, so the conversions that count are those of `lookedAt`.
* `extractLanToggleX_nested` and `extractLanLight_nested`: items directly under a key and items one
  level down are read alike.
* `reads_digests` puts this together: a digest is read as it should be exactly if no conversion
  throws.
-/

namespace Merossity

open Js

/-! ### Items -/

/-- What a decoder makes of an item: the value that it stands for, if its conversions do not throw.
An item without properties can be converted, and stands for none. -/
structure Decodes {α : Type} (decode : Json → Except String (Option α)) (convertible : Json → Prop)
    (valueOf : Json → Option α) : Prop where
  ok_iff : ∀ {item a}, decode item = .ok a ↔ convertible item ∧ a = valueOf item
  blank : ∀ {item}, (∀ k, item.get? k = none) → convertible item ∧ valueOf item = none

section

variable {α : Type} {decode : Json → Except String (Option α)} {convertible : Json → Prop}
  {valueOf : Json → Option α}

/-- Decoding keeps the values of the items that stand for one, if no item throws. -/
lemma Decodes.items_eq_ok_iff (h : Decodes decode convertible valueOf) {items : List Json}
    {out : List α} :
    decodeItems decode items = .ok out ↔
      (∀ item ∈ items, convertible item) ∧ out = items.filterMap valueOf := by
  induction items generalizing out with
  | nil => simp [decodeItems, eq_comm]
  | cons item items ih =>
      rw [decodeItems]
      constructor
      · intro hout
        obtain ⟨a, ha, hout⟩ := bind_eq_ok hout
        obtain ⟨rest, hrest, hout⟩ := bind_eq_ok hout
        obtain rfl := Except.ok.inj hout
        obtain ⟨hitem, rfl⟩ := h.ok_iff.mp ha
        obtain ⟨hitems, rfl⟩ := ih.mp hrest
        refine ⟨List.forall_mem_cons.mpr ⟨hitem, hitems⟩, ?_⟩
        cases he : valueOf item <;> simp [he]
      · rintro ⟨hall, rfl⟩
        obtain ⟨hitem, hitems⟩ := List.forall_mem_cons.mp hall
        rw [h.ok_iff.mpr ⟨hitem, rfl⟩, ih.mpr ⟨hitems, rfl⟩]
        refine congrArg Except.ok ?_
        cases he : valueOf item <;> simp [he]

/-! ### Candidates -/

/-- The items of a candidate. -/
def itemsIn : Option Json → List Json
  | none => []
  | some c => itemsOf c

/-- The candidates up to the first one with an item that stands for a value. -/
def lookedAt (valueOf : Json → Option α) : List (Option Json) → List (Option Json)
  | [] => []
  | c :: cs => if (itemsIn c).filterMap valueOf = [] then c :: lookedAt valueOf cs else [c]

/-- The values of the first candidate that has one. -/
def firstValues (valueOf : Json → Option α) : List (Option Json) → Option (List α)
  | [] => none
  | c :: cs => match (itemsIn c).filterMap valueOf with
    | [] => firstValues valueOf cs
    | out => some out

/-- What is falsy has no properties. -/
lemma get?_eq_none_of_falsy {v : Json} (h : truthy (some v) = false) (k : String) :
    v.get? k = none := by
  cases v with
  | str s =>
      obtain rfl : s = "" := by simpa [truthy] using h
      rfl
  | arr items => cases h
  | obj fs => cases h
  | _ => rfl

/-- A falsy candidate holds no value. -/
lemma Decodes.falsy (h : Decodes decode convertible valueOf) {c : Option Json}
    (hc : truthy c = false) :
    (∀ item ∈ itemsIn c, convertible item) ∧ (itemsIn c).filterMap valueOf = [] := by
  cases c with
  | none => exact ⟨fun item hitem => absurd hitem List.not_mem_nil, rfl⟩
  | some v =>
      have hitems : itemsOf v = [v] := by
        cases v with
        | arr items => cases hc
        | _ => rfl
      have hblank := h.blank (get?_eq_none_of_falsy hc)
      rw [itemsIn, hitems, List.filterMap_cons_none hblank.2]
      exact ⟨fun item hitem => List.mem_singleton.mp hitem ▸ hblank.1, rfl⟩

/-- A candidate that is looked at, of which no conversion throws. -/
lemma Decodes.firstDecoded_cons (h : Decodes decode convertible valueOf) {c : Option Json}
    (hc : ∀ item ∈ itemsIn c, convertible item) (cs : List (Option Json)) :
    firstDecoded decode (c :: cs) = match (itemsIn c).filterMap valueOf with
      | [] => firstDecoded decode cs
      | out => .ok (some out) := by
  rw [firstDecoded]
  cases htruthy : truthy c with
  | false =>
      rw [(h.falsy htruthy).2]
      rfl
  | true =>
      obtain ⟨v, rfl⟩ : ∃ v, c = some v := by
        cases c with
        | none => cases htruthy
        | some v => exact ⟨v, rfl⟩
      have hout : decodeItems decode (itemsOf v) = .ok ((itemsIn (some v)).filterMap valueOf) :=
        h.items_eq_ok_iff.mpr ⟨hc, rfl⟩
      rw [if_pos rfl, Option.getD_some, hout]
      cases (itemsIn (some v)).filterMap valueOf <;> rfl

/-- **The loop over the candidates** takes the values of the first one that has one, if no item
that it looks at throws. -/
theorem Decodes.firstDecoded_eq_ok_iff (h : Decodes decode convertible valueOf)
    {cs : List (Option Json)} {out : Option (List α)} :
    firstDecoded decode cs = .ok out ↔
      (∀ c ∈ lookedAt valueOf cs, ∀ item ∈ itemsIn c, convertible item)
        ∧ out = firstValues valueOf cs := by
  induction cs with
  | nil => simp [firstDecoded, lookedAt, firstValues, eq_comm]
  | cons c cs ih =>
      by_cases hc : ∀ item ∈ itemsIn c, convertible item
      · rw [h.firstDecoded_cons hc, lookedAt, firstValues]
        cases hvalues : (itemsIn c).filterMap valueOf with
        | nil =>
            rw [if_pos rfl, List.forall_mem_cons, ih]
            tauto
        | cons a rest =>
            rw [if_neg (List.cons_ne_nil a rest), List.forall_mem_singleton]
            exact ⟨fun hout => ⟨hc, (Except.ok.inj hout).symm⟩, fun hout => hout.2 ▸ rfl⟩
      · -- the conversion of an item of `c` throws
        have hlooked : c ∈ lookedAt valueOf (c :: cs) := by
          rw [lookedAt]
          split <;> simp
        refine ⟨fun hout => absurd (fun item hitem => ?_) hc,
          fun hall => absurd (hall.1 c hlooked) hc⟩
        rw [firstDecoded] at hout
        cases htruthy : truthy c with
        | false => exact (h.falsy htruthy).1 item hitem
        | true =>
            rw [htruthy, if_pos rfl] at hout
            obtain ⟨values, hvalues, -⟩ := bind_eq_ok hout
            cases c with
            | none => cases hitem
            | some v => exact (h.items_eq_ok_iff.mp hvalues).1 item hitem

lemma firstValues_eq_none_iff {cs : List (Option Json)} :
    firstValues valueOf cs = none ↔ ∀ c ∈ cs, (itemsIn c).filterMap valueOf = [] := by
  induction cs with
  | nil => simp [firstValues]
  | cons c cs ih =>
      rw [firstValues, List.forall_mem_cons]
      cases hvalues : (itemsIn c).filterMap valueOf with
      | nil => simp [ih]
      | cons a rest => simp

/-- The values are those of the first candidate that has one. -/
lemma firstValues_append {pre post : List (Option Json)} {c : Option Json}
    (hpre : ∀ d ∈ pre, (itemsIn d).filterMap valueOf = [])
    (hc : (itemsIn c).filterMap valueOf ≠ []) :
    firstValues valueOf (pre ++ c :: post) = some ((itemsIn c).filterMap valueOf) := by
  induction pre with
  | nil =>
      rw [List.nil_append, firstValues]
      cases hvalues : (itemsIn c).filterMap valueOf with
      | nil => exact absurd hvalues hc
      | cons a rest => rfl
  | cons d pre ih =>
      obtain ⟨hd, hpre⟩ := List.forall_mem_cons.mp hpre
      rw [List.cons_append, firstValues, hd]
      exact ih hpre

end

/-! ### Channels -/

/-- The channel of an item: its property coerced to a number, if that is a natural one. -/
def channelOf (item : Json) : Option ℕ :=
  match toNumber (item.get? "channel") with
  | .ok channel => channel.natural?
  | .error _ => none

/-- A property is coerced to the number `1`. -/
def isOn (v : Option Json) : Bool :=
  match toNumber v with
  | .ok onoff => onoff = .fin 1
  | .error _ => false

/-- The coercion of a property does not throw. -/
def Converts (v : Option Json) : Prop := ∃ n, toNumber v = .ok n

/-- A decoder that coerces a channel and a switch, and makes a state of both. -/
lemma decodes_of_channel {α : Type} (onoffOf : Json → Option Json) (state : Json → Bool → ℕ → α)
    (hblank : ∀ {item}, (∀ k, item.get? k = none) → onoffOf item = none) :
    Decodes (fun item => do
        let channel ← toNumber (item.get? "channel")
        let onoff ← toNumber (onoffOf item)
        return channel.natural?.map (state item (onoff = .fin 1)))
      (fun item => Converts (item.get? "channel") ∧ Converts (onoffOf item))
      (fun item => (channelOf item).map (state item (isOn (onoffOf item)))) where
  ok_iff := by
    intro item a
    rw [Converts, Converts, channelOf, isOn]
    cases toNumber (item.get? "channel") with
    | error e => simp [bind, Except.bind]
    | ok channel =>
        cases toNumber (onoffOf item) with
        | error e => simp [bind, Except.bind]
        | ok onoff =>
            constructor
            · intro h
              exact ⟨⟨⟨_, rfl⟩, _, rfl⟩, (Except.ok.inj h).symm⟩
            · rintro ⟨-, rfl⟩
              rfl
  blank := by
    intro item h
    rw [channelOf, h "channel", hblank h]
    exact ⟨⟨⟨_, rfl⟩, _, rfl⟩, rfl⟩

/-- The switch that an item is, as the channel is read off it. -/
def toggleOf (item : Json) (channel : ℕ) : LanToggleXState :=
  { channel, onoff := isOn (item.get? "onoff") }

/-- The property of a light that says whether it is on. -/
def lightOnoff (item : Json) : Option Json := firstOf (some item) ["onoff", "state"]

/-- The light that an item is, as its switch and channel are read off it. -/
def lightWith (item : Json) (onoff : Bool) (channel : ℕ) : LanLightState :=
  { channel
    onoff
    luminance := coerceFiniteNumber
      (firstOf (some item) ["luminance", "brightness", "luma", "lum"])
    temperature := coerceFiniteNumber
      (firstOf (some item) ["temperature", "temp", "colorTemp", "colortemp"])
    rgb := coerceRgb (item.get? "rgb") }

/-- The light that an item is, as the channel is read off it. -/
def lightOf (item : Json) (channel : ℕ) : LanLightState :=
  lightWith item (isOn (lightOnoff item)) channel

/-- The states that the items with a channel stand for. -/
def stateOf {α : Type} (state : Json → ℕ → α) (item : Json) : Option α :=
  (channelOf item).map (state item)

lemma firstOf_eq_none {item : Json} (h : ∀ k, item.get? k = none) (ks : List String) :
    firstOf (some item) ks = none := by
  induction ks with
  | nil => rfl
  | cons k ks ih =>
      have hcons : firstOf (some item) (k :: ks) =
          coalesce (item.get? k) (firstOf (some item) ks) := rfl
      rw [hcons, h k, ih]
      rfl

lemma decodes_toggleXItem :
    Decodes toggleXItem (fun item => Converts (item.get? "channel") ∧ Converts (item.get? "onoff"))
      (stateOf toggleOf) :=
  decodes_of_channel (fun item => item.get? "onoff")
    (fun _ onoff channel => LanToggleXState.mk channel onoff) fun h => h "onoff"

lemma decodes_lightItem :
    Decodes lightItem (fun item => Converts (item.get? "channel") ∧ Converts (lightOnoff item))
      (stateOf lightOf) :=
  decodes_of_channel lightOnoff lightWith fun h => firstOf_eq_none h _

/-! ### Digests -/

/-- A digest is read: there is none exactly if no candidate holds an item with a channel, and
otherwise it holds the states of the first candidate that does, sorted by channel. -/
structure ReadsDigest {α : Type} (state : Json → ℕ → α) (channel : α → ℕ)
    (candidates : List (Option Json)) (result : Except String (Option (List α))) : Prop where
  null : result = .ok none ↔ ∀ c ∈ candidates, ∀ item ∈ itemsIn c, channelOf item = none
  first : ∀ pre c post, candidates = pre ++ c :: post →
    (∀ d ∈ pre, ∀ item ∈ itemsIn d, channelOf item = none) →
    (∃ item ∈ itemsIn c, channelOf item ≠ none) →
    ∃ out, result = .ok (some out)
      ∧ StableSort (fun a b => channel a ≤ channel b) out ((itemsIn c).filterMap (stateOf state))

lemma filterMap_stateOf_eq_nil {α : Type} (state : Json → ℕ → α) {items : List Json} :
    items.filterMap (stateOf state) = [] ↔ ∀ item ∈ items, channelOf item = none := by
  rw [List.filterMap_eq_nil_iff]
  simp only [stateOf, Option.map_eq_none_iff]

/-- A list of candidates has a first one with an item that stands for a state, or none. -/
lemma exists_first (candidates : List (Option Json)) :
    (∀ c ∈ candidates, ∀ item ∈ itemsIn c, channelOf item = none) ∨
      ∃ pre c post, candidates = pre ++ c :: post
        ∧ (∀ d ∈ pre, ∀ item ∈ itemsIn d, channelOf item = none)
        ∧ ∃ item ∈ itemsIn c, channelOf item ≠ none := by
  induction candidates with
  | nil => exact .inl fun c hc => absurd hc List.not_mem_nil
  | cons c cs ih =>
      by_cases hc : ∃ item ∈ itemsIn c, channelOf item ≠ none
      · exact .inr ⟨[], c, cs, rfl, fun d hd => absurd hd List.not_mem_nil, hc⟩
      · have hnone : ∀ item ∈ itemsIn c, channelOf item = none := by
          intro item hitem
          by_contra hne
          exact hc ⟨item, hitem, hne⟩
        rcases ih with hall | ⟨pre, d, post, rfl, hpre, hd⟩
        · exact .inl (List.forall_mem_cons.mpr ⟨hnone, hall⟩)
        · exact .inr ⟨c :: pre, d, post, rfl, List.forall_mem_cons.mpr ⟨hnone, hpre⟩, hd⟩

/-- A digest is read exactly if no item that is looked at throws. -/
lemma readsDigest_iff {α : Type} {decode : Json → Except String (Option α)}
    {convertible : Json → Prop} {state : Json → ℕ → α} {channel : α → ℕ}
    (h : Decodes decode convertible (stateOf state)) (candidates : List (Option Json)) :
    ReadsDigest state channel candidates
        (do return (← firstDecoded decode candidates).map (sortByChannel channel)) ↔
      ∀ c ∈ lookedAt (stateOf state) candidates, ∀ item ∈ itemsIn c, convertible item := by
  constructor
  · intro hreads
    -- the result is not an exception
    obtain ⟨out, hout⟩ : ∃ out, firstDecoded decode candidates = .ok out := by
      rcases exists_first candidates with hnone | ⟨pre, c, post, hcands, hpre, hc⟩
      · obtain ⟨out, hout, -⟩ := bind_eq_ok (hreads.null.mpr hnone)
        exact ⟨out, hout⟩
      · obtain ⟨_, hresult, -⟩ := hreads.first pre c post hcands hpre hc
        obtain ⟨out, hout, -⟩ := bind_eq_ok hresult
        exact ⟨out, hout⟩
    exact (h.firstDecoded_eq_ok_iff.mp hout).1
  · intro hall
    rw [h.firstDecoded_eq_ok_iff.mpr ⟨hall, rfl⟩]
    refine ⟨?_, fun pre c post hcands hpre hc => ?_⟩
    · have hnone : firstValues (stateOf state) candidates = none ↔
          ∀ c ∈ candidates, ∀ item ∈ itemsIn c, channelOf item = none := by
        simp only [firstValues_eq_none_iff, filterMap_stateOf_eq_nil]
      rw [← hnone]
      cases firstValues (stateOf state) candidates <;> simp [bind, Except.bind, pure, Except.pure]
    · have hvalues : firstValues (stateOf state) candidates
          = some ((itemsIn c).filterMap (stateOf state)) := by
        rw [hcands]
        refine firstValues_append (fun d hd => ?_) fun hnil => ?_
        · exact (filterMap_stateOf_eq_nil state).mpr (hpre d hd)
        · obtain ⟨item, hitem, hne⟩ := hc
          exact hne ((filterMap_stateOf_eq_nil state).mp hnil item hitem)
      rw [hvalues]
      exact ⟨_, rfl, stableSort_insertionSort _⟩

/-! ### Layouts -/

/-- An array has no property but its indices. -/
lemma get?_arr_eq_none (items : List Json) {k : String} (h : ∃ c ∈ k.toList, c.isDigit = false) :
    (Json.arr items).get? k = none := by
  obtain ⟨c, hc, hdigit⟩ := h
  rw [Json.get?, Assoc.get_eq_none_iff]
  intro hk
  obtain ⟨e, he, rfl⟩ := List.mem_map.mp hk
  obtain ⟨⟨v, n⟩, -, rfl⟩ := List.mem_map.mp he
  exact notMem_toString n hdigit hc

lemma firstDecoded_none {α : Type} (decode : Json → Except String (Option α))
    (cs : List (Option Json)) : firstDecoded decode (none :: cs) = firstDecoded decode cs := rfl

/-- A candidate that holds no state is skipped. -/
lemma Decodes.firstDecoded_skip {α : Type} {decode : Json → Except String (Option α)}
    {convertible : Json → Prop} {valueOf : Json → Option α} (h : Decodes decode convertible valueOf)
    {v : Json} (hv : itemsOf v = [v]) (hitem : convertible v ∧ valueOf v = none)
    (cs : List (Option Json)) : firstDecoded decode (some v :: cs) = firstDecoded decode cs := by
  have hc : ∀ item ∈ itemsIn (some v), convertible item := by
    intro item hmem
    rw [itemsIn, hv] at hmem
    exact List.mem_singleton.mp hmem ▸ hitem.1
  rw [h.firstDecoded_cons hc, itemsIn, hv, List.filterMap_cons_none hitem.2]
  rfl

/-- What is under two keys, if the value under the first one is known. -/
lemma digestAt_cons {resp D : Json} {k : String} (h : digestAt resp [k] = some D) (k' : String) :
    digestAt resp [k, k'] = D.get? k' := by
  have hpath : digestAt resp [k, k'] = Json.opt (digestAt resp [k]) k' := by
    simp [digestAt, Json.path]
  rw [hpath, h]
  rfl

/-- The candidates of the two digests. -/
def toggleCandidates (resp : Json) : List (Option Json) :=
  [["togglex"], ["toggleX"], ["toggle"], ["togglex", "togglex"]].map (digestAt resp)

def lightCandidates (resp : Json) : List (Option Json) :=
  [["light"], ["light", "light"], ["lamp"], ["lamp", "lamp"]].map (digestAt resp)

/-- The digest of switches of a reply is read. -/
def ReadsToggles (resp : Json) : Prop :=
  ReadsDigest toggleOf LanToggleXState.channel (toggleCandidates resp) (extractLanToggleX resp)

/-- The digest of lights of a reply is read. -/
def ReadsLights (resp : Json) : Prop :=
  ReadsDigest lightOf LanLightState.channel (lightCandidates resp) (extractLanLight resp)

/-- Two replies with the same items, directly under a key and one level down, and nothing under the
other keys. -/
structure TwoLayouts (items : List Json) (k : String) (others : List String) (flat nested : Json) :
    Prop where
  items_flat : digestAt flat [k] = some (.arr items)
  items_nested : digestAt nested [k] = some (.obj [(k, .arr items)])
  nothing_else : ∀ k' ∈ others, digestAt flat [k'] = none ∧ digestAt nested [k'] = none

/-- Under the key taken twice there is nothing in the one layout, and the list in the other one. -/
lemma digestAt_nested {items : List Json} {k : String} {others : List String} {flat nested : Json}
    (h : TwoLayouts items k others flat nested) (hk : ∃ c ∈ k.toList, c.isDigit = false) :
    digestAt flat [k, k] = none ∧ digestAt nested [k, k] = some (.arr items) := by
  rw [digestAt_cons h.items_flat, digestAt_cons h.items_nested]
  exact ⟨get?_arr_eq_none items hk, by simp [Assoc.get]⟩

lemma digestAt_missing {resp : Json} {k : String} (h : digestAt resp [k] = none) (k' : String) :
    digestAt resp [k, k'] = none := by
  have hpath : digestAt resp [k, k'] = Json.opt (digestAt resp [k]) k' := by
    simp [digestAt, Json.path]
  rw [hpath, h]
  rfl

/-- **The layouts of switches** are read alike, whatever the items. -/
lemma extractLanToggleX_nested {items : List Json} {flat nested : Json}
    (h : TwoLayouts items "togglex" ["toggleX", "toggle"] flat nested) :
    extractLanToggleX flat = extractLanToggleX nested := by
  obtain ⟨hflat, hnested⟩ := digestAt_nested h ⟨'t', by decide, rfl⟩
  obtain ⟨hX, hX'⟩ := h.nothing_else "toggleX" (by decide)
  obtain ⟨ht, ht'⟩ := h.nothing_else "toggle" (by decide)
  have hobj : firstDecoded toggleXItem [some (.obj [("togglex", .arr items)]), none, none,
      some (.arr items)] = firstDecoded toggleXItem [none, none, some (.arr items)] :=
    decodes_toggleXItem.firstDecoded_skip rfl ⟨⟨⟨_, rfl⟩, _, rfl⟩, rfl⟩ _
  have htail : firstDecoded toggleXItem [some (.arr items), none, none, none] =
      firstDecoded toggleXItem [some (.arr items)] := rfl
  simp only [extractLanToggleX, List.map_cons, List.map_nil, h.items_flat, h.items_nested, hflat,
    hnested, hX, hX', ht, ht', hobj, htail, firstDecoded_none]

/-- **The layouts of lights** are read alike, whatever the items. -/
lemma extractLanLight_nested {items : List Json} {k other : String} {flat nested : Json}
    (hk : (k, other) ∈ [("light", "lamp"), ("lamp", "light")])
    (h : TwoLayouts items k [other] flat nested) :
    extractLanLight flat = extractLanLight nested := by
  obtain ⟨hother, hother'⟩ := h.nothing_else other (by simp)
  have hobj : ∀ k ∈ ["light", "lamp"], ∀ cs,
      firstDecoded lightItem (some (.obj [(k, .arr items)]) :: cs) = firstDecoded lightItem cs := by
    intro k hk cs
    fin_cases hk <;>
      exact decodes_lightItem.firstDecoded_skip rfl ⟨⟨⟨_, rfl⟩, _, rfl⟩, rfl⟩ cs
  have htail : firstDecoded lightItem [some (.arr items), none, none, none] =
        firstDecoded lightItem [some (.arr items)]
      ∧ firstDecoded lightItem [some (.arr items), none, none] =
        firstDecoded lightItem [some (.arr items)]
      ∧ firstDecoded lightItem [some (.arr items), none] =
        firstDecoded lightItem [some (.arr items)] := ⟨rfl, rfl, rfl⟩
  have hmissing := digestAt_missing hother other
  have hmissing' := digestAt_missing hother' other
  fin_cases hk
  all_goals
    obtain ⟨hflat, hnested⟩ := digestAt_nested h ⟨'l', by decide, rfl⟩
    simp only [extractLanLight, List.map_cons, List.map_nil, h.items_flat, h.items_nested, hflat,
      hnested, hother, hother', hmissing, hmissing', hobj _ List.mem_cons_self,
      hobj "lamp" (by decide), htail, firstDecoded_none]

/-! ### Every reply -/

/-- The digest of switches is read exactly if no item that is looked at throws. -/
lemma readsToggles_iff (resp : Json) :
    ReadsToggles resp ↔ ∀ c ∈ lookedAt (stateOf toggleOf) (toggleCandidates resp),
      ∀ item ∈ itemsIn c, Converts (item.get? "channel") ∧ Converts (item.get? "onoff") :=
  readsDigest_iff decodes_toggleXItem (toggleCandidates resp)

/-- The digest of lights is read exactly if no item that is looked at throws. -/
lemma readsLights_iff (resp : Json) :
    ReadsLights resp ↔ ∀ c ∈ lookedAt (stateOf lightOf) (lightCandidates resp),
      ∀ item ∈ itemsIn c, Converts (item.get? "channel") ∧ Converts (lightOnoff item) :=
  readsDigest_iff decodes_lightItem (lightCandidates resp)

/-- **The digests** of a reply are read exactly if no coercion of an item that is looked at throws,
and the two layouts of a list of items are read alike. -/
theorem reads_digests (resp : Json) (items : List Json) :
    (ReadsToggles resp ↔ ∀ c ∈ lookedAt (stateOf toggleOf) (toggleCandidates resp),
      ∀ item ∈ itemsIn c, Converts (item.get? "channel") ∧ Converts (item.get? "onoff"))
    ∧ (ReadsLights resp ↔ ∀ c ∈ lookedAt (stateOf lightOf) (lightCandidates resp),
      ∀ item ∈ itemsIn c, Converts (item.get? "channel") ∧ Converts (lightOnoff item))
    ∧ (∀ flat nested, TwoLayouts items "togglex" ["toggleX", "toggle"] flat nested →
      extractLanToggleX flat = extractLanToggleX nested)
    ∧ ∀ k other flat nested, (k, other) ∈ [("light", "lamp"), ("lamp", "light")] →
      TwoLayouts items k [other] flat nested → extractLanLight flat = extractLanLight nested :=
  ⟨readsToggles_iff resp, readsLights_iff resp, fun _ _ h => extractLanToggleX_nested h,
    fun _ _ _ _ hk h => extractLanLight_nested hk h⟩

/-- A reply with a digest under a key. -/
def digestReply (k : String) (digest : Json) : Json :=
  .obj [("payload", .obj [("all", .obj [("digest", .obj [(k, digest)])])])]

/-- A channel that is an object with a `toString` of its own makes the whole digest unreadable. -/
theorem not_readsToggles : ¬ ReadsToggles (digestReply "togglex" (.arr [
    .obj [("channel", .num (.fin 0)), ("onoff", .num (.fin 1))],
    .obj [("channel", .obj [("toString", .null)]), ("onoff", .num (.fin 1))]])) := by
  intro h
  obtain ⟨⟨n, hn⟩, -⟩ := (readsToggles_iff _).mp h _ List.mem_cons_self _
    (List.mem_cons_of_mem _ List.mem_cons_self)
  cases hn

end Merossity
