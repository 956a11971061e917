import Merossity.Api.Digest

/-!
The colour of a light, for `coerceRgb` of `api/shared.ts`.

* `Encodes v r g b` says that a JSON value is one of the encodings of a colour: the packed number,
  an array of components, or an object of components under either of their names.
* `coerceRgb_packed` and `coerceRgb_object` are the branches of the decoder. The second one, for
  arrays and objects, tests each component and makes the packed number of three bytes
  (`pack_bytes`).
* The first branch rounds the number and does not test it, so `readsColour_iff`: a value is decoded
  as a colour exactly if it is not a number outside of the packed colours.
-/

namespace Merossity

open Js

/-! ### Numerals -/

/-- A number, or the text of a number. -/
inductive IsNumeral : Json → ℚ → Prop
  | num (q : ℚ) : IsNumeral (.num (.fin q)) q
  | str {s : String} {q : ℚ} : trim s ≠ "" → numberOfString s = .fin q → IsNumeral (.str s) q

lemma finite?_eq_some_iff {n : Number} {q : ℚ} : n.finite? = some q ↔ n = .fin q := by
  cases n <;> simp [Number.finite?]

lemma coerceFiniteNumber_eq_some_iff {v : Json} {q : ℚ} :
    coerceFiniteNumber (some v) = some q ↔ IsNumeral v q := by
  constructor
  · intro h
    cases v with
    | num n =>
        obtain rfl := finite?_eq_some_iff.mp h
        exact .num q
    | str s =>
        rw [coerceFiniteNumber] at h
        split at h
        next hs => exact .str hs (finite?_eq_some_iff.mp h)
        next => cases h
    | _ => cases h
  · rintro (_ | ⟨hs, hq⟩)
    · rfl
    · rw [coerceFiniteNumber, if_pos hs, hq]
      rfl

/-- An array and an object are not numerals. -/
lemma coerceFiniteNumber_eq_none {v : Json} (h : v.isObject) :
    coerceFiniteNumber (some v) = none := by
  cases v <;> first | rfl | cases h

/-! ### Bytes -/

/-- A component of a colour. -/
def IsByte (v : Json) (n : ℕ) : Prop := IsNumeral v n ∧ n ≤ 255

lemma byte?_eq_some_iff {q : ℚ} {n : ℕ} : byte? q = some n ↔ q = n ∧ n ≤ 255 := by
  rw [byte?]
  constructor
  · intro h
    split at h
    next hq =>
      obtain ⟨hden, hpos, hle⟩ := hq
      have hnum : (q.num : ℚ) = q := Rat.coe_int_num_of_den_eq_one hden
      have hnonneg : 0 ≤ q.num := Rat.num_nonneg.mpr hpos
      have hle' : q.num ≤ 255 := by
        rw [← hnum] at hle
        exact_mod_cast hle
      obtain rfl := Option.some.inj h
      refine ⟨?_, by omega⟩
      have hcast : ((q.num.toNat : ℤ) : ℚ) = q := by rw [Int.toNat_of_nonneg hnonneg, hnum]
      exact_mod_cast hcast.symm
    next => cases h
  · rintro ⟨rfl, hn⟩
    have hle : (n : ℚ) ≤ 255 := by exact_mod_cast hn
    rw [if_pos ⟨Rat.den_natCast n, Nat.cast_nonneg n, hle⟩, Rat.num_natCast, Int.toNat_natCast]

lemma bind_byte?_eq_some_iff {v : Json} {n : ℕ} :
    (coerceFiniteNumber (some v)).bind byte? = some n ↔ IsByte v n := by
  rw [IsByte, Option.bind_eq_some_iff]
  constructor
  · rintro ⟨q, hq, hn⟩
    obtain ⟨rfl, hle⟩ := byte?_eq_some_iff.mp hn
    exact ⟨coerceFiniteNumber_eq_some_iff.mp hq, hle⟩
  · rintro ⟨hq, hle⟩
    exact ⟨n, coerceFiniteNumber_eq_some_iff.mpr hq, byte?_eq_some_iff.mpr ⟨rfl, hle⟩⟩

/-- The number of a colour, `0xRRGGBB`. -/
def colourOf (r g b : ℕ) : ℕ := r * 65536 + g * 256 + b

/-- The shifts put three bytes next to each other. -/
lemma pack_bytes {r g b : ℕ} (hr : r ≤ 255) (hg : g ≤ 255) (hb : b ≤ 255) :
    (r &&& 0xff) <<< 16 ||| (g &&& 0xff) <<< 8 ||| (b &&& 0xff) = colourOf r g b := by
  have hmask : ∀ n ≤ 255, n &&& 0xff = n := fun n hn =>
    Nat.and_two_pow_sub_one_of_lt_two_pow (n := 8) (by omega)
  rw [hmask r hr, hmask g hg, hmask b hb]
  calc r <<< 16 ||| g <<< 8 ||| b
      = (r <<< 8 ||| g) <<< 8 ||| b := by rw [Nat.shiftLeft_or_distrib, ← Nat.shiftLeft_add]
    _ = (r <<< 8 + g) <<< 8 + b := by
        rw [← Nat.shiftLeft_add_eq_or_of_lt (by omega : g < 2 ^ 8),
          ← Nat.shiftLeft_add_eq_or_of_lt (by omega : b < 2 ^ 8)]
    _ = colourOf r g b := by
        rw [colourOf, Nat.shiftLeft_eq, Nat.shiftLeft_eq]
        omega

lemma colourOf_le {r g b : ℕ} (hr : r ≤ 255) (hg : g ≤ 255) (hb : b ≤ 255) :
    colourOf r g b ≤ 0xFFFFFF := by
  rw [colourOf]
  omega

/-- Three components make a colour exactly if each of them is a byte. -/
lemma packRgb_eq_some_iff {r g b : Option Json} {q : ℚ} :
    packRgb r g b = some q ↔ ∃ x y z l m n, r = some x ∧ g = some y ∧ b = some z
      ∧ IsByte x l ∧ IsByte y m ∧ IsByte z n ∧ q = colourOf l m n := by
  have hbyte : ∀ {v : Option Json} {n : ℕ}, (coerceFiniteNumber v).bind byte? = some n ↔
      ∃ x, v = some x ∧ IsByte x n := by
    intro v n
    cases v with
    | none => simp [coerceFiniteNumber]
    | some v => simp [bind_byte?_eq_some_iff]
  constructor
  · intro h
    obtain ⟨l, hl, h⟩ := Option.bind_eq_some_iff.mp h
    obtain ⟨m, hm, h⟩ := Option.bind_eq_some_iff.mp h
    obtain ⟨n, hn, h⟩ := Option.bind_eq_some_iff.mp h
    obtain ⟨x, hx, hxl⟩ := hbyte.mp hl
    obtain ⟨y, hy, hym⟩ := hbyte.mp hm
    obtain ⟨z, hz, hzn⟩ := hbyte.mp hn
    refine ⟨x, y, z, l, m, n, hx, hy, hz, hxl, hym, hzn, ?_⟩
    rw [← pack_bytes hxl.2 hym.2 hzn.2]
    exact (Option.some.inj h).symm
  · rintro ⟨x, y, z, l, m, n, hx, hy, hz, hl, hm, hn, rfl⟩
    rw [packRgb, hbyte.mpr ⟨x, hx, hl⟩, hbyte.mpr ⟨y, hy, hm⟩, hbyte.mpr ⟨z, hz, hn⟩,
      ← pack_bytes hl.2 hm.2 hn.2]
    rfl

/-! ### Encodings -/

/-- What an object has under a key or, if that is missing or null, under another one. -/
inductive Component (fs : Fields) (k other : String) : Json → Prop
  | key {v : Json} : Assoc.get fs k = some v → v ≠ .null → Component fs k other v
  | other {v : Json} : Assoc.get fs k = none ∨ Assoc.get fs k = some .null →
      Assoc.get fs other = some v → Component fs k other v

/-- The encodings of a colour. -/
inductive Encodes : Json → ℕ → ℕ → ℕ → Prop
  | packed {v : Json} {r g b : ℕ} : IsNumeral v (colourOf r g b) → Encodes v r g b
  | array {x y z : Json} {r g b : ℕ} (rest : List Json) : IsNumeral x r → IsNumeral y g →
      IsNumeral z b → Encodes (.arr (x :: y :: z :: rest)) r g b
  | object {fs : Fields} {x y z : Json} {r g b : ℕ} : Component fs "r" "red" x → IsNumeral x r →
      Component fs "g" "green" y → IsNumeral y g → Component fs "b" "blue" z → IsNumeral z b →
      Encodes (.obj fs) r g b

/-- `anyV?.k ?? anyV?.other`, as far as it is not null. -/
lemma firstOf_eq_some_iff {fs : Fields} {k other : String} {v : Json} (hv : v ≠ .null) :
    firstOf (some (.obj fs)) [k, other] = some v ↔ Component fs k other v := by
  have hfirst : firstOf (some (.obj fs)) [k, other] =
      coalesce (Assoc.get fs k) (coalesce (Assoc.get fs other) none) := rfl
  have hnone : ∀ w : Option Json, coalesce w none = some v ↔ w = some v := by
    rintro (_ | (_ | _ | _ | _ | _ | _)) <;> simp [coalesce, hv.symm]
  rw [hfirst]
  constructor
  · intro h
    cases hk : Assoc.get fs k with
    | none =>
        rw [hk] at h
        exact .other (.inl hk) ((hnone _).mp h)
    | some w =>
        rw [hk] at h
        cases w with
        | null => exact .other (.inr hk) ((hnone _).mp h)
        | _ =>
            obtain rfl := Option.some.inj h
            exact .key hk hv
  · rintro (⟨hk, -⟩ | ⟨hk | hk, hother⟩)
    · rw [hk]
      cases v <;> first | rfl | exact absurd rfl hv
    · rw [hk]
      exact (hnone _).mpr hother
    · rw [hk]
      exact (hnone _).mpr hother

lemma IsNumeral.ne_null {v : Json} {q : ℚ} (h : IsNumeral v q) : v ≠ .null := by
  rintro rfl
  cases h

/-! ### The branches of the decoder -/

/-- A number is rounded. -/
lemma coerceRgb_packed {v : Json} {q : ℚ} (h : IsNumeral v q) :
    coerceRgb (some v) = some (Number.round q : ℚ) := by
  unfold coerceRgb
  rw [coerceFiniteNumber_eq_some_iff.mpr h]

/-- An array or an object is decoded exactly to the colour that it encodes. -/
lemma coerceRgb_object {v : Json} (hv : v.isObject) {q : ℚ} :
    coerceRgb (some v) = some q ↔
      ∃ r g b, r ≤ 255 ∧ g ≤ 255 ∧ b ≤ 255 ∧ Encodes v r g b ∧ q = colourOf r g b := by
  have hnumeral : ∀ {p}, ¬ IsNumeral v p := by
    intro p hp
    rw [← coerceFiniteNumber_eq_some_iff, coerceFiniteNumber_eq_none hv] at hp
    cases hp
  unfold coerceRgb
  rw [coerceFiniteNumber_eq_none hv]
  constructor
  · intro h
    cases v with
    | arr items =>
        match items, h with
        | x :: y :: z :: rest, h =>
            obtain ⟨_, _, _, l, m, n, hx, hy, hz, hl, hm, hn, rfl⟩ := packRgb_eq_some_iff.mp h
            obtain rfl := Option.some.inj hx
            obtain rfl := Option.some.inj hy
            obtain rfl := Option.some.inj hz
            exact ⟨l, m, n, hl.2, hm.2, hn.2, .array rest hl.1 hm.1 hn.1, rfl⟩
    | obj fs =>
        obtain ⟨x, y, z, l, m, n, hx, hy, hz, hl, hm, hn, rfl⟩ := packRgb_eq_some_iff.mp h
        refine ⟨l, m, n, hl.2, hm.2, hn.2, .object ?_ hl.1 ?_ hm.1 ?_ hn.1, rfl⟩
        · exact (firstOf_eq_some_iff hl.1.ne_null).mp hx
        · exact (firstOf_eq_some_iff hm.1.ne_null).mp hy
        · exact (firstOf_eq_some_iff hn.1.ne_null).mp hz
    | _ => cases hv
  · rintro ⟨r, g, b, hr, hg, hb, henc, rfl⟩
    cases henc with
    | packed h => exact absurd h hnumeral
    | array rest hx hy hz =>
        exact packRgb_eq_some_iff.mpr
          ⟨_, _, _, r, g, b, rfl, rfl, rfl, ⟨hx, hr⟩, ⟨hy, hg⟩, ⟨hz, hb⟩, rfl⟩
    | object hx hxr hy hyg hz hzb =>
        refine packRgb_eq_some_iff.mpr
          ⟨_, _, _, r, g, b, ?_, ?_, ?_, ⟨hxr, hr⟩, ⟨hyg, hg⟩, ⟨hzb, hb⟩, rfl⟩
        · exact (firstOf_eq_some_iff hxr.ne_null).mpr hx
        · exact (firstOf_eq_some_iff hyg.ne_null).mpr hy
        · exact (firstOf_eq_some_iff hzb.ne_null).mpr hz

/-- What is neither a number nor an object is no colour. -/
lemma coerceRgb_eq_none {v : Json} (hv : ¬ v.isObject) (h : ∀ q, ¬ IsNumeral v q) :
    coerceRgb (some v) = none := by
  have hnone : coerceFiniteNumber (some v) = none :=
    Option.eq_none_iff_forall_ne_some.mpr fun q hq =>
      h q (coerceFiniteNumber_eq_some_iff.mp hq)
  unfold coerceRgb
  rw [hnone]
  cases v <;> first | rfl | exact absurd rfl hv

/-! ### Colours -/

/-- A value is decoded as a colour: what is made of it is a packed colour, each encoding of a colour
is decoded to that colour, and an array or an object that encodes none is not decoded. -/
structure ReadsColour (v : Json) : Prop where
  packed : ∀ q, coerceRgb (some v) = some q → ∃ n : ℕ, q = n ∧ n ≤ 0xFFFFFF
  decodes : ∀ r g b, r ≤ 255 → g ≤ 255 → b ≤ 255 → Encodes v r g b →
    coerceRgb (some v) = some (colourOf r g b : ℚ)
  rejects : v.isObject → (∀ r g b, r ≤ 255 → g ≤ 255 → b ≤ 255 → ¬ Encodes v r g b) →
    coerceRgb (some v) = none

/-- A number is rounded to a packed colour exactly if it is in their range. -/
lemma round_packed_iff {q : ℚ} :
    (∃ n : ℕ, (Number.round q : ℚ) = n ∧ n ≤ 0xFFFFFF) ↔ -1 / 2 ≤ q ∧ q < 0xFFFFFF + 1 / 2 := by
  have hlow : 0 ≤ Number.round q ↔ -1 / 2 ≤ q := by
    rw [Number.round_eq_floor, Int.le_floor, Int.cast_zero]
    constructor <;> intro h <;> linarith
  have hhigh : Number.round q ≤ 0xFFFFFF ↔ q < 0xFFFFFF + 1 / 2 := by
    rw [← Int.lt_add_one_iff, Number.round_eq_floor, Int.floor_lt]
    constructor <;> intro h <;> norm_num at h ⊢ <;> linarith
  rw [← hlow, ← hhigh]
  constructor
  · rintro ⟨n, hn, hle⟩
    have hround : Number.round q = n := by exact_mod_cast hn
    omega
  · rintro ⟨hpos, hle⟩
    refine ⟨(Number.round q).toNat, ?_, by omega⟩
    have hcast : ((Number.round q).toNat : ℤ) = Number.round q := Int.toNat_of_nonneg hpos
    exact_mod_cast hcast.symm

/-- **Colours**: every value is decoded as a colour, except for a number that is not one. -/
theorem readsColour_iff (v : Json) :
    ReadsColour v ↔ ∀ q, IsNumeral v q → -1 / 2 ≤ q ∧ q < 0xFFFFFF + 1 / 2 := by
  constructor
  · intro h q hq
    exact round_packed_iff.mp (h.packed _ (coerceRgb_packed hq))
  · intro h
    refine ⟨fun q hq => ?_, fun r g b hr hg hb henc => ?_, fun hv hnone => ?_⟩
    · by_cases hnum : ∃ p, IsNumeral v p
      · obtain ⟨p, hp⟩ := hnum
        rw [coerceRgb_packed hp] at hq
        obtain rfl := Option.some.inj hq
        exact round_packed_iff.mpr (h p hp)
      · by_cases hv : v.isObject
        · obtain ⟨r, g, b, hr, hg, hb, -, rfl⟩ := (coerceRgb_object hv).mp hq
          exact ⟨colourOf r g b, rfl, colourOf_le hr hg hb⟩
        · rw [coerceRgb_eq_none hv (not_exists.mp hnum)] at hq
          cases hq
    · by_cases hv : v.isObject
      · exact (coerceRgb_object hv).mpr ⟨r, g, b, hr, hg, hb, henc, rfl⟩
      · cases henc with
        | packed hnum =>
            rw [coerceRgb_packed hnum, Number.round_natCast, Int.cast_natCast]
        | array => exact absurd rfl hv
        | object => exact absurd rfl hv
    · refine Option.eq_none_iff_forall_ne_some.mpr fun q hq => ?_
      obtain ⟨r, g, b, hr, hg, hb, henc, -⟩ := (coerceRgb_object hv).mp hq
      exact hnone r g b hr hg hb henc

/-- A negative number is left as it is. -/
theorem not_readsColour_negative : ¬ ReadsColour (.num (.fin (-5))) := fun h =>
  absurd ((readsColour_iff _).mp h (-5) (.num _)) (by norm_num)

end Merossity
