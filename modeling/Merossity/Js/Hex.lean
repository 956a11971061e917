import Merossity.Js.Numerals

/-!
Hexadecimal numerals: `toString(16)`, `padStart` and `parseInt(_, 16)`.

* `hexValue_leftpad`: the digits of a number, padded with zeros and in either case, have its value.
-/

namespace Js

/-- The value of a hexadecimal digit. -/
def hexDigit? (c : Char) : Option ℕ :=
  ("0123456789abcdef".toList.idxOf? c).or ("0123456789ABCDEF".toList.idxOf? c)

/-- `Number.parseInt(text, 16)` of digits. -/
def hexValue (ds : List Char) : ℕ := ds.foldl (fun v d => 16 * v + (hexDigit? d).getD 0) 0

/-- `n.toString(16).padStart(width, '0')`. -/
def padHex (width n : ℕ) : List Char := (Nat.toDigits 16 n).leftpad width '0'

lemma not_isSpace_of_hexDigit {c : Char} (h : (hexDigit? c).isSome = true) : isSpace c = false := by
  have hmem : c ∈ "0123456789abcdefABCDEF".toList := by
    rw [hexDigit?, Option.isSome_or, Bool.or_eq_true, List.isSome_idxOf?, List.isSome_idxOf?] at h
    revert h
    simp
    tauto
  have hall : ∀ c ∈ "0123456789abcdefABCDEF".toList, isSpace c = false := by decide
  exact hall c hmem

/-- The digits of a number, each perhaps in the other case. -/
def Spells (f : Char → Char) : Prop := ∀ d < 16, hexDigit? (f (Nat.digitChar d)) = some d

lemma spells_id : Spells id := by
  rw [Spells]
  decide

lemma spells_toUpper : Spells Char.toUpper := by
  rw [Spells]
  decide

section

variable {f : Char → Char} (hf : Spells f)

include hf

lemma hexValue_append_singleton (ds : List Char) {d : ℕ} (hd : d < 16) :
    hexValue (ds ++ [f (Nat.digitChar d)]) = 16 * hexValue ds + d := by
  rw [hexValue, List.foldl_append, List.foldl_cons, List.foldl_nil, hf d hd, Option.getD_some]
  rfl

lemma hexValue_toDigits (n : ℕ) : hexValue ((Nat.toDigits 16 n).map f) = n := by
  induction n using Nat.strong_induction_on with
  | _ n ih =>
      rw [Nat.toDigits_eq_if (by decide)]
      split_ifs with hlt
      · exact (hexValue_append_singleton hf [] hlt).trans (Nat.zero_add n)
      · have hdiv : n / 16 < n := Nat.div_lt_self (by omega) (by decide)
        rw [List.map_append, List.map_singleton,
          hexValue_append_singleton hf _ (Nat.mod_lt n (by decide)), ih _ hdiv]
        omega

lemma isSome_of_mem_toDigits (n : ℕ) : ∀ c ∈ (Nat.toDigits 16 n).map f,
    (hexDigit? c).isSome = true := by
  induction n using Nat.strong_induction_on with
  | _ n ih =>
      intro c hc
      rw [Nat.toDigits_eq_if (by decide)] at hc
      split_ifs at hc with hlt
      · obtain rfl := List.mem_singleton.mp hc
        rw [hf n hlt]
        rfl
      · rw [List.map_append, List.map_singleton] at hc
        rcases List.mem_append.mp hc with hc | hc
        · exact ih _ (Nat.div_lt_self (by omega) (by decide)) c hc
        · obtain rfl := List.mem_singleton.mp hc
          rw [hf _ (Nat.mod_lt n (by decide))]
          rfl

lemma hexValue_replicate (k : ℕ) (ds : List Char) :
    hexValue (List.replicate k (f '0') ++ ds) = hexValue ds := by
  induction k with
  | zero => rfl
  | succ k ih =>
      have hzero : hexDigit? (f '0') = some 0 := hf 0 (by decide)
      rw [← ih, List.replicate_succ, List.cons_append, hexValue, List.foldl_cons, hzero]
      rfl

/-- The padded digits of a number have its value. -/
lemma hexValue_padHex (width n : ℕ) : hexValue ((padHex width n).map f) = n := by
  rw [padHex, List.leftpad, List.map_append, List.map_replicate, hexValue_replicate hf,
    hexValue_toDigits hf]

lemma isSome_of_mem_padHex (width n : ℕ) : ∀ c ∈ (padHex width n).map f,
    (hexDigit? c).isSome = true := by
  intro c hc
  rw [padHex, List.leftpad, List.map_append, List.map_replicate] at hc
  rcases List.mem_append.mp hc with hc | hc
  · obtain rfl := List.eq_of_mem_replicate hc
    have hzero : hexDigit? (f '0') = some 0 := hf 0 (by decide)
    rw [hzero]
    rfl
  · exact isSome_of_mem_toDigits hf n c hc

end

lemma length_padHex {width n : ℕ} (hwidth : 0 < width) (hn : n < 16 ^ width) :
    (padHex width n).length = width := by
  have hlen := (Nat.length_toDigits_le_iff (by decide : 1 < 16) hwidth).mpr hn
  rw [padHex, List.length_leftpad]
  omega

end Js
