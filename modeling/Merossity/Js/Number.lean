import Mathlib.Tactic
import Mathlib.Data.List.DropRight

/-!
JavaScript numbers and the text of numbers.

A number is a finite value, an infinity or `NaN`. The finite ones are kept as exact
rationals: reading a numeral and dividing round to the nearest double (`ofRat`), and
integers and comparisons are exact. Negative zero is not told apart from zero, which
no comparison, sum or `JSON.stringify` does either.

* `Number.round` is `Math.round`, `Number.isInteger` and `Number.finite?` the tests of
  the standard library.
* `trim` is `String.prototype.trim`; `trim_trim` says that it is idempotent.
* `numberOfString` is the conversion `Number(s)`, `Number.toText` the conversion
  `String(n)`, `parseInt10` is `Number.parseInt(s, 10)`.
-/

namespace Js

/-- A JavaScript number. -/
inductive Number where
  | fin (q : ℚ)
  | inf (negative : Bool)
  | nan
  deriving DecidableEq

namespace Number

/-! ### Doubles -/

/-- The exponent `e` with `2^e ≤ q < 2^(e+1)` of a positive rational. -/
def log2 (q : ℚ) : ℤ :=
  let e : ℤ := (Nat.log2 q.num.toNat : ℤ) - (Nat.log2 q.den : ℤ)
  if q < (2 : ℚ) ^ e then e - 1 else e

/-- The nearest integer, a tie going to the even one. -/
def roundHalfEven (q : ℚ) : ℤ :=
  let f := q.floor
  if q - f < 1 / 2 then f
  else if 1 / 2 < q - f then f + 1
  else if f % 2 = 0 then f else f + 1

/-- The double nearest to a rational: 53 significant bits, exponents from `-1074`, and
an infinity from `2^1024` on. -/
def ofRat (q : ℚ) : Number :=
  if q = 0 then fin 0
  else
    let ulp : ℚ := (2 : ℚ) ^ (max (log2 |q|) (-1022) - 52)
    let v : ℚ := roundHalfEven (|q| / ulp) * ulp
    if (2 : ℚ) ^ (1024 : ℕ) ≤ v then inf (decide (q < 0))
    else fin (if q < 0 then -v else v)

/-- The value of a finite number: `Number.isFinite` together with what it guards. -/
def finite? : Number → Option ℚ
  | fin q => some q
  | _ => none

/-- `Number.isInteger`. -/
def isInteger : Number → Bool
  | fin q => q.den = 1
  | _ => false

/-- The channel numbers of the protocol: `Number.isInteger(n) && n >= 0`. -/
def natural? : Number → Option ℕ
  | fin q => if q.den = 1 ∧ 0 ≤ q then some q.num.toNat else none
  | _ => none

/-- `Math.round` of a finite number: the nearest integer, a tie going up. -/
def round (q : ℚ) : ℤ := (q + 1 / 2).floor

lemma round_eq_floor (q : ℚ) : round q = ⌊q + 1 / 2⌋ := rfl

@[simp] lemma round_natCast (n : ℕ) : round (n : ℚ) = n := by
  rw [round_eq_floor, Int.floor_eq_iff]
  push_cast
  constructor <;> linarith

/-- The quotient of two finite numbers, `b ≠ 0`. -/
def div (a b : ℚ) : ℚ := ((ofRat (a / b)).finite?).getD 0

/-- The result of a sum, a difference or a product that does not overflow. -/
def rounded (q : ℚ) : ℚ := ((ofRat q).finite?).getD 0

end Number

/-! ### White space and letter case -/

/-- What is said of the characters of a list is decided by a look at each of them, and not at all
characters. -/
instance (priority := 2000) decidableForallMemChar (l : List Char) (p : Char → Prop)
    [DecidablePred p] : Decidable (∀ c ∈ l, p c) :=
  List.decidableBAll p l

/-- White space and line terminators, what `trim` removes. -/
def isSpace (c : Char) : Bool :=
  c ∈ ['\t', '\n', '\x0b', '\x0c', '\r', ' ', '\u00a0', '\u1680', '\u2028', '\u2029', '\u202f',
    '\u205f', '\u3000', '\ufeff'] || ('\u2000' ≤ c && c ≤ '\u200a')

/-- The characters left when white space is removed from both ends. -/
def trimChars (l : List Char) : List Char :=
  (l.dropWhile isSpace).rdropWhile isSpace

/-- `String.prototype.trim`. -/
def trim (s : String) : String := String.ofList (trimChars s.toList)

lemma trimChars_trimChars (l : List Char) : trimChars (trimChars l) = trimChars l := by
  have h : (trimChars l).dropWhile isSpace = trimChars l := by
    rw [List.dropWhile_eq_self_iff]
    intro hlen
    -- the first character is that of `l.dropWhile isSpace`
    have hpre : trimChars l <+: l.dropWhile isSpace := List.rdropWhile_prefix isSpace _
    have hpos : 0 < (l.dropWhile isSpace).length := lt_of_lt_of_le hlen hpre.length_le
    have hhead := List.dropWhile_get_zero_not isSpace l hpos
    rwa [List.get_eq_getElem, ← hpre.getElem hlen] at hhead
  have hdef : trimChars (trimChars l) = ((trimChars l).dropWhile isSpace).rdropWhile isSpace := rfl
  rw [hdef, h, trimChars, List.rdropWhile_idempotent]

/-- Trimming twice is trimming once. -/
@[simp] lemma trim_trim (s : String) : trim (trim s) = trim s := by
  rw [trim, trim, String.toList_ofList, trimChars_trimChars]

/-- `String.prototype.toLowerCase`, as far as a test against ASCII text can see it: the
ASCII letters, and the two other characters whose lower case has an ASCII letter. -/
def toLowerCase (s : String) : String :=
  String.ofList (s.toList.flatMap fun c =>
    if c = '\u212a' then ['k'] else if c = '\u0130' then ['i', '\u0307'] else [c.toLower])

/-- `String.prototype.toUpperCase`, as far as a test against ASCII text can see it: the
ASCII letters, and the characters whose upper case has an ASCII letter. -/
def toUpperCase (s : String) : String :=
  String.ofList (s.toList.flatMap fun c =>
    match ([('\u00df', "SS"), ('\u0131', "I"), ('\u017f', "S"), ('\u0149', "\u02bcN"),
        ('\u01f0', "J\u030c"), ('\u1e96', "H\u0331"), ('\u1e97', "T\u0308"),
        ('\u1e98', "W\u030a"), ('\u1e99', "Y\u030a"), ('\u1e9a', "A\u02be"),
        ('\ufb00', "FF"), ('\ufb01', "FI"), ('\ufb02', "FL"), ('\ufb03', "FFI"),
        ('\ufb04', "FFL"), ('\ufb05', "ST"), ('\ufb06', "ST")] : List (Char × String)).lookup c with
    | some up => up.toList
    | none => [c.toUpper])

/-- `String.prototype.includes`. -/
def includes (s sub : String) : Bool := decide (sub.toList <:+: s.toList)

/-- `String.prototype.startsWith`. -/
def startsWith (s pre : String) : Bool := pre.toList.isPrefixOf s.toList

/-- `String.prototype.split` at a single character. -/
def splitOn (s : String) (c : Char) : List String :=
  (s.toList.splitOn c).map String.ofList

/-! ### Reading numerals -/

/-- The value of digits in a base, the most significant first. -/
def digitsValue (base : ℕ) (l : List Char) : ℕ :=
  l.foldl (fun n c =>
    n * base + (if c.isDigit then c.toNat - 48 else c.toLower.toNat - 87)) 0

def isHexDigit (c : Char) : Bool := c.isDigit || ('a' ≤ c.toLower && c.toLower ≤ 'f')

/-- The exponent part of a decimal literal, `e` already read. -/
def exponentOf (l : List Char) : Option ℤ :=
  let (neg, ds) := match l with
    | '-' :: r => (true, r)
    | '+' :: r => (false, r)
    | r => (false, r)
  if ds ≠ [] ∧ ds.all Char.isDigit then
    some (if neg then -(digitsValue 10 ds : ℤ) else digitsValue 10 ds)
  else none

/-- An unsigned decimal literal: digits, a point, digits and an exponent, with a digit
before or after the point. -/
def decimalOf (l : List Char) : Option ℚ :=
  let ip := l.takeWhile Char.isDigit
  let rest := l.dropWhile Char.isDigit
  let (fp, rest) := match rest with
    | '.' :: r => (r.takeWhile Char.isDigit, r.dropWhile Char.isDigit)
    | r => ([], r)
  let m : ℚ := (digitsValue 10 (ip ++ fp) : ℚ) / 10 ^ fp.length
  if ip = [] ∧ fp = [] then none
  else match rest with
    | [] => some m
    | c :: r => if c = 'e' ∨ c = 'E' then (exponentOf r).map fun e => m * (10 : ℚ) ^ e else none

/-- A hexadecimal, octal or binary literal, the prefix already read. -/
def radixOf (base : ℕ) (ok : Char → Bool) (l : List Char) : Option ℚ :=
  if l ≠ [] ∧ l.all ok then some (digitsValue base l) else none

/-- `Number(s)`: blank text is zero, and what is not a numeral is `NaN`. -/
def numberOfString (s : String) : Number :=
  let signed (neg : Bool) (l : List Char) : Number :=
    if l = "Infinity".toList then .inf neg
    else match decimalOf l with
      | some q => .ofRat (if neg then -q else q)
      | none => .nan
  let radix (q : Option ℚ) : Number := (q.map Number.ofRat).getD .nan
  match trimChars s.toList with
  | [] => .fin 0
  | '0' :: 'x' :: l => radix (radixOf 16 isHexDigit l)
  | '0' :: 'X' :: l => radix (radixOf 16 isHexDigit l)
  | '0' :: 'o' :: l => radix (radixOf 8 (fun c => '0' ≤ c && c ≤ '7') l)
  | '0' :: 'O' :: l => radix (radixOf 8 (fun c => '0' ≤ c && c ≤ '7') l)
  | '0' :: 'b' :: l => radix (radixOf 2 (fun c => c = '0' || c = '1') l)
  | '0' :: 'B' :: l => radix (radixOf 2 (fun c => c = '0' || c = '1') l)
  | '-' :: l => signed true l
  | '+' :: l => signed false l
  | l => signed false l

/-- `Number.parseInt(s, 10)`: the digits at the start, after white space and a sign;
`none` is `NaN`. -/
def parseInt10 (s : String) : Option ℤ :=
  let l := s.toList.dropWhile isSpace
  let (neg, ds) := match l with
    | '-' :: r => (true, r.takeWhile Char.isDigit)
    | '+' :: r => (false, r.takeWhile Char.isDigit)
    | r => (false, r.takeWhile Char.isDigit)
  if ds = [] then none
  else some (if neg then -(digitsValue 10 ds : ℤ) else digitsValue 10 ds)

/-! ### Writing numerals -/

/-- The exponent `e` with `10^e ≤ q < 10^(e+1)` of a positive rational. -/
def log10 (q : ℚ) : ℤ :=
  if 1 ≤ q then Nat.log 10 q.floor.toNat else -(Nat.clog 10 (q⁻¹).ceil.toNat : ℤ)

/-- The shortest digits that read back as the positive double `q`, as a number, with
their count and the exponent of the first of them, trying `k` digits and then more. -/
def shortestDigits (q : ℚ) (e : ℤ) : ℕ → ℕ → ℕ × ℕ × ℤ
  | 0, k => ((q / (10 : ℚ) ^ (e - k + 1)).floor.toNat, k, e)
  | fuel + 1, k =>
      let scale : ℚ := (10 : ℚ) ^ (e - k + 1)
      let n := (Number.round (q / scale)).toNat
      if Number.ofRat (n * scale) = .fin q then
        -- rounding up may carry into a new first digit
        if n = 10 ^ k then (1, 1, e + 1) else (n, k, e)
      else shortestDigits q e fuel (k + 1)

/-- The decimal text of a positive double: `k` digits with the point after the `n`-th. -/
def decimalText (q : ℚ) : String :=
  let (ds, k, e) := shortestDigits q (log10 q) 17 1
  let digits := toString ds
  let n : ℤ := e + 1
  if (k : ℤ) ≤ n ∧ n ≤ 21 then digits ++ String.ofList (List.replicate (n - k).toNat '0')
  else if 0 < n ∧ n ≤ 21 then
    String.ofList (digits.toList.take n.toNat) ++ "." ++ String.ofList (digits.toList.drop n.toNat)
  else if -6 < n ∧ n ≤ 0 then
    "0." ++ String.ofList (List.replicate (-n).toNat '0') ++ digits
  else
    let exponent := (if 0 < n then "e+" else "e-") ++ toString (n - 1).natAbs
    match digits.toList with
    | [] => exponent
    | [d] => String.ofList [d] ++ exponent
    | d :: ds => String.ofList [d] ++ "." ++ String.ofList ds ++ exponent

/-- `String(n)`. -/
def Number.toText : Number → String
  | .nan => "NaN"
  | .inf true => "-Infinity"
  | .inf false => "Infinity"
  | .fin q => if q = 0 then "0" else if q < 0 then "-" ++ decimalText |q| else decimalText q

/-! ### Digits -/

lemma digitsValue_eq_ofDigitChars {l : List Char} (h : l.all Char.isDigit) (n : ℕ) :
    l.foldl (fun n c => n * 10 + (if c.isDigit then c.toNat - 48 else c.toLower.toNat - 87)) n
      = Nat.ofDigitChars 10 l n := by
  induction l generalizing n with
  | nil => simp
  | cons c l ih =>
      rw [List.all_cons, Bool.and_eq_true] at h
      rw [List.foldl_cons, Nat.ofDigitChars_cons, ih h.2, if_pos h.1, Nat.mul_comm]
      rfl

lemma toList_toString (n : ℕ) : (toString n).toList = Nat.toDigits 10 n := Nat.toList_repr

lemma isDigit_of_mem_toList {n : ℕ} {c : Char} (h : c ∈ (toString n).toList) : c.isDigit := by
  rw [toList_toString] at h
  exact Nat.isDigit_of_mem_toDigits (by decide) (by decide) h

/-- A digit is no white space and no sign. -/
lemma isSpace_of_isDigit {c : Char} (h : c.isDigit) : isSpace c = false ∧ c ≠ '-' ∧ c ≠ '+' := by
  have hge : 48 ≤ c.toNat ∧ c.toNat ≤ 57 := by
    simpa [Char.isDigit, UInt32.le_iff_toNat_le] using h
  obtain ⟨hlow, hhigh⟩ := hge
  rw [← Char.ofNat_toNat c]
  interval_cases c.toNat <;> exact ⟨by decide, by decide, by decide⟩

lemma digitsValue_toString (n : ℕ) : digitsValue 10 (toString n).toList = n := by
  have hdigits : ∀ c ∈ (toString n).toList, c.isDigit := fun c => isDigit_of_mem_toList
  rw [digitsValue, digitsValue_eq_ofDigitChars (by simpa using hdigits), toList_toString,
    Nat.ofDigitChars_toDigits (by decide) (by decide)]

lemma toString_ne_nil (n : ℕ) : (toString n).toList ≠ [] := by
  rw [toList_toString]
  exact Nat.toDigits_ne_nil

end Js
