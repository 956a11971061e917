import Merossity.Js.Rounding

/-!
The text of a number reads back as the number.

* `ofRat_of_near`: a rational that is within a relative distance of `10 ^ (-16) / 2` from a double is
  rounded to it. Sixteen digits after the first one are therefore enough (`shortestDigits_spec`).
* `decimalOf_decimalText` reads each of the layouts of `decimalText`.
* `numberOfString_toText`: `Number(String(n))` is `n`, for every double `n`.
-/

namespace Js

namespace Number

/-! ### Doubles -/

/-- The rational is the value of a double. -/
def IsDouble (q : ℚ) : Prop := ofRat q = fin q

instance (q : ℚ) : Decidable (IsDouble q) := inferInstanceAs (Decidable (ofRat q = fin q))

lemma lt_two_zpow_log2 {q : ℚ} (hq : 0 < q) : q < (2 : ℚ) ^ (log2 q + 1) := by
  have hnum : 0 < q.num := Rat.num_pos.mpr hq
  have hself : q = (q.num.toNat : ℚ) / q.den := by
    have hcast : ((q.num.toNat : ℤ) : ℚ) = q.num := by rw [Int.toNat_of_nonneg hnum.le]
    rw [show ((q.num.toNat : ℕ) : ℚ) = q.num by exact_mod_cast hcast]
    exact (Rat.num_div_den q).symm
  rw [log2]
  split_ifs with hlt
  · simpa using hlt
  · have hhigh : (q.num.toNat : ℚ) < 2 ^ (Nat.log2 q.num.toNat + 1) := by
      exact_mod_cast Nat.lt_log2_self
    have hlow : (2 : ℚ) ^ Nat.log2 q.den ≤ q.den := by
      exact_mod_cast Nat.log2_self_le q.den_nz
    calc q = (q.num.toNat : ℚ) / q.den := hself
      _ < 2 ^ (Nat.log2 q.num.toNat + 1) / 2 ^ Nat.log2 q.den := by gcongr
      _ = 2 ^ ((Nat.log2 q.num.toNat : ℤ) - Nat.log2 q.den + 1) := by
          rw [sub_add_eq_add_sub, zpow_sub₀ two_ne_zero]
          norm_cast

/-- The exponent of the doubles next to a rational. -/
def binade (q : ℚ) : ℤ := max (log2 q) (-1022)

lemma ulp_eq (q : ℚ) : ulp q = (2 : ℚ) ^ (binade q - 52) := rfl

lemma ulp_pos (q : ℚ) : 0 < ulp q := zpow_pos two_pos _

lemma lt_two_zpow_binade {q : ℚ} (hq : 0 < q) : q < (2 : ℚ) ^ (binade q + 1) :=
  (lt_two_zpow_log2 hq).trans_le
    (zpow_le_zpow_right₀ one_le_two (by rw [binade]; omega))

lemma two_zpow_eq_mul_ulp (q : ℚ) (k : ℕ) {e : ℤ} (he : e = binade q - 52 + k) :
    (2 : ℚ) ^ e = 2 ^ k * ulp q := by
  rw [he, zpow_add₀ two_ne_zero, ← ulp_eq, zpow_natCast, mul_comm]

lemma roundHalfEven_of_near {y : ℚ} {m : ℤ} (h : |y - m| < 1 / 2) : roundHalfEven y = m := by
  obtain ⟨hlow, hhigh⟩ := abs_lt.mp h
  have hfloor : (y.floor : ℚ) ≤ y := Int.floor_le y
  have hceil : y < y.floor + 1 := Int.lt_floor_add_one y
  have hbelow : y.floor - m < 1 := by exact_mod_cast (by linarith : (y.floor : ℚ) - m < 1)
  have habove : -2 < y.floor - m := by exact_mod_cast (by linarith : (-2 : ℚ) < y.floor - m)
  rw [roundHalfEven]
  rcases (by omega : y.floor = m ∨ y.floor = m - 1) with hf | hf
  · have hsmall : y - y.floor < 1 / 2 := by rw [hf]; exact hhigh
    rw [if_pos hsmall, hf]
  · have hlarge : 1 / 2 < y - y.floor := by
      rw [hf]
      push_cast
      linarith
    rw [if_neg (not_lt.mpr hlarge.le), if_pos hlarge, hf]
    ring

/-- A positive double is a multiple of the distance of its neighbours. -/
lemma exists_eq_mul_ulp {q : ℚ} (hq : 0 < q) (h : IsDouble q) :
    ∃ m : ℕ, q = m * ulp q ∧ q < 2 ^ 1024 := by
  have habs : |q| = q := abs_of_pos hq
  rw [IsDouble, ofRat, if_neg hq.ne'] at h
  dsimp only at h
  rw [habs] at h
  split_ifs at h with hbig hneg
  · exact absurd hneg (not_lt.mpr hq.le)
  · have hself : (roundHalfEven (q / ulp q) : ℚ) * ulp q = q := Number.fin.inj h
    have hnonneg : 0 ≤ roundHalfEven (q / ulp q) :=
      le_roundHalfEven (by push_cast; exact (div_pos hq (ulp_pos q)).le)
    obtain ⟨m, hm⟩ := Int.eq_ofNat_of_zero_le hnonneg
    refine ⟨m, ?_, ?_⟩
    · rw [hm] at hself
      exact_mod_cast hself.symm
    · rw [← hself]
      exact not_le.mp hbig

/-- The relative error that rounding to a double makes up for. -/
def slack : ℚ := 1 / (2 * 10 ^ 16)

/-- What is near to a double is rounded to it. -/
theorem ofRat_of_near {q x : ℚ} (hq : 0 < q) (h : IsDouble q) (hx : |x - q| ≤ q * slack) :
    ofRat x = fin q := by
  obtain ⟨m, hm, hmax⟩ := exists_eq_mul_ulp hq h
  have hu := ulp_pos q
  set u := ulp q with hudef
  obtain ⟨hlow, hhigh⟩ := abs_le.mp hx
  have hslack : (0 : ℚ) < slack ∧ slack * 2 ^ 53 < 1 / 2 := by rw [slack]; norm_num
  have hxpos : 0 < x := by nlinarith
  have hm53 : (m : ℚ) < 2 ^ 53 := by
    have hlt := lt_two_zpow_binade hq
    rw [two_zpow_eq_mul_ulp q 53 (by push_cast; ring), ← hudef] at hlt
    have hlt' : m * u < 2 ^ 53 * u := hm ▸ hlt
    exact lt_of_mul_lt_mul_right hlt' hu.le
  have hmpos : (0 : ℚ) < m := by
    rcases Nat.eq_zero_or_pos m with rfl | hpos
    · rw [Nat.cast_zero, zero_mul] at hm
      exact absurd hm hq.ne'
    · exact_mod_cast hpos
  -- the distance in units of the last place
  have hdist : |x / u - m| < 1 / 2 := by
    rw [abs_lt, lt_sub_iff_add_lt, sub_lt_iff_lt_add, lt_div_iff₀ hu, div_lt_iff₀ hu]
    have hsmall : m * slack < 1 / 2 := by nlinarith [hslack.1, hslack.2]
    constructor <;> nlinarith
  have hround : ∀ w : ℚ, ulp x = w → ∀ n : ℤ, |x / w - n| < 1 / 2 → n * w = q → ofRat x = fin q := by
    intro w hw n hn hval
    have hn' := roundHalfEven_of_near hn
    rw [ofRat, if_neg hxpos.ne']
    dsimp only
    rw [abs_of_pos hxpos]
    show (if (2 : ℚ) ^ 1024 ≤ roundHalfEven (x / ulp x) * ulp x then _ else fin (if x < 0 then
      -(roundHalfEven (x / ulp x) * ulp x) else roundHalfEven (x / ulp x) * ulp x)) = _
    rw [hw, hn', hval, if_neg (not_le.mpr hmax), if_neg (not_lt.mpr hxpos.le)]
  have hdist' := abs_lt.mp hdist
  have hlog : binade x ≤ binade q := by
    have hm1 : (m : ℚ) + 1 ≤ 2 ^ 53 := by exact_mod_cast hm53
    have hlt : x < 2 ^ (binade q + 1) := by
      rw [two_zpow_eq_mul_ulp q 53 (by push_cast; ring), ← div_lt_iff₀ hu]
      linarith
    have hexp := (zpow_lt_zpow_iff_right₀ one_lt_two).mp ((two_zpow_log2_le hxpos).trans_lt hlt)
    rw [binade, binade] at *
    omega
  rcases hlog.eq_or_lt with hsame | hless
  · exact hround u (by rw [ulp_eq, hsame, ← ulp_eq]) m (by exact_mod_cast hdist)
      (by exact_mod_cast hm.symm)
  · -- the doubles below a power of two are closer together
    have hlogq : binade q = log2 q := by
      rw [binade, binade] at *
      omega
    have hm52 : (2 : ℚ) ^ 52 ≤ m := by
      have hle := two_zpow_log2_le hq
      rw [← hlogq, two_zpow_eq_mul_ulp q 52 (by push_cast; ring), ← hudef] at hle
      exact le_of_mul_le_mul_right (hm ▸ hle) hu
    have hx52 : x / u < 2 ^ 52 := by
      rw [div_lt_iff₀ hu, hudef, ← two_zpow_eq_mul_ulp q 52 (by push_cast; ring)]
      exact (lt_two_zpow_binade hxpos).trans_le (zpow_le_zpow_right₀ one_le_two (by omega))
    have hpow : (m : ℚ) = 2 ^ 52 := by
      have hlt : (m : ℚ) < 2 ^ 52 + 1 := by linarith
      have hm52' : 2 ^ 52 ≤ m := by exact_mod_cast hm52
      have hlt' : m < 2 ^ 52 + 1 := by exact_mod_cast hlt
      exact_mod_cast (by omega : m = 2 ^ 52)
    have hstep : binade x = binade q - 1 := by
      have hge : (2 : ℚ) ^ (binade q - 1) < 2 ^ (log2 x + 1) := by
        rw [two_zpow_eq_mul_ulp q 51 (by push_cast; ring), ← hudef]
        refine lt_of_lt_of_le ?_ (lt_two_zpow_log2 hxpos).le
        rw [← lt_div_iff₀ hu]
        linarith
      have hexp := (zpow_lt_zpow_iff_right₀ one_lt_two).mp hge
      rw [binade, binade] at *
      omega
    have hhalf : ulp x = u / 2 := by
      rw [ulp_eq, hstep, hudef, ulp_eq, show binade q - 1 - 52 = binade q - 52 - 1 by ring,
        zpow_sub_one₀ two_ne_zero]
      rfl
    refine hround (u / 2) hhalf (2 ^ 53) ?_ ?_
    · have hdouble : x / (u / 2) = 2 * (x / u) := by field_simp
      have hclose : |x / u - m| ≤ m * slack := by
        have hmu : x / u - m = (x - q) / u := by rw [hm]; field_simp
        rw [hmu, abs_div, abs_of_pos hu, div_le_iff₀ hu]
        calc |x - q| ≤ q * slack := hx
          _ = m * slack * u := by rw [hm]; ring
      rw [hpow] at hclose
      have hscale : x / (u / 2) - ((2 ^ 53 : ℤ) : ℚ) = 2 * (x / u - 2 ^ 52) := by
        rw [hdouble]
        push_cast
        ring
      rw [hscale, abs_mul, abs_two]
      linarith [hslack.2]
    · rw [hm, hpow]
      push_cast
      ring

lemma abs_round_sub_le (y : ℚ) : |(round y : ℚ) - y| ≤ 1 / 2 := by
  have hfloor : (⌊y + 1 / 2⌋ : ℚ) ≤ y + 1 / 2 := Int.floor_le _
  have hceil : y + 1 / 2 < ⌊y + 1 / 2⌋ + 1 := Int.lt_floor_add_one _
  rw [round_eq_floor, abs_le]
  constructor <;> linarith

end Number

open Number

/-! ### Digits -/

/-- The exponent of the first digit. -/
lemma ten_zpow_log10_le {q : ℚ} (hq : 0 < q) : (10 : ℚ) ^ log10 q ≤ q := by
  rw [log10]
  split_ifs with hone
  · have hfloor : 1 ≤ q.floor := Int.le_floor.mpr (by exact_mod_cast hone)
    have hnat : ((q.floor.toNat : ℕ) : ℚ) ≤ q := by
      have hcast : ((q.floor.toNat : ℤ) : ℚ) = q.floor := by rw [Int.toNat_of_nonneg (by omega)]
      have hle : (q.floor : ℚ) ≤ q := Int.floor_le q
      rw [← hcast] at hle
      exact_mod_cast hle
    have hpow : 10 ^ Nat.log 10 q.floor.toNat ≤ q.floor.toNat :=
      Nat.pow_log_le_self 10 (by omega)
    rw [zpow_natCast]
    exact le_trans (by exact_mod_cast hpow) hnat
  · have hceil : q⁻¹ ≤ ((q⁻¹).ceil : ℚ) := Rat.le_ceil
    have hpos : 0 < (q⁻¹).ceil := Rat.lt_ceil_iff.mpr (by exact_mod_cast inv_pos.mpr hq)
    have hnat : ((q⁻¹).ceil : ℚ) = ((q⁻¹).ceil.toNat : ℕ) := by
      exact_mod_cast (Int.toNat_of_nonneg hpos.le).symm
    have hpow : (q⁻¹).ceil.toNat ≤ 10 ^ Nat.clog 10 (q⁻¹).ceil.toNat :=
      Nat.le_pow_clog (by omega) _
    rw [zpow_neg, zpow_natCast]
    refine inv_le_of_inv_le₀ hq (hceil.trans ?_)
    rw [hnat]
    exact_mod_cast hpow

lemma lt_ten_zpow_log10 {q : ℚ} (hq : 0 < q) : q < (10 : ℚ) ^ (log10 q + 1) := by
  rw [log10]
  split_ifs with hone
  · have hfloor : 1 ≤ q.floor := Int.le_floor.mpr (by exact_mod_cast hone)
    have hnat : (q.floor : ℚ) = (q.floor.toNat : ℕ) := by
      exact_mod_cast (Int.toNat_of_nonneg (by omega : 0 ≤ q.floor)).symm
    have hlt : q < q.floor + 1 := Int.lt_floor_add_one q
    have hpow : q.floor.toNat + 1 ≤ 10 ^ (Nat.log 10 q.floor.toNat + 1) :=
      Nat.lt_pow_succ_log_self (by omega) _
    have hcast : (q.floor : ℚ) + 1 ≤ 10 ^ (Nat.log 10 q.floor.toNat + 1) := by
      rw [hnat]
      exact_mod_cast hpow
    exact_mod_cast hlt.trans_le hcast
  · have hinv : 1 < q⁻¹ := (one_lt_inv₀ hq).mpr (not_le.mp hone)
    have hpos : 1 < (q⁻¹).ceil := Rat.lt_ceil_iff.mpr (by exact_mod_cast hinv)
    have hnat : ((q⁻¹).ceil : ℚ) = ((q⁻¹).ceil.toNat : ℕ) := by
      exact_mod_cast (Int.toNat_of_nonneg (by omega : 0 ≤ (q⁻¹).ceil)).symm
    have hlt : ((q⁻¹).ceil : ℚ) < q⁻¹ + 1 := Rat.ceil_lt
    set c := (q⁻¹).ceil.toNat with hc
    have hclog : 0 < Nat.clog 10 c := Nat.clog_pos (by omega) (by omega)
    have hpow : 10 ^ (Nat.clog 10 c - 1) < c := Nat.pow_pred_clog_lt_self (by omega) (by omega)
    have hpow' : ((10 : ℚ) ^ (Nat.clog 10 c - 1)) + 1 ≤ c := by exact_mod_cast hpow
    have hfinal : (10 : ℚ) ^ (Nat.clog 10 c - 1) < q⁻¹ := by
      rw [hnat] at hlt
      linarith
    have hexp : -(Nat.clog 10 c : ℤ) + 1 = -((Nat.clog 10 c - 1 : ℕ) : ℤ) := by omega
    rw [hexp, zpow_neg, zpow_natCast]
    exact lt_inv_of_lt_inv₀ (pow_pos (by norm_num) _) hfinal

/-- The number is written with these digits: `k` of them, the first one of weight `10 ^ e`. -/
structure Written (q : ℚ) (digits k : ℕ) (e : ℤ) : Prop where
  count : 1 ≤ k
  low : 10 ^ (k - 1) ≤ digits
  high : digits < 10 ^ k
  value : ofRat (digits * (10 : ℚ) ^ (e - k + 1)) = .fin q

/-- With seventeen digits a double is told apart from its neighbours. -/
lemma shortestDigits_spec {q : ℚ} (hq : 0 < q) (h : IsDouble q) {e : ℤ} (hlow : (10 : ℚ) ^ e ≤ q)
    (hhigh : q < (10 : ℚ) ^ (e + 1)) : ∀ fuel k : ℕ, 1 ≤ k → k ≤ 17 → k + fuel = 18 →
      Written q (shortestDigits q e fuel k).1 (shortestDigits q e fuel k).2.1
        (shortestDigits q e fuel k).2.2
  | 0, k, _, hk, hfuel => by omega
  | fuel + 1, k, hk, hk17, hfuel => by
      have hscale : (0 : ℚ) < 10 ^ (e - k + 1) := zpow_pos (by norm_num) _
      have hpow : ∀ (j : ℕ) (i : ℤ), i = e - k + 1 + j →
          (10 : ℚ) ^ i = 10 ^ j * 10 ^ (e - k + 1) := by
        rintro j _ rfl
        rw [zpow_add₀ (by norm_num), zpow_natCast, mul_comm]
      have hmem : q / (10 : ℚ) ^ (e - k + 1) ∈
          Set.Icc (((10 ^ (k - 1) : ℕ) : ℤ) : ℚ) (((10 ^ k : ℕ) : ℤ) : ℚ) := by
        push_cast
        constructor
        · rw [le_div_iff₀ hscale, ← hpow (k - 1) e (by omega)]
          exact hlow
        · rw [div_le_iff₀ hscale, ← hpow k (e + 1) (by ring)]
          exact hhigh.le
      obtain ⟨hge, hle⟩ := round_mem_Icc hmem
      obtain ⟨n, hn⟩ := Int.eq_ofNat_of_zero_le ((Int.natCast_nonneg _).trans hge)
      have hnat : (Number.round (q / (10 : ℚ) ^ (e - k + 1))).toNat = n := by rw [hn]; rfl
      rw [hn] at hge hle
      have hge' : 10 ^ (k - 1) ≤ n := Int.ofNat_le.mp hge
      have hle' : n ≤ 10 ^ k := Int.ofNat_le.mp hle
      rw [shortestDigits, hnat]
      split_ifs with htest hcarry
      · refine ⟨le_rfl, le_rfl, by norm_num, ?_⟩
        rw [← htest, hcarry]
        push_cast
        rw [← hpow k (e + 1) (by ring), one_mul]
        congr 2
        ring
      · exact ⟨hk, hge', lt_of_le_of_ne hle' hcarry, htest⟩
      · -- the test does not fail with seventeen digits
        refine shortestDigits_spec hq h hlow hhigh fuel (k + 1) (by omega) ?_ (by omega)
        by_contra hlast
        obtain rfl : k = 17 := by omega
        refine htest (ofRat_of_near hq h ?_)
        have hround := abs_round_sub_le (q / (10 : ℚ) ^ (e - (17 : ℕ) + 1))
        rw [hn] at hround
        have hdiff : (n : ℚ) * 10 ^ (e - (17 : ℕ) + 1) - q =
            (((n : ℤ) : ℚ) - q / 10 ^ (e - (17 : ℕ) + 1)) * 10 ^ (e - (17 : ℕ) + 1) := by
          rw [sub_mul, div_mul_cancel₀ q hscale.ne']
          rfl
        rw [hdiff, abs_mul, abs_of_pos hscale]
        have hunit : (10 : ℚ) ^ 16 * 10 ^ (e - (17 : ℕ) + 1) ≤ q :=
          (hpow 16 e (by push_cast; ring)).symm.trans_le hlow
        calc |((n : ℤ) : ℚ) - q / 10 ^ (e - (17 : ℕ) + 1)| * 10 ^ (e - (17 : ℕ) + 1)
            ≤ 1 / 2 * 10 ^ (e - (17 : ℕ) + 1) := mul_le_mul_of_nonneg_right hround hscale.le
          _ = 10 ^ 16 * 10 ^ (e - (17 : ℕ) + 1) * slack := by rw [slack]; ring
          _ ≤ q * slack := mul_le_mul_of_nonneg_right hunit (by rw [slack]; norm_num)

/-! ### Reading the digits -/

lemma digitsValue_append (l l' : List Char) :
    digitsValue 10 (l ++ l') = digitsValue 10 l * 10 ^ l'.length + digitsValue 10 l' := by
  induction l' using List.reverseRecOn with
  | nil => simp [digitsValue]
  | append_singleton l' c ih =>
      have hlast : ∀ w : List Char, digitsValue 10 (w ++ [c]) = digitsValue 10 w * 10 +
          (if c.isDigit then c.toNat - 48 else c.toLower.toNat - 87) := fun w => by
        rw [digitsValue, List.foldl_append]
        rfl
      rw [← List.append_assoc, hlast, ih, hlast l', List.length_append, List.length_singleton,
        pow_succ]
      ring

lemma digitsValue_replicate_zero (n : ℕ) : digitsValue 10 (List.replicate n '0') = 0 := by
  induction n with
  | zero => rfl
  | succ n ih =>
      rw [List.replicate_succ', digitsValue_append, ih]
      rfl

lemma length_toString {n k : ℕ} (hk : 1 ≤ k) (hlow : 10 ^ (k - 1) ≤ n) (hhigh : n < 10 ^ k) :
    (toString n).toList.length = k := by
  rw [toList_toString]
  have hle := (Nat.length_toDigits_le_iff (by decide) hk).mpr hhigh
  have hpos : 0 < (Nat.toDigits 10 n).length := Nat.length_toDigits_pos
  by_contra hne
  have hshort := (Nat.length_toDigits_le_iff (n := n) (b := 10) (k := k - 1) (by decide)
    (by omega)).mp (by omega)
  omega

/-- What follows the digits of a literal: nothing, or an exponent. -/
def scaled (m : ℚ) : List Char → Option ℚ
  | [] => some m
  | c :: r => if c = 'e' ∨ c = 'E' then (exponentOf r).map fun e => m * (10 : ℚ) ^ e else none

/-- The text goes on with no digit. -/
def EndsDigits (tail : List Char) : Prop := ∀ c ∈ tail.head?, c.isDigit = false

lemma takeWhile_digits {ip tail : List Char} (hip : ∀ c ∈ ip, c.isDigit) (htail : EndsDigits tail) :
    (ip ++ tail).takeWhile Char.isDigit = ip ∧ (ip ++ tail).dropWhile Char.isDigit = tail := by
  have htake : tail.takeWhile Char.isDigit = [] ∧ tail.dropWhile Char.isDigit = tail := by
    cases tail with
    | nil => exact ⟨rfl, rfl⟩
    | cons c r =>
        have hc := htail c rfl
        exact ⟨by simp [hc], by simp [hc]⟩
  rw [List.takeWhile_append_of_pos hip, List.dropWhile_append_of_pos hip, htake.1, htake.2,
    List.append_nil]
  exact ⟨rfl, rfl⟩

lemma decimalOf_plain {ip tail : List Char} (hip : ∀ c ∈ ip, c.isDigit) (hne : ip ≠ [])
    (htail : EndsDigits tail) (hpoint : tail.head? ≠ some '.') :
    decimalOf (ip ++ tail) = scaled (digitsValue 10 ip) tail := by
  obtain ⟨htake, hdrop⟩ := takeWhile_digits hip htail
  rw [decimalOf]
  dsimp only
  rw [htake, hdrop]
  cases tail with
  | nil => simp [hne, scaled]
  | cons c r =>
      have hc : c ≠ '.' := fun h => hpoint (h ▸ rfl)
      split
      next r' heq => exact absurd (List.head_eq_of_cons_eq heq) hc
      next => simp [hne, scaled]

lemma decimalOf_point {ip fp tail : List Char} (hip : ∀ c ∈ ip, c.isDigit) (hne : ip ≠ [])
    (hfp : ∀ c ∈ fp, c.isDigit) (htail : EndsDigits tail) :
    decimalOf (ip ++ '.' :: (fp ++ tail)) =
      scaled (digitsValue 10 (ip ++ fp) / 10 ^ fp.length) tail := by
  obtain ⟨htake, hdrop⟩ := takeWhile_digits hip (show EndsDigits ('.' :: (fp ++ tail)) by
    intro c hc
    obtain rfl := Option.some.inj hc
    decide)
  obtain ⟨htake', hdrop'⟩ := takeWhile_digits hfp htail
  rw [decimalOf]
  dsimp only
  simp only [htake, hdrop, htake', hdrop']
  rw [if_neg fun h => hne h.1]
  cases tail <;> rfl

lemma scaled_exponent (m : ℚ) {n : ℤ} {sign : Char} (hsign : sign = if 0 ≤ n then '+' else '-') :
    scaled m ('e' :: sign :: (toString n.natAbs).toList) = some (m * (10 : ℚ) ^ n) := by
  have hdigits : (toString n.natAbs).toList.all Char.isDigit := by
    rw [List.all_eq_true]
    exact fun c hc => isDigit_of_mem_toList hc
  have hexp : exponentOf (sign :: (toString n.natAbs).toList) = some n := by
    rw [hsign]
    by_cases hn : 0 ≤ n
    · simp only [hn, if_true, exponentOf]
      rw [if_pos ⟨toString_ne_nil _, hdigits⟩, digitsValue_toString, if_neg Bool.false_ne_true,
        Int.natAbs_of_nonneg hn]
    · simp only [hn, if_false, exponentOf]
      rw [if_pos ⟨toString_ne_nil _, hdigits⟩, digitsValue_toString, if_pos trivial,
        Int.ofNat_natAbs_of_nonpos (by omega), neg_neg]
  rw [scaled, if_pos (Or.inl rfl), hexp]
  rfl

/-! ### Texts of numbers -/

/-- A text without white space that is read as the literal of a number, and begins with a digit. -/
structure Literal (l : List Char) (v : ℚ) : Prop where
  value : decimalOf l = some v
  first : ∃ c r, l = c :: r ∧ c.isDigit
  chars : ∀ c ∈ l, c.isDigit ∨ c ∈ ['.', 'e', '+', '-']

lemma trimChars_of_forall {l : List Char} (h : ∀ c ∈ l, isSpace c = false) : trimChars l = l := by
  rw [trimChars, List.dropWhile_eq_self_iff.mpr, List.rdropWhile_eq_self_iff.mpr]
  · intro hne
    simpa using h _ (List.getLast_mem hne)
  · intro hlen
    simpa using h _ (List.getElem_mem hlen)

lemma Literal.isSpace {l : List Char} {v : ℚ} (h : Literal l v) : ∀ c ∈ l, isSpace c = false := by
  have hother : ∀ c ∈ ['.', 'e', '+', '-'], Js.isSpace c = false := by decide
  exact fun c hc => (h.chars c hc).elim (fun hdigit => (isSpace_of_isDigit hdigit).1) (hother c)

/-- The second character of a literal is no mark of another base. -/
lemma Literal.second {l : List Char} {v : ℚ} (h : Literal l v) {c d : Char} {r : List Char}
    (hl : l = c :: d :: r) : d ∉ ['x', 'X', 'o', 'O', 'b', 'B'] := by
  have hletters : ∀ d ∈ ['x', 'X', 'o', 'O', 'b', 'B'], d.isDigit = false := by decide
  have hother : ∀ d ∈ ['x', 'X', 'o', 'O', 'b', 'B'], d ∉ ['.', 'e', '+', '-'] := by decide
  intro hmem
  rcases h.chars d (by simp [hl]) with hdigit | hchar
  · rw [hletters d hmem] at hdigit
    cases hdigit
  · exact hother d hmem hchar

lemma Literal.ne_infinity {l : List Char} {v : ℚ} (h : Literal l v) : l ≠ "Infinity".toList := by
  rintro rfl
  obtain ⟨c, r, hcons, hdigit⟩ := h.first
  obtain rfl : c = 'I' := (List.cons.inj hcons).1.symm
  exact absurd hdigit (by decide)

/-- A literal is read by `Number`. -/
lemma Literal.numberOfString {s : String} {v : ℚ} (h : Literal s.toList v) :
    numberOfString s = ofRat v := by
  have hinf := h.ne_infinity
  obtain ⟨c, r, hcons, hdigit⟩ := h.first
  have hsecond := fun d r' => h.second (c := '0') (d := d) (r := r')
  unfold Js.numberOfString
  dsimp only
  rw [trimChars_of_forall h.isSpace]
  split
  next heq => rw [hcons] at heq; cases heq
  next heq => exact absurd (by simp) (hsecond _ _ heq)
  next heq => exact absurd (by simp) (hsecond _ _ heq)
  next heq => exact absurd (by simp) (hsecond _ _ heq)
  next heq => exact absurd (by simp) (hsecond _ _ heq)
  next heq => exact absurd (by simp) (hsecond _ _ heq)
  next heq => exact absurd (by simp) (hsecond _ _ heq)
  next heq =>
    obtain rfl : c = '-' := (List.cons.inj (hcons.symm.trans heq)).1
    exact absurd hdigit (by decide)
  next heq =>
    obtain rfl : c = '+' := (List.cons.inj (hcons.symm.trans heq)).1
    exact absurd hdigit (by decide)
  next => rw [if_neg hinf, h.value]; rfl

/-- So is one with a sign in front of it. -/
lemma Literal.numberOfString_neg {s : String} {v : ℚ} (h : Literal s.toList v) :
    Js.numberOfString ("-" ++ s) = ofRat (-v) := by
  have hlist : ("-" ++ s).toList = '-' :: s.toList := by
    rw [String.toList_append]
    rfl
  have htrim : trimChars ('-' :: s.toList) = '-' :: s.toList :=
    trimChars_of_forall (List.forall_mem_cons.mpr ⟨by decide, h.isSpace⟩)
  unfold Js.numberOfString
  dsimp only
  rw [hlist, htrim]
  simp only [h.ne_infinity, if_false, h.value, if_true]

/-- What follows the digits: nothing, or the exponent `n`. -/
inductive Tail : List Char → ℤ → Prop
  | none : Tail [] 0
  | exponent (n : ℤ) :
      Tail ('e' :: (if 0 ≤ n then '+' else '-') :: (toString n.natAbs).toList) n

lemma Tail.spec {tail : List Char} {n : ℤ} (h : Tail tail n) :
    (∀ m, scaled m tail = some (m * (10 : ℚ) ^ n)) ∧ EndsDigits tail ∧ tail.head? ≠ some '.' ∧
      ∀ c ∈ tail, c.isDigit ∨ c ∈ ['.', 'e', '+', '-'] := by
  cases h with
  | none => exact ⟨fun m => by simp [scaled], nofun, nofun, nofun⟩
  | exponent =>
      refine ⟨fun m => scaled_exponent m rfl, ?_, ?_, ?_⟩
      · intro c hc
        obtain rfl := Option.some.inj hc
        decide
      · exact fun h => absurd (Option.some.inj h) (by decide)
      · refine List.forall_mem_cons.mpr ⟨Or.inr (by decide), List.forall_mem_cons.mpr ⟨?_, ?_⟩⟩
        · right
          split_ifs <;> decide
        · exact fun c hc => Or.inl (isDigit_of_mem_toList hc)

lemma literal_plain (ip : List Char) {tail : List Char} {n : ℤ} (hip : ∀ c ∈ ip, c.isDigit) (hne : ip ≠ [])
    (htail : Tail tail n) : Literal (ip ++ tail) (digitsValue 10 ip * (10 : ℚ) ^ n) := by
  obtain ⟨hscaled, hends, hpoint, hchars⟩ := htail.spec
  refine ⟨(decimalOf_plain hip hne hends hpoint).trans (hscaled _), ?_, ?_⟩
  · cases ip with
    | nil => exact absurd rfl hne
    | cons c r => exact ⟨c, r ++ tail, rfl, hip c List.mem_cons_self⟩
  · exact List.forall_mem_append.mpr ⟨fun c hc => Or.inl (hip c hc), hchars⟩

lemma literal_point (ip fp : List Char) {tail : List Char} {n : ℤ} (hip : ∀ c ∈ ip, c.isDigit)
    (hne : ip ≠ []) (hfp : ∀ c ∈ fp, c.isDigit) (htail : Tail tail n) :
    Literal (ip ++ '.' :: (fp ++ tail))
      (digitsValue 10 (ip ++ fp) / 10 ^ fp.length * (10 : ℚ) ^ n) := by
  obtain ⟨hscaled, hends, -, hchars⟩ := htail.spec
  refine ⟨(decimalOf_point hip hne hfp hends).trans (hscaled _), ?_, ?_⟩
  · cases ip with
    | nil => exact absurd rfl hne
    | cons c r => exact ⟨c, _, rfl, hip c List.mem_cons_self⟩
  · exact List.forall_mem_append.mpr ⟨fun c hc => Or.inl (hip c hc), List.forall_mem_cons.mpr
      ⟨Or.inr (by decide), List.forall_mem_append.mpr ⟨fun c hc => Or.inl (hfp c hc), hchars⟩⟩⟩

/-- The digits of a number, in each of the layouts of its text. -/
lemma literal_decimalText {q : ℚ} (hq : 0 < q) (h : IsDouble q) :
    ∃ v, Literal (decimalText q).toList v ∧ ofRat v = .fin q := by
  have hwritten := shortestDigits_spec hq h (ten_zpow_log10_le hq) (lt_ten_zpow_log10 hq) 17 1
    le_rfl (by omega) rfl
  obtain ⟨ds, k, e, hres⟩ : ∃ ds k e, shortestDigits q (log10 q) 17 1 = (ds, k, e) := ⟨_, _, _, rfl⟩
  rw [hres] at hwritten
  obtain ⟨hk, hlow, hhigh, hvalue⟩ := hwritten
  dsimp only at hk hlow hhigh hvalue
  refine ⟨_, ?_, hvalue⟩
  have hlength := length_toString hk hlow hhigh
  have hdigits : ∀ c ∈ (toString ds).toList, c.isDigit := fun c => isDigit_of_mem_toList
  have hread := digitsValue_toString ds
  have hne := toString_ne_nil ds
  rw [decimalText, hres]
  dsimp only
  generalize toString ds = digits at hlength hdigits hread hne
  by_cases hlarge : (k : ℤ) ≤ e + 1 ∧ e + 1 ≤ 21
  · -- all digits are in front of the point, and zeros fill up
    have hlit := literal_plain (digits.toList ++ List.replicate (e + 1 - k).toNat '0')
      (List.forall_mem_append.mpr ⟨hdigits, fun c hc => by
        obtain rfl := List.eq_of_mem_replicate hc
        decide⟩) (by simp [hne]) .none
    rw [List.append_nil, digitsValue_append, digitsValue_replicate_zero, hread, zpow_zero, mul_one,
      List.length_replicate] at hlit
    have hexp : ((e + 1 - k).toNat : ℤ) = e - k + 1 := by omega
    rw [if_pos hlarge, String.toList_append, String.toList_ofList]
    convert hlit using 2
    push_cast
    rw [← zpow_natCast, hexp, add_zero]
  rw [if_neg hlarge]
  by_cases hmiddle : 0 < e + 1 ∧ e + 1 ≤ 21
  · -- the point is between the digits
    have hsplit := List.take_append_drop (e + 1).toNat digits.toList
    have hlit := literal_point (digits.toList.take (e + 1).toNat)
      (digits.toList.drop (e + 1).toNat) (fun c hc => hdigits c (List.mem_of_mem_take hc))
      (by
        rw [Ne, List.take_eq_nil_iff, not_or]
        exact ⟨by omega, hne⟩)
      (fun c hc => hdigits c (List.mem_of_mem_drop hc)) .none
    rw [hsplit, hread, List.length_drop, hlength, List.append_nil, zpow_zero, mul_one] at hlit
    have hexp : ((k - (e + 1).toNat : ℕ) : ℤ) = -(e - k + 1) := by omega
    rw [if_pos hmiddle, String.toList_append, String.toList_append, String.toList_ofList,
      String.toList_ofList, List.append_assoc]
    convert hlit using 1
    · rw [String.toList_ofList]
      rfl
    · rw [div_eq_mul_inv, ← zpow_natCast, hexp, zpow_neg, inv_inv]
  rw [if_neg hmiddle]
  by_cases hsmall : -6 < e + 1 ∧ e + 1 ≤ 0
  · -- zeros fill up between the point and the digits
    have hlit := literal_point ['0']
      (List.replicate (-(e + 1)).toNat '0' ++ digits.toList) (by decide) (by simp)
      (List.forall_mem_append.mpr ⟨fun c hc => by
        obtain rfl := List.eq_of_mem_replicate hc
        decide, hdigits⟩) .none
    have hzeros : digitsValue 10 (['0'] ++ (List.replicate (-(e + 1)).toNat '0' ++ digits.toList)) =
        ds := by
      rw [digitsValue_append, digitsValue_append, digitsValue_replicate_zero, hread]
      simp [digitsValue]
    rw [hzeros, List.length_append, List.length_replicate, hlength, List.append_nil, zpow_zero,
      mul_one] at hlit
    have hexp : (((-(e + 1)).toNat + k : ℕ) : ℤ) = -(e - k + 1) := by omega
    rw [if_pos hsmall, String.toList_append, String.toList_append, String.toList_ofList,
      List.append_assoc]
    convert hlit using 1
    · rw [String.toList_ofList]
      rfl
    · rw [div_eq_mul_inv, ← zpow_natCast, hexp, zpow_neg, inv_inv]
  rw [if_neg hsmall]
  -- the first digit stands alone in front of the point, and an exponent follows
  have htail : ((if 0 < e + 1 then "e+" else "e-") ++ toString (e + 1 - 1).natAbs).toList =
      'e' :: (if 0 ≤ e then '+' else '-') :: (toString e.natAbs).toList := by
    rw [String.toList_append, add_sub_cancel_right]
    by_cases he : 0 ≤ e
    · rw [if_pos he, if_pos (by omega)]
      rfl
    · rw [if_neg he, if_neg (by omega)]
      rfl
  cases hlist : digits.toList with
  | nil => exact absurd hlist hne
  | cons d rest =>
      rw [hlist] at hlength hdigits hread
      obtain ⟨hd, hrest⟩ := List.forall_mem_cons.mp hdigits
      cases rest with
      | nil =>
          have hlit := literal_plain [d] hdigits (by simp) (.exponent e)
          have hone : k = 1 := by simpa using hlength.symm
          rw [hread] at hlit
          dsimp only
          rw [String.toList_append, String.toList_ofList, htail]
          convert hlit using 2
          rw [hone]
          push_cast
          ring_nf
      | cons d' rest =>
          have hlit := literal_point [d] (d' :: rest) (by simpa using hd) (by simp)
            hrest (.exponent e)
          have hall : digitsValue 10 ([d] ++ d' :: rest) = ds := hread
          rw [hall] at hlit
          dsimp only
          rw [String.toList_append, String.toList_append, String.toList_append, String.toList_ofList,
            String.toList_ofList, htail, List.append_assoc, List.append_assoc]
          have hexp : e - k + 1 = -((d' :: rest).length : ℤ) + e := by
            rw [List.length_cons] at hlength
            omega
          convert hlit using 1
          · rw [String.toList_ofList]
            rfl
          · rw [hexp, zpow_add₀ (by norm_num), zpow_neg, zpow_natCast]
            ring

lemma ofRat_neg {v w : ℚ} (h : ofRat v = .fin w) : ofRat (-v) = .fin (-w) := by
  rw [ofRat] at h ⊢
  by_cases hv : v = 0
  · subst hv
    rw [if_pos rfl] at h
    rw [if_pos neg_zero, ← Number.fin.inj h, neg_zero]
  · rw [if_neg hv] at h
    rw [if_neg (neg_ne_zero.mpr hv), abs_neg]
    dsimp only at h ⊢
    split_ifs at h ⊢ with hbig hneg hneg' hneg'
    · linarith
    · rw [← Number.fin.inj h]
    · rw [← Number.fin.inj h, neg_neg]
    · exact absurd (by linarith) hv

/-- **The text of a number reads back as the number**, if it is a double. -/
theorem numberOfString_toText {q : ℚ} (h : IsDouble q) :
    numberOfString (Number.fin q).toText = .fin q := by
  rw [Number.toText]
  split_ifs with hzero hneg
  · subst hzero
    decide +kernel
  · have habs : |q| = -q := abs_of_neg hneg
    have hdouble : IsDouble |q| := by
      rw [habs]
      exact ofRat_neg h
    obtain ⟨v, hlit, hv⟩ := literal_decimalText (abs_pos.mpr hzero) hdouble
    rw [hlit.numberOfString_neg, ofRat_neg hv, habs, neg_neg]
  · have hpos : 0 < q := lt_of_le_of_ne (not_lt.mp hneg) (Ne.symm hzero)
    obtain ⟨v, hlit, hv⟩ := literal_decimalText hpos h
    rw [hlit.numberOfString, hv]

/-! ### Integers -/

/-- Integers of at most 53 bits are doubles. -/
lemma isDouble_intCast {n : ℤ} (hlow : -2 ^ 53 < n) (hhigh : n < 2 ^ 53) : IsDouble (n : ℚ) := by
  by_cases hn : n = 0
  · subst hn
    decide +kernel
  · have hmem := rounded_mem_Icc (⟨le_rfl, le_rfl⟩ : (n : ℚ) ∈ Set.Icc (n : ℚ) n) hlow hhigh
    have hrounded : rounded n = n := le_antisymm hmem.2 hmem.1
    have hne : (0 : ℚ) ≠ n := by exact_mod_cast Ne.symm hn
    rw [rounded] at hrounded
    rw [IsDouble]
    cases hval : ofRat (n : ℚ) with
    | fin q =>
        rw [hval] at hrounded
        exact congrArg fin hrounded
    | inf neg =>
        rw [hval] at hrounded
        exact absurd hrounded hne
    | nan =>
        rw [hval] at hrounded
        exact absurd hrounded hne

/-- Large doubles are integers. -/
lemma exists_natCast_of_binade {q : ℚ} (hq : 0 < q) (h : IsDouble q) (hlarge : 52 ≤ binade q) :
    ∃ n : ℕ, q = n := by
  obtain ⟨m, hm, -⟩ := exists_eq_mul_ulp hq h
  refine ⟨m * 2 ^ (binade q - 52).toNat, ?_⟩
  have hexp : binade q - 52 = ((binade q - 52).toNat : ℤ) := by omega
  rw [hm]
  nth_rewrite 1 [ulp_eq, hexp]
  rw [← hm]
  push_cast
  rw [zpow_natCast]

/-- `Math.round` takes a double to a double. -/
theorem isDouble_round {q : ℚ} (h : IsDouble q) : IsDouble (Number.round q : ℚ) := by
  -- below `2 ^ 52` the result has few bits
  have hsmall : ∀ {a : ℚ}, 0 < a → binade a < 52 → a ≤ 2 ^ 52 := fun {a} ha hlt =>
    calc a ≤ (2 : ℚ) ^ (binade a + 1) := (lt_two_zpow_binade ha).le
      _ ≤ 2 ^ (52 : ℤ) := zpow_le_zpow_right₀ one_le_two (by omega)
      _ = 2 ^ 52 := by norm_num
  rcases lt_trichotomy q 0 with hq | rfl | hq
  · have hneg : IsDouble (-q) := ofRat_neg h
    by_cases hlarge : 52 ≤ binade (-q)
    · obtain ⟨n, hn⟩ := exists_natCast_of_binade (neg_pos.mpr hq) hneg hlarge
      obtain rfl : q = ((-n : ℤ) : ℚ) := by
        push_cast
        linarith
      have hround : Number.round ((-n : ℤ) : ℚ) = -n := by
        rw [round_eq_floor, Int.floor_eq_iff]
        constructor <;> push_cast <;> linarith
      rwa [hround]
    · have hmem := @round_mem_Icc q (-2 ^ 52) 0
        ⟨by push_cast; linarith [hsmall (neg_pos.mpr hq) (not_le.mp hlarge)], by exact_mod_cast hq.le⟩
      exact isDouble_intCast (by have := hmem.1; omega) (by have := hmem.2; omega)
  · decide +kernel
  · by_cases hlarge : 52 ≤ binade q
    · obtain ⟨n, rfl⟩ := exists_natCast_of_binade hq h hlarge
      rw [round_natCast]
      exact_mod_cast h
    · have hmem := @round_mem_Icc q 0 (2 ^ 52)
        ⟨by exact_mod_cast hq.le, by exact_mod_cast hsmall hq (not_le.mp hlarge)⟩
      exact isDouble_intCast (by have := hmem.1; omega) (by have := hmem.2; omega)

/-! ### What is read is a double -/

/-- A multiple of the distance of its neighbours is a double. -/
lemma isDouble_of_eq_mul_ulp {q : ℚ} (hq : 0 < q) {k : ℤ} (h : q = k * ulp q)
    (hmax : q < 2 ^ 1024) : IsDouble q := by
  have hdiv : q / ulp q = k := by
    rw [div_eq_iff (ulp_pos q).ne']
    exact h
  have hround : roundHalfEven (q / ulp q) = k :=
    roundHalfEven_of_near (by rw [hdiv, sub_self, abs_zero]; norm_num)
  rw [IsDouble, ofRat, if_neg hq.ne']
  dsimp only
  rw [abs_of_pos hq]
  show (if (2 : ℚ) ^ 1024 ≤ roundHalfEven (q / ulp q) * ulp q then _ else fin (if q < 0 then
    -(roundHalfEven (q / ulp q) * ulp q) else roundHalfEven (q / ulp q) * ulp q)) = _
  rw [hround, ← h, if_neg (not_le.mpr hmax), if_neg (not_lt.mpr hq.le)]

lemma binade_le {q : ℚ} (hq : 0 < q) {b : ℤ} (hb : -1022 ≤ b) (h : q < (2 : ℚ) ^ (b + 1)) :
    binade q ≤ b := by
  have hlog : log2 q < b + 1 :=
    (zpow_lt_zpow_iff_right₀ one_lt_two).mp ((two_zpow_log2_le hq).trans_lt h)
  rw [binade]
  omega

/-- The rounded magnitude of a rational is a double. -/
lemma isDouble_mul_ulp {r : ℚ} (hr : 0 < r) (hpos : 0 < roundHalfEven (r / ulp r))
    (hmax : (roundHalfEven (r / ulp r) * ulp r : ℚ) < 2 ^ 1024) :
    IsDouble (roundHalfEven (r / ulp r) * ulp r) := by
  have hu := ulp_pos r
  have hscaled : r / ulp r ≤ ((2 ^ 53 : ℤ) : ℚ) := by
    rw [div_le_iff₀ hu]
    have hlt := lt_two_zpow_binade hr
    rw [two_zpow_eq_mul_ulp r 53 (by push_cast; ring)] at hlt
    push_cast
    exact hlt.le
  have hle := roundHalfEven_le hscaled
  generalize roundHalfEven (r / ulp r) = m at hpos hmax hle ⊢
  have hq : (0 : ℚ) < m * ulp r := mul_pos (by exact_mod_cast hpos) hu
  have hbinade : -1022 ≤ binade r := le_max_right _ _
  rcases lt_or_eq_of_le hle with hlt | rfl
  · have hbelow : (m * ulp r : ℚ) < 2 ^ (binade r + 1) := by
      rw [two_zpow_eq_mul_ulp r 53 (by push_cast; ring)]
      have hcast : (m : ℚ) < 2 ^ 53 := by exact_mod_cast hlt
      gcongr
    have hb := binade_le hq hbinade hbelow
    refine isDouble_of_eq_mul_ulp hq (k := m * 2 ^ (binade r - binade (m * ulp r)).toNat) ?_ hmax
    have hshift : ulp r = 2 ^ (binade r - binade (m * ulp r)).toNat * ulp (m * ulp r) := by
      rw [← two_zpow_eq_mul_ulp _ _ (e := binade r - 52) (by omega)]
      exact ulp_eq r
    push_cast
    rw [mul_assoc, ← hshift]
  · -- the magnitude is rounded up to the next binade
    have hvalue : (((2 ^ 53 : ℤ) : ℚ) * ulp r) = 2 ^ (binade r + 1) := by
      rw [two_zpow_eq_mul_ulp r 53 (by push_cast; ring)]
      push_cast
      rfl
    rw [hvalue] at hq hmax ⊢
    have hb := binade_le hq (b := binade r + 1) (by omega)
      (zpow_lt_zpow_right₀ one_lt_two (by omega))
    refine isDouble_of_eq_mul_ulp hq
      (k := 2 ^ (binade r + 1 - (binade ((2 : ℚ) ^ (binade r + 1)) - 52)).toNat) ?_ hmax
    push_cast
    rw [← two_zpow_eq_mul_ulp _ _ (e := binade r + 1) (by omega)]

/-- What a rational is rounded to is a double. -/
theorem isDouble_of_ofRat {r q : ℚ} (h : ofRat r = fin q) : IsDouble q := by
  have hpos : ∀ {r q : ℚ}, 0 < r → ofRat r = fin q → IsDouble q := by
    intro r q hr h
    rw [ofRat, if_neg hr.ne'] at h
    dsimp only at h
    rw [abs_of_pos hr] at h
    split_ifs at h with hbig hneg
    · exact absurd hneg (not_lt.mpr hr.le)
    · have hself : (roundHalfEven (r / ulp r) * ulp r : ℚ) = q := Number.fin.inj h
      have hnonneg : 0 ≤ roundHalfEven (r / ulp r) :=
        le_roundHalfEven (by push_cast; exact (div_pos hr (ulp_pos r)).le)
      rcases hnonneg.eq_or_lt with hzero | hm
      · rw [← hself, ← hzero, Int.cast_zero, zero_mul]
        decide +kernel
      · rw [← hself]
        exact isDouble_mul_ulp hr hm (not_le.mp hbig)
  rcases lt_trichotomy r 0 with hr | rfl | hr
  · have hneg := hpos (neg_pos.mpr hr) (ofRat_neg h)
    rw [← neg_neg q]
    exact ofRat_neg hneg
  · obtain rfl := Number.fin.inj h
    decide +kernel
  · exact hpos hr h

/-- Every numeral is read as a double. -/
theorem isDouble_of_numberOfString {s : String} {q : ℚ} (h : numberOfString s = .fin q) :
    IsDouble q := by
  have hradix : ∀ v : Option ℚ, (v.map ofRat).getD .nan = .fin q → IsDouble q := by
    intro v hv
    cases v with
    | none => cases hv
    | some r => exact isDouble_of_ofRat hv
  rw [numberOfString] at h
  split at h
  next =>
    obtain rfl := Number.fin.inj h
    decide +kernel
  iterate 6 exact hradix _ h
  all_goals
    -- a decimal with its sign
    dsimp only at h
    split at h
    · cases h
    · split at h
      next r _ => exact isDouble_of_ofRat h
      next => cases h

end Js
