import Merossity.Js.Number

/-!
What rounding to a double keeps.

* `rounded_mem_Icc`: a rational between two integers of at most 53 bits stays between them when it is
  rounded, since these are doubles themselves. So does one that `Math.round` takes to an integer
  (`round_mem_Icc`).
-/

namespace Js

namespace Number

/-! ### Rounding to an integer -/

lemma roundHalfEven_le {q : ℚ} {n : ℤ} (h : q ≤ n) : roundHalfEven q ≤ n := by
  have hfloor : (q.floor : ℚ) ≤ q := Int.floor_le q
  rw [roundHalfEven]
  split_ifs with hbelow habove heven
  · exact_mod_cast hfloor.trans h
  · -- a fraction is lost, so that the floor is below the bound
    have hlt : (q.floor : ℚ) < n := by linarith
    have hint : q.floor < n := by exact_mod_cast hlt
    omega
  · exact_mod_cast hfloor.trans h
  · have hlt : (q.floor : ℚ) < n := by linarith
    have hint : q.floor < n := by exact_mod_cast hlt
    omega

lemma le_roundHalfEven {q : ℚ} {n : ℤ} (h : (n : ℚ) ≤ q) : n ≤ roundHalfEven q := by
  have hfloor : n ≤ q.floor := Int.le_floor.mpr h
  rw [roundHalfEven]
  split_ifs <;> omega

lemma round_mem_Icc {q : ℚ} {lo hi : ℤ} (h : q ∈ Set.Icc (lo : ℚ) hi) :
    round q ∈ Set.Icc lo hi := by
  obtain ⟨hlo, hhi⟩ := h
  rw [round_eq_floor]
  constructor
  · exact Int.le_floor.mpr (by linarith)
  · have hlt : ⌊q + 1 / 2⌋ < hi + 1 := Int.floor_lt.mpr (by push_cast; linarith)
    omega

/-! ### Rounding to a double -/

lemma two_zpow_log2_le {q : ℚ} (hq : 0 < q) : (2 : ℚ) ^ log2 q ≤ q := by
  have hnum : 0 < q.num := Rat.num_pos.mpr hq
  have hden : (0 : ℚ) < q.den := by exact_mod_cast q.pos
  have hself : q = (q.num.toNat : ℚ) / q.den := by
    have hcast : ((q.num.toNat : ℤ) : ℚ) = q.num := by rw [Int.toNat_of_nonneg hnum.le]
    rw [show ((q.num.toNat : ℕ) : ℚ) = q.num by exact_mod_cast hcast]
    exact (Rat.num_div_den q).symm
  rw [log2]
  split_ifs with hlt
  · have hlow : (2 : ℚ) ^ Nat.log2 q.num.toNat ≤ q.num.toNat := by
      exact_mod_cast Nat.log2_self_le (by omega)
    have hhigh : (q.den : ℚ) ≤ 2 ^ (Nat.log2 q.den + 1) := by
      exact_mod_cast (Nat.lt_log2_self).le
    calc (2 : ℚ) ^ ((Nat.log2 q.num.toNat : ℤ) - Nat.log2 q.den - 1)
        = 2 ^ Nat.log2 q.num.toNat / 2 ^ (Nat.log2 q.den + 1) := by
          rw [sub_sub, zpow_sub₀ two_ne_zero, zpow_natCast]
          norm_cast
      _ ≤ q.num.toNat / q.den := by gcongr
      _ = q := hself.symm
  · exact not_lt.mp hlt

/-- The distance of the doubles next to a positive rational. -/
def ulp (a : ℚ) : ℚ := (2 : ℚ) ^ (max (log2 a) (-1022) - 52)

/-- Below `2 ^ 53` the integers are multiples of that distance. -/
lemma exists_ulp_mul_eq {a : ℚ} (ha : 0 < a) (hlt : a < 2 ^ 53) :
    ∃ k : ℕ, ulp a * 2 ^ k = 1 := by
  have hlog : log2 a < 53 := by
    have hle := (two_zpow_log2_le ha).trans_lt hlt
    rw [show (2 : ℚ) ^ (53 : ℕ) = 2 ^ (53 : ℤ) from rfl] at hle
    exact (zpow_lt_zpow_iff_right₀ one_lt_two).mp hle
  refine ⟨(52 - max (log2 a) (-1022)).toNat, ?_⟩
  rw [ulp, ← zpow_natCast, ← zpow_add₀ two_ne_zero, Int.toNat_of_nonneg (by omega)]
  norm_num

/-- The magnitude of a double is rounded between integers of at most 53 bits. -/
lemma roundHalfEven_mul_ulp_mem {a : ℚ} {lo hi : ℤ} (ha : 0 < a) (h : a ∈ Set.Icc (lo : ℚ) hi)
    (hhi : hi < 2 ^ 53) : (roundHalfEven (a / ulp a) * ulp a : ℚ) ∈ Set.Icc (lo : ℚ) hi := by
  have hlt : a < 2 ^ 53 := h.2.trans_lt (by exact_mod_cast hhi)
  obtain ⟨k, hk⟩ := exists_ulp_mul_eq ha hlt
  have hulp : 0 < ulp a := zpow_pos two_pos _
  have hscale : ∀ n : ℤ, ((n * 2 ^ k : ℤ) : ℚ) * ulp a = n := by
    intro n
    push_cast
    rw [mul_assoc, mul_comm ((2 : ℚ) ^ k), hk, mul_one]
  constructor
  · have hle : lo * 2 ^ k ≤ roundHalfEven (a / ulp a) :=
      le_roundHalfEven ((le_div_iff₀ hulp).mpr ((hscale lo).le.trans h.1))
    calc (lo : ℚ) = ((lo * 2 ^ k : ℤ) : ℚ) * ulp a := (hscale lo).symm
      _ ≤ roundHalfEven (a / ulp a) * ulp a := by gcongr
  · have hle : roundHalfEven (a / ulp a) ≤ hi * 2 ^ k :=
      roundHalfEven_le ((div_le_iff₀ hulp).mpr (h.2.trans (hscale hi).ge))
    calc (roundHalfEven (a / ulp a) * ulp a : ℚ) ≤ ((hi * 2 ^ k : ℤ) : ℚ) * ulp a := by gcongr
      _ = hi := hscale hi

lemma rounded_of_pos {q : ℚ} (hq : 0 < q)
    (hsmall : (roundHalfEven (q / ulp q) * ulp q : ℚ) < 2 ^ 1024) :
    rounded q = roundHalfEven (q / ulp q) * ulp q := by
  have habs : |q| = q := abs_of_pos hq
  rw [rounded, ofRat, if_neg hq.ne']
  dsimp only
  rw [ulp] at hsmall ⊢
  rw [habs, if_neg (not_le.mpr hsmall), if_neg (not_lt.mpr hq.le)]
  rfl

lemma rounded_of_neg {q : ℚ} (hq : q < 0)
    (hsmall : (roundHalfEven (-q / ulp (-q)) * ulp (-q) : ℚ) < 2 ^ 1024) :
    rounded q = -(roundHalfEven (-q / ulp (-q)) * ulp (-q)) := by
  have habs : |q| = -q := abs_of_neg hq
  rw [rounded, ofRat, if_neg hq.ne]
  dsimp only
  rw [ulp] at hsmall ⊢
  rw [habs, if_neg (not_le.mpr hsmall), if_pos hq]
  rfl

@[simp] lemma rounded_zero : rounded 0 = 0 := rfl

/-- Rounding to a double keeps a rational between integers of at most 53 bits. -/
theorem rounded_mem_Icc {q : ℚ} {lo hi : ℤ} (h : q ∈ Set.Icc (lo : ℚ) hi) (hlo : -2 ^ 53 < lo)
    (hhi : hi < 2 ^ 53) : rounded q ∈ Set.Icc (lo : ℚ) hi := by
  have hsmall : ∀ {n : ℤ}, n < 2 ^ 53 → (n : ℚ) < 2 ^ 1024 := fun {n} hn =>
    calc (n : ℚ) < 2 ^ 53 := by exact_mod_cast hn
      _ ≤ 2 ^ 1024 := pow_le_pow_right₀ one_le_two (by omega)
  rcases lt_trichotomy q 0 with hq | rfl | hq
  · have hneg : -q ∈ Set.Icc ((-hi : ℤ) : ℚ) ((-lo : ℤ) : ℚ) := by
      push_cast
      exact ⟨neg_le_neg h.2, neg_le_neg h.1⟩
    have hmem := roundHalfEven_mul_ulp_mem (neg_pos.mpr hq) hneg (by omega)
    rw [rounded_of_neg hq (hmem.2.trans_lt (hsmall (by omega)))]
    push_cast at hmem
    exact ⟨by linarith [hmem.2], by linarith [hmem.1]⟩
  · rw [rounded_zero]
    exact h
  · have hmem := roundHalfEven_mul_ulp_mem hq h hhi
    rw [rounded_of_pos hq (hmem.2.trans_lt (hsmall hhi))]
    exact hmem

end Number

end Js
