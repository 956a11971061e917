import Merossity.Meross.Lan

/-!
The addresses of a range: what `listHostsInCidr` of `meross/lan/ping-sweep.ts` returns.

* An address is the number `addressOf a b c d`, and `dotted` writes it down again. The ends of
  its range are `networkOf` and `broadcastOf`, in unsigned arithmetic.
* `parseCidr_cidrText` says what the bit operators make of them: under a mask that is not all
  zeros both ends get the same sign, so their difference is the unsigned one (`toInt_sub`).
* Under the mask of prefix 0 the network is `0` and the broadcast `-1`, and the loop between
  the two never runs.
-/

namespace Merossity

open Js

/-! ### Addresses in unsigned arithmetic -/

/-- The number of the address `a.b.c.d`. -/
def addressOf (a b c d : ℕ) : ℕ := ((a * 256 + b) * 256 + c) * 256 + d

/-- The dotted form of a number below `2^32`. -/
def dotted (n : ℕ) : String :=
  toString (n / 2 ^ 24 % 256) ++ "." ++ toString (n / 2 ^ 16 % 256) ++ "."
    ++ toString (n / 2 ^ 8 % 256) ++ "." ++ toString (n % 256)

/-- The network address of the range of `2^k` addresses around `n`. -/
def networkOf (n k : ℕ) : ℕ := n / 2 ^ k * 2 ^ k

/-- Its broadcast address. -/
def broadcastOf (n k : ℕ) : ℕ := networkOf n k + (2 ^ k - 1)

/-- The text `a.b.c.d/p`. -/
def cidrText (a b c d p : ℕ) : String :=
  toString a ++ "." ++ toString b ++ "." ++ toString c ++ "." ++ toString d ++ "/" ++ toString p

/-! ### The text of a range -/

/-- The text of a natural number is read back. -/
lemma parseInt10_toString (n : ℕ) : parseInt10 (toString n) = some (n : ℤ) := by
  have hdigits : ∀ c ∈ (toString n).toList, c.isDigit := fun c => isDigit_of_mem_toList
  have hne : (toString n).toList ≠ [] := toString_ne_nil n
  have hvalue : digitsValue 10 (toString n).toList = n := digitsValue_toString n
  rw [parseInt10]
  generalize (toString n).toList = l at hdigits hne hvalue
  cases l with
  | nil => exact absurd rfl hne
  | cons c l =>
      obtain ⟨hspace, hminus, hplus⟩ := isSpace_of_isDigit (hdigits c (List.mem_cons_self ..))
      have hall : (c :: l).takeWhile Char.isDigit = c :: l := List.takeWhile_eq_self_iff.mpr hdigits
      rw [List.dropWhile_cons_of_neg (by simp [hspace])]
      dsimp only
      split
      · exact absurd (List.head_eq_of_cons_eq ‹_›) hminus
      · exact absurd (List.head_eq_of_cons_eq ‹_›) hplus
      · rw [hall, hvalue]
        simp

/-- No digit is the separator. -/
lemma notMem_toString (n : ℕ) {c : Char} (h : c.isDigit = false) : c ∉ (toString n).toList := by
  intro hmem
  rw [isDigit_of_mem_toList hmem] at h
  exact absurd h (by decide)

/-- The bytes of an address are read back from its text. -/
lemma parseOctets_text {a b c d : ℕ} (ha : a ≤ 255) (hb : b ≤ 255) (hc : c ≤ 255) (hd : d ≤ 255) :
    parseOctets (toString a ++ "." ++ toString b ++ "." ++ toString c ++ "." ++ toString d)
      = some [a, b, c, d] := by
  have hsplit : splitOn (toString a ++ "." ++ toString b ++ "." ++ toString c ++ "." ++ toString d)
      '.' = [toString a, toString b, toString c, toString d] := by
    have hdot := fun n => notMem_toString n (show ('.').isDigit = false by decide)
    rw [splitOn]
    simp only [String.toList_append, List.append_assoc]
    rw [show (".").toList = ['.'] from rfl]
    simp only [List.cons_append, List.nil_append]
    rw [List.splitOn_append_cons_self_of_not_mem (hdot a),
      List.splitOn_append_cons_self_of_not_mem (hdot b),
      List.splitOn_append_cons_self_of_not_mem (hdot c), List.splitOn_eq_singleton (hdot d)]
    simp only [List.map_cons, List.map_nil, String.ofList_toList]
  have hbyte : ∀ n : ℕ, n ≤ 255 → ((parseInt10 (toString n)).bind fun m =>
      if 0 ≤ m ∧ m ≤ 255 then some m.toNat else none) = some n := by
    intro n hn
    rw [parseInt10_toString]
    simp [hn]
  rw [parseOctets, hsplit]
  simp only [List.mapM_cons, List.mapM_nil, hbyte a ha, hbyte b hb, hbyte c hc, hbyte d hd]
  rfl

/-! ### The bit operators -/

/-- A byte fills the bits that a shift leaves free. -/
lemma shiftLeft_or_byte (x : ℕ) {y : ℕ} (hy : y ≤ 255) : x <<< 8 ||| y = x * 256 + y := by
  rw [← Nat.shiftLeft_add_eq_or_of_lt (by omega), Nat.shiftLeft_eq]

lemma ofNat_shiftLeft (x k : ℕ) : BitVec.ofNat 32 x <<< k = BitVec.ofNat 32 (x <<< k) := by
  apply BitVec.eq_of_toNat_eq
  rw [BitVec.toNat_shiftLeft, BitVec.toNat_ofNat, BitVec.toNat_ofNat, Nat.shiftLeft_eq,
    Nat.shiftLeft_eq, Nat.mod_mul_mod]

/-- The bytes of an address put together. -/
lemma ipToInt_text {a b c d : ℕ} (ha : a ≤ 255) (hb : b ≤ 255) (hc : c ≤ 255) (hd : d ≤ 255) :
    ipToInt (toString a ++ "." ++ toString b ++ "." ++ toString c ++ "." ++ toString d)
      = .ok (BitVec.ofNat 32 (addressOf a b c d)) := by
  have hbytes : a <<< 24 ||| b <<< 16 ||| c <<< 8 ||| d = addressOf a b c d := by
    calc a <<< 24 ||| b <<< 16 ||| c <<< 8 ||| d
        = ((a <<< 8 ||| b) <<< 8 ||| c) <<< 8 ||| d := by
          simp only [Nat.shiftLeft_or_distrib, ← Nat.shiftLeft_add]
      _ = addressOf a b c d := by
          rw [shiftLeft_or_byte a hb, shiftLeft_or_byte _ hc, shiftLeft_or_byte _ hd, addressOf]
  rw [ipToInt, parseOctets_text ha hb hc hd]
  simp only [ofNat_shiftLeft, ← BitVec.ofNat_or, hbytes]

/-- The base under the mask of `32 - k` bits. -/
lemma toNat_network (base : BitVec 32) (k : ℕ) :
    (base &&& BitVec.allOnes 32 <<< k).toNat = networkOf base.toNat k := by
  have hlt : base.toNat / 2 ^ k * 2 ^ k < 2 ^ 32 :=
    lt_of_le_of_lt (Nat.div_mul_le_self _ _) base.isLt
  rw [← BitVec.shiftLeft_ushiftRight, BitVec.toNat_shiftLeft, BitVec.toNat_ushiftRight,
    Nat.shiftRight_eq_div_pow, Nat.shiftLeft_eq, Nat.mod_eq_of_lt hlt, networkOf]

/-- The bits that the mask leaves out. -/
lemma toNat_not_mask {k : ℕ} (hk : k ≤ 32) : (~~~(BitVec.allOnes 32 <<< k)).toNat = 2 ^ k - 1 := by
  have hmask : (BitVec.allOnes 32 <<< k).toNat = 2 ^ 32 - 2 ^ k := by
    have hpow : 2 ^ 32 = 2 ^ (32 - k) * 2 ^ k := by rw [← pow_add, Nat.sub_add_cancel hk]
    have hones : BitVec.allOnes 32 <<< k = BitVec.allOnes 32 &&& BitVec.allOnes 32 <<< k :=
      BitVec.allOnes_and.symm
    have hdiv : (2 ^ 32 - 1) / 2 ^ k = 2 ^ (32 - k) - 1 := by
      rw [hpow, Nat.mul_comm, Nat.mul_sub_div _ _ _ (by positivity)]
      simp
    rw [hones, toNat_network, BitVec.toNat_allOnes, networkOf, hdiv, Nat.sub_mul, ← hpow,
      Nat.one_mul]
  have hle : 2 ^ k ≤ 2 ^ 32 := Nat.pow_le_pow_right (by decide) hk
  have hpos : 0 < 2 ^ k := by positivity
  rw [BitVec.toNat_not, hmask]
  omega

lemma toNat_broadcast (base : BitVec 32) {k : ℕ} (hk : k ≤ 32) :
    ((base &&& BitVec.allOnes 32 <<< k) ||| ~~~(BitVec.allOnes 32 <<< k)).toNat
      = broadcastOf base.toNat k := by
  have hlt : 2 ^ k - 1 < 2 ^ k := Nat.sub_lt (by positivity) Nat.one_pos
  rw [BitVec.toNat_or, toNat_network, toNat_not_mask hk, broadcastOf, networkOf, ← Nat.shiftLeft_eq,
    Nat.shiftLeft_add_eq_or_of_lt hlt]

/-- Two words with the same sign are as far apart as their unsigned values. -/
lemma toInt_sub {x y : BitVec 32} (h : x.toNat < 2 ^ 31 ↔ y.toNat < 2 ^ 31) :
    y.toInt - x.toInt = y.toNat - x.toNat := by
  rw [BitVec.toInt_eq_toNat_cond, BitVec.toInt_eq_toNat_cond]
  split <;> split <;> omega

/-- The ends of a range of at most `2^31` addresses have the same sign. -/
lemma networkOf_lt_iff (n : ℕ) {k : ℕ} (hk : k ≤ 31) :
    networkOf n k < 2 ^ 31 ↔ broadcastOf n k < 2 ^ 31 := by
  have hpow : 2 ^ 31 = 2 ^ (31 - k) * 2 ^ k := by rw [← pow_add, Nat.sub_add_cancel hk]
  have hpos : 0 < 2 ^ k := by positivity
  have hnet : networkOf n k < 2 ^ 31 ↔ n / 2 ^ k + 1 ≤ 2 ^ (31 - k) := by
    rw [networkOf, hpow, Nat.mul_lt_mul_right hpos, Nat.lt_iff_add_one_le]
  have hbroad : networkOf n k + 2 ^ k ≤ 2 ^ 31 ↔ n / 2 ^ k + 1 ≤ 2 ^ (31 - k) := by
    rw [networkOf, hpow, ← Nat.succ_mul, Nat.mul_le_mul_right_iff hpos]
  rw [hnet, ← hbroad, broadcastOf]
  omega

/-! ### What is listed -/

/-- The number of a word, written down. -/
lemma intToIp_ofNat {n : ℕ} (hn : n < 2 ^ 32) : intToIp (BitVec.ofNat 32 n) = dotted n := by
  have hoctet : ∀ k, ((BitVec.ofNat 32 n >>> k) &&& 255).toNat = n / 2 ^ k % 256 := by
    intro k
    rw [BitVec.toNat_and, BitVec.toNat_ushiftRight, BitVec.toNat_ofNat, Nat.mod_eq_of_lt hn,
      Nat.shiftRight_eq_div_pow]
    exact Nat.and_two_pow_sub_one_eq_mod _ 8
  rw [intToIp, dotted]
  simp only [hoctet, pow_zero, Nat.div_one]

/-- The text of a number is its address. -/
lemma ipToInt_dotted {n : ℕ} (hn : n < 2 ^ 32) : ipToInt (dotted n) = .ok (BitVec.ofNat 32 n) := by
  have hbyte : ∀ m : ℕ, m % 256 ≤ 255 := fun m => by omega
  have haddr : addressOf (n / 2 ^ 24 % 256) (n / 2 ^ 16 % 256) (n / 2 ^ 8 % 256) (n % 256) = n := by
    rw [addressOf]
    omega
  rw [dotted, ipToInt_text (hbyte _) (hbyte _) (hbyte _) (hbyte _), haddr]

/-- Different numbers have different texts. -/
lemma dotted_injective {n m : ℕ} (hn : n < 2 ^ 32) (hm : m < 2 ^ 32) (h : dotted n = dotted m) :
    n = m := by
  have hword : BitVec.ofNat 32 n = BitVec.ofNat 32 m := by
    rw [← Except.ok.injEq, ← ipToInt_dotted hn, ← ipToInt_dotted hm, h]
  have hnat := congrArg BitVec.toNat hword
  rwa [BitVec.toNat_ofNat, BitVec.toNat_ofNat, Nat.mod_eq_of_lt hn, Nat.mod_eq_of_lt hm] at hnat

/-- Different words have different addresses. -/
lemma intToIp_injective {x y : BitVec 32} (h : intToIp x = intToIp y) : x = y := by
  have hdotted : ∀ z : BitVec 32, intToIp z = dotted z.toNat := by
    intro z
    have hz := intToIp_ofNat z.isLt
    rwa [BitVec.ofNat_toNat, BitVec.setWidth_eq] at hz
  rw [hdotted, hdotted] at h
  exact BitVec.eq_of_toNat_eq (dotted_injective x.isLt y.isLt h)

/-- The ends of a range are signed words. -/
lemma exists_words {cidr : String} {c : Cidr} (h : parseCidr cidr = .ok c) :
    ∃ x y : BitVec 32, c.network = x.toInt ∧ c.broadcast = y.toInt := by
  rw [parseCidr] at h
  dsimp only at h
  split at h
  next => cases h
  next p _ =>
    split at h
    next => cases h
    next =>
      obtain ⟨base, -, rfl⟩ := map_eq_ok h
      exact ⟨_, _, rfl, rfl⟩

/-- No address is listed twice, whatever the text of the range. -/
lemma nodup_listHostsInCidr {cidr : String} {ips : List String}
    (h : listHostsInCidr cidr = .ok ips) : ips.Nodup := by
  rw [listHostsInCidr] at h
  obtain ⟨c, hcidr, rfl⟩ := map_eq_ok h
  split
  next => exact List.nodup_nil
  next =>
    obtain ⟨x, y, hx, hy⟩ := exists_words hcidr
    simp only [List.bind_eq_flatMap, List.pure_def, ← List.map_eq_flatMap, List.map_map]
    refine List.Nodup.map_on (fun i hi j hj hij => ?_) List.nodup_range
    -- the words are less than `2^32` apart
    have hxlow := BitVec.le_toInt x
    have hyhigh := BitVec.toInt_lt (x := y)
    have hi := List.mem_range.mp hi
    have hj := List.mem_range.mp hj
    have hword := congrArg BitVec.toNat (intToIp_injective hij)
    rw [BitVec.toNat_ofInt, BitVec.toNat_ofInt] at hword
    omega

lemma splitOn_cidrText (a b c d p : ℕ) : splitOn (cidrText a b c d p) '/'
    = [toString a ++ "." ++ toString b ++ "." ++ toString c ++ "." ++ toString d, toString p] := by
  have hslash := fun n => notMem_toString n (show ('/').isDigit = false by decide)
  have hdot : '/' ∉ (".").toList := by decide
  have haddress : '/' ∉ (toString a ++ "." ++ toString b ++ "." ++ toString c ++ "."
      ++ toString d).toList := by
    simp only [String.toList_append, List.mem_append, not_or]
    exact ⟨⟨⟨⟨⟨⟨hslash a, hdot⟩, hslash b⟩, hdot⟩, hslash c⟩, hdot⟩, hslash d⟩
  rw [splitOn, cidrText, String.toList_append, String.toList_append, List.append_assoc]
  rw [show ("/").toList ++ (toString p).toList = '/' :: (toString p).toList from rfl]
  rw [List.splitOn_append_cons_self_of_not_mem haddress, List.splitOn_eq_singleton (hslash p)]
  simp only [List.map_cons, List.map_nil, String.ofList_toList]

/-- What the text of a range is read as. -/
lemma parseCidr_cidrText {a b c d p : ℕ} (ha : a ≤ 255) (hb : b ≤ 255) (hc : c ≤ 255)
    (hd : d ≤ 255) (hp : p ≤ 32) :
    parseCidr (cidrText a b c d p) = .ok
      (let base := BitVec.ofNat 32 (addressOf a b c d)
       let mask : BitVec 32 := if p = 0 then 0 else BitVec.allOnes 32 <<< (32 - p)
       ⟨(base &&& mask).toInt, ((base &&& mask) ||| ~~~mask).toInt, p⟩) := by
  have hip : toString a ++ "." ++ toString b ++ "." ++ toString c ++ "." ++ toString d ≠ "" := by
    intro h
    have hlength := congrArg String.length h
    simp [String.length_append] at hlength
  rw [parseCidr, splitOn_cidrText]
  simp only [List.headD_cons, List.getElem?_cons_succ, List.getElem?_cons_zero, Option.getD_some,
    parseInt10_toString, hip, ipToInt_text ha hb hc hd, false_or]
  rw [if_neg (by omega)]
  simp [Except.map]

/-- The word `i` places after a signed one. -/
lemma ofInt_toInt_add (x : BitVec 32) (i : ℕ) :
    BitVec.ofInt 32 (x.toInt + 1 + i) = BitVec.ofNat 32 (x.toNat + 1 + i) := by
  apply BitVec.eq_of_toNat_eq
  rw [BitVec.toNat_ofInt, BitVec.toNat_ofNat, BitVec.toInt_eq_toNat_cond]
  split <;> omega

/-- Under a mask that is not all zeros, the loop runs over the addresses strictly between the
ends. -/
lemma listHostsInCidr_eq {a b c d p : ℕ} (ha : a ≤ 255) (hb : b ≤ 255) (hc : c ≤ 255)
    (hd : d ≤ 255) (hp : p ≤ 30) (hpos : p ≠ 0) :
    listHostsInCidr (cidrText a b c d p) = .ok ((List.range'
      (networkOf (addressOf a b c d) (32 - p) + 1) (2 ^ (32 - p) - 2)).map dotted) := by
  obtain ⟨k, hk⟩ : ∃ k, k = 32 - p := ⟨_, rfl⟩
  have hbase : (BitVec.ofNat 32 (addressOf a b c d)).toNat = addressOf a b c d := by
    rw [BitVec.toNat_ofNat, addressOf]
    omega
  rw [listHostsInCidr, parseCidr_cidrText ha hb hc hd (by omega), ← hk]
  simp only [Except.map, hpos, if_false]
  generalize BitVec.ofNat 32 (addressOf a b c d) = base at hbase
  have hnet := toNat_network base k
  have hbroad := toNat_broadcast base (show k ≤ 32 by omega)
  have hle : networkOf base.toNat k + 2 ^ k ≤ 2 ^ 32 := by
    have hlt := ((base &&& BitVec.allOnes 32 <<< k) ||| ~~~(BitVec.allOnes 32 <<< k)).isLt
    have hpow : 0 < 2 ^ k := by positivity
    rw [hbroad, broadcastOf] at hlt
    omega
  -- both ends have the same sign, so the loop runs as often as on unsigned numbers
  have hsub := toInt_sub (x := base &&& BitVec.allOnes 32 <<< k)
    (y := (base &&& BitVec.allOnes 32 <<< k) ||| ~~~(BitVec.allOnes 32 <<< k))
    (by rw [hnet, hbroad]; exact networkOf_lt_iff base.toNat (by omega))
  rw [hnet, hbroad, broadcastOf] at hsub
  have hcount : (((base &&& BitVec.allOnes 32 <<< k) ||| ~~~(BitVec.allOnes 32 <<< k)).toInt
      - (base &&& BitVec.allOnes 32 <<< k).toInt - 1).toNat = 2 ^ k - 2 := by
    have hpow : 0 < 2 ^ k := by positivity
    omega
  rw [if_neg (by omega), hcount, List.range'_eq_map_range, List.map_map, hbase.symm]
  simp only [List.bind_eq_flatMap, List.pure_def, ← List.map_eq_flatMap, List.map_map]
  refine congrArg Except.ok (List.map_congr_left fun i hi => ?_)
  have hlt : networkOf base.toNat k + 1 + i < 2 ^ 32 := by
    have := List.mem_range.mp hi
    omega
  rw [Function.comp_apply, Function.comp_apply, ofInt_toInt_add, hnet, intToIp_ofNat hlt]

/-- Under the mask of prefix 0 the loop never runs. -/
lemma listHostsInCidr_zero {a b c d : ℕ} (ha : a ≤ 255) (hb : b ≤ 255) (hc : c ≤ 255)
    (hd : d ≤ 255) : listHostsInCidr (cidrText a b c d 0) = .ok [] := by
  rw [listHostsInCidr, parseCidr_cidrText ha hb hc hd (by decide)]
  simp [Except.map]

/-- The text of a range lists its usable hosts: in ascending order, the dotted forms of the
addresses strictly between the ends, and none for a range of at most two addresses. -/
def ListsUsableHosts (a b c d p : ℕ) : Prop :=
  let base := addressOf a b c d
  let k := 32 - p
  if p ≤ 30 then
    ∃ l : List ℕ, listHostsInCidr (cidrText a b c d p) = .ok (l.map dotted)
      ∧ l.Pairwise (· < ·) ∧ (l.map dotted).Nodup
      ∧ (∀ n, n ∈ l ↔ networkOf base k < n ∧ n < broadcastOf base k)
      ∧ l.length = 2 ^ k - 2
  else listHostsInCidr (cidrText a b c d p) = .ok []

lemma broadcastOf_lt {n k : ℕ} (hn : n < 2 ^ 32) (hk : k ≤ 32) : broadcastOf n k < 2 ^ 32 := by
  have hpow : 2 ^ 32 = 2 ^ (32 - k) * 2 ^ k := by rw [← pow_add, Nat.sub_add_cancel hk]
  have hpos : 0 < 2 ^ k := by positivity
  have hquot : n / 2 ^ k + 1 ≤ 2 ^ (32 - k) := by
    rw [Nat.succ_le_iff, Nat.div_lt_iff_lt_mul hpos, ← hpow]
    exact hn
  have hend : networkOf n k + 2 ^ k ≤ 2 ^ 32 := by
    rw [networkOf, hpow, ← Nat.succ_mul]
    exact Nat.mul_le_mul_right _ hquot
  rw [broadcastOf]
  omega

/-- **The usable hosts of a range**: the list is the right one for every address and every
prefix but 0, whose range is taken for empty. -/
theorem listHostsInCidr_usable_iff (a b c d : Fin 256) (p : Fin 33) :
    ListsUsableHosts a b c d p ↔ (p : ℕ) ≠ 0 := by
  have ha : (a : ℕ) ≤ 255 := Nat.le_of_lt_succ a.isLt
  have hb : (b : ℕ) ≤ 255 := Nat.le_of_lt_succ b.isLt
  have hc : (c : ℕ) ≤ 255 := Nat.le_of_lt_succ c.isLt
  have hd : (d : ℕ) ≤ 255 := Nat.le_of_lt_succ d.isLt
  have hp : (p : ℕ) ≤ 32 := Nat.le_of_lt_succ p.isLt
  constructor
  · intro h hzero
    rw [ListsUsableHosts, hzero, if_pos (by decide)] at h
    obtain ⟨l, hlist, -, -, -, hlength⟩ := h
    rw [listHostsInCidr_zero ha hb hc hd, Except.ok.injEq, eq_comm, List.map_eq_nil_iff] at hlist
    rw [hlist] at hlength
    exact absurd hlength (by decide)
  · intro hpos
    by_cases hsmall : (p : ℕ) ≤ 30
    · rw [ListsUsableHosts, if_pos hsmall]
      refine ⟨_, listHostsInCidr_eq ha hb hc hd hsmall hpos, List.pairwise_lt_range', ?_, ?_,
        List.length_range'⟩
      · have hbase : addressOf a b c d < 2 ^ 32 := by
          rw [addressOf]
          omega
        have hend := broadcastOf_lt hbase (Nat.sub_le 32 p)
        refine List.Nodup.map_on (fun n hn m hm h => ?_) List.nodup_range'
        rw [List.mem_range'_1] at hn hm
        rw [broadcastOf] at hend
        exact dotted_injective (by omega) (by omega) h
      · intro n
        rw [List.mem_range'_1, broadcastOf]
        omega
    · rw [ListsUsableHosts, if_neg hsmall, listHostsInCidr, parseCidr_cidrText ha hb hc hd hp]
      simp only [Except.map]
      rw [if_pos (by omega)]

/-- The range `0.0.0.0/0` has usable hosts, and none of them is listed. -/
theorem listHostsInCidr_not_usable : ¬ ListsUsableHosts 0 0 0 0 0 := by
  rintro ⟨l, hlist, -, -, hmem, -⟩
  rw [listHostsInCidr_zero (by decide) (by decide) (by decide) (by decide), Except.ok.injEq,
    eq_comm, List.map_eq_nil_iff] at hlist
  have h := (hmem 1).mpr ⟨by decide, by decide⟩
  rw [hlist] at h
  exact List.not_mem_nil h

end Merossity
