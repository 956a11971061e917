import Merossity.Api.Digest
import Merossity.Meross.Cidr

/-!
The ranges that are suggested for a scan: `netmaskToPrefix`, `isPrivateIpv4`, `suggestCidrs` and
`defaultSuggestedCidr` of `meross/lan/discovery.ts`, whose `ipToInt` and `intToIp` are those of
`ping-sweep.ts`.

* `maskOf p` is the netmask of `p` ones. `countOnes_seen` and `countOnes_unseen` are the loop over
  the bits after and before the first zero, so `netmaskToPrefix_eq_ok_iff`: exactly these masks
  have a prefix.
* `parseCidr_suggested`: the suggested text is read back as the subnet of the address.
* `suggestLe` is the order of the suggestions; `head_private` and `head_en0` say what stands in
  front. `suggests` puts the three parts together.
-/

namespace Merossity

open Js

/-! ### The program -/

/-- The loop of `netmaskToPrefix` over the bits that are left. -/
def countOnes (mask : String) (n : BitVec 32) : List ℕ → Bool → ℕ → Except String ℕ
  | [], _, bits => .ok bits
  | i :: is, seenZero, bits =>
      if (n >>> i) &&& 1 = 1 then
        if seenZero then .error s!"Non-contiguous netmask: {mask}"
        else countOnes mask n is seenZero (bits + 1)
      else countOnes mask n is true bits

/-- `netmaskToPrefix`. -/
def netmaskToPrefix (mask : String) : Except String ℕ :=
  (ipToInt mask).bind fun n => countOnes mask n (List.range 32).reverse false 0

/-- `isPrivateIpv4`. -/
def isPrivateIpv4 (ip : String) : Bool :=
  match ipToInt ip with
  | .error _ => false
  | .ok n =>
      let a := (n >>> 24) &&& 255
      let b := (n >>> 16) &&& 255
      if a = 10 then true
      else if a = 172 ∧ 16 ≤ b ∧ b ≤ 31 then true
      else if a = 192 ∧ b = 168 then true
      else false

/-- What `suggestCidrs` looks at of an address of an interface. -/
structure InterfaceAddress where
  family : String
  internal : Bool
  address : String
  netmask : String

/-- The result of `os.networkInterfaces()`, in the order of `Object.entries`. -/
abbrev NetworkInterfaces : Type := List (String × Option (List InterfaceAddress))

/-- An element of the result of `suggestCidrs`. -/
structure Suggestion where
  iface : String
  address : String
  netmask : String
  cidr : String

/-- The body of the loop of `suggestCidrs`: the suggestion for one address, or none. -/
def suggestion (iface : String) (a : InterfaceAddress) : Option Suggestion :=
  if a.family ≠ "IPv4" then none
  else if a.internal then none
  else if a.address = "" ∨ a.netmask = "" then none
  else
    (do
      let pre ← netmaskToPrefix a.netmask
      let ip ← ipToInt a.address
      let mask : BitVec 32 := if pre = 0 then 0 else BitVec.allOnes 32 <<< (32 - pre)
      let cidr := intToIp (ip &&& mask) ++ "/" ++ toString pre
      return ⟨iface, a.address, a.netmask, cidr⟩ : Except String Suggestion).toOption

/-- All addresses, each with the name of its interface. -/
def addressesOf (ifs : NetworkInterfaces) : List (String × InterfaceAddress) :=
  ifs.flatMap fun e => (e.2.getD []).map fun a => (e.1, a)

/-- `isPrivateIpv4(a.address) ? 0 : 1`. -/
def privRank (a : Suggestion) : ℕ := if isPrivateIpv4 a.address then 0 else 1

/-- `a.iface === 'en0' ? 0 : 1`. -/
def enRank (a : Suggestion) : ℕ := if a.iface = "en0" then 0 else 1

section Order

variable [Runtime]

/-- The comparison of `suggestCidrs` does not put `a` after `b`: private addresses first, then
`en0`, then the names. -/
def suggestLe (a b : Suggestion) : Prop :=
  privRank a < privRank b ∨ privRank a = privRank b ∧
    (enRank a < enRank b ∨ enRank a = enRank b ∧ Runtime.localeCompare a.iface b.iface ≠ .gt)

instance suggestLe_decidable : DecidableRel suggestLe := fun a b =>
  inferInstanceAs (Decidable (privRank a < privRank b ∨ _ ∧ (enRank a < enRank b ∨ _ ∧
    _ ≠ Ordering.gt)))

instance suggestLe_total [LocaleOrder] : Std.Total suggestLe where
  total a b := by
    rcases lt_trichotomy (privRank a) (privRank b) with h | h | h
    · exact .inl (.inl h)
    · rcases lt_trichotomy (enRank a) (enRank b) with hen | hen | hen
      · exact .inl (.inr ⟨h, .inl hen⟩)
      · rcases LocaleOrder.total a.iface b.iface with hname | hname
        · exact .inl (.inr ⟨h, .inr ⟨hen, hname⟩⟩)
        · exact .inr (.inr ⟨h.symm, .inr ⟨hen.symm, hname⟩⟩)
      · exact .inr (.inr ⟨h.symm, .inl hen⟩)
    · exact .inr (.inl h)

instance suggestLe_trans [LocaleOrder] : IsTrans Suggestion suggestLe where
  trans a b c := by
    rintro (hab | ⟨hab, hab'⟩) (hbc | ⟨hbc, hbc'⟩)
    · exact .inl (hab.trans hbc)
    · exact .inl (hbc ▸ hab)
    · exact .inl (hab ▸ hbc)
    · refine .inr ⟨hab.trans hbc, ?_⟩
      rcases hab' with hen | ⟨hen, hname⟩ <;> rcases hbc' with hen' | ⟨hen', hname'⟩
      · exact .inl (hen.trans hen')
      · exact .inl (hen' ▸ hen)
      · exact .inl (hen ▸ hen')
      · exact .inr ⟨hen.trans hen', LocaleOrder.trans _ _ _ hname hname'⟩

/-- `suggestCidrs`. -/
def suggestCidrs (ifs : NetworkInterfaces) : List Suggestion :=
  ((addressesOf ifs).filterMap fun e => suggestion e.1 e.2).insertionSort suggestLe

/-- `defaultSuggestedCidr`. -/
def defaultSuggestedCidr (ifs : NetworkInterfaces) : Option String :=
  (suggestCidrs ifs).head?.map Suggestion.cidr

end Order

/-! ### Netmasks -/

/-- The netmask of `p` ones followed by zeros. -/
def maskOf (p : ℕ) : BitVec 32 := BitVec.allOnes 32 <<< (32 - p)

lemma toNat_maskOf {p : ℕ} (hp : p ≤ 32) : (maskOf p).toNat = 2 ^ 32 - 2 ^ (32 - p) := by
  have hnot := toNat_not_mask (k := 32 - p) (by omega)
  have hle : 2 ^ (32 - p) ≤ 2 ^ 32 := Nat.pow_le_pow_right (by decide) (by omega)
  have hpos : 0 < 2 ^ (32 - p) := by positivity
  rw [BitVec.toNat_not] at hnot
  rw [maskOf]
  omega

/-- The bit that the loop looks at. -/
lemma bit_eq_one_iff (n : BitVec 32) (i : ℕ) :
    (n >>> i) &&& 1 = 1 ↔ n.toNat.testBit i = true := by
  have hbit : ((n >>> i) &&& 1).toNat = (n.toNat.testBit i).toNat := by
    rw [BitVec.toNat_and, BitVec.toNat_ushiftRight, Nat.toNat_testBit, Nat.shiftRight_eq_div_pow]
    exact Nat.and_one_is_mod _
  rw [← BitVec.toNat_inj, hbit]
  cases n.toNat.testBit i <;> simp

lemma range_reverse (i : ℕ) : (List.range (i + 1)).reverse = i :: (List.range i).reverse := by
  rw [List.range_succ, List.reverse_append, List.reverse_singleton, List.singleton_append]

lemma mod_two_pow_succ (n i : ℕ) :
    n % 2 ^ (i + 1) = n % 2 ^ i + 2 ^ i * (n.testBit i).toNat := by
  rw [Nat.mod_pow_succ, Nat.toNat_testBit]

/-- After the first zero there may be no more ones. -/
lemma countOnes_seen {mask : String} {n : BitVec 32} {i bits b : ℕ} :
    countOnes mask n (List.range i).reverse true bits = .ok b
      ↔ n.toNat % 2 ^ i = 0 ∧ b = bits := by
  induction i with
  | zero => simp [countOnes, Nat.mod_one, eq_comm]
  | succ i ih =>
      rw [range_reverse, countOnes, mod_two_pow_succ]
      by_cases hbit : n.toNat.testBit i = true
      · rw [if_pos ((bit_eq_one_iff n i).mpr hbit), hbit]
        have hpos : 0 < 2 ^ i := by positivity
        refine iff_of_false (fun h => nomatch h) fun h => ?_
        have hzero := h.1
        simp at hzero
      · rw [if_neg fun h => hbit ((bit_eq_one_iff n i).mp h), ih, Bool.eq_false_iff.mpr hbit]
        simp

/-- The ones in front are counted. -/
lemma countOnes_unseen {mask : String} {n : BitVec 32} {i bits b : ℕ} :
    countOnes mask n (List.range i).reverse false bits = .ok b
      ↔ ∃ j ≤ i, n.toNat % 2 ^ i = 2 ^ i - 2 ^ (i - j) ∧ b = bits + j := by
  induction i generalizing bits with
  | zero =>
      simp [countOnes, Nat.mod_one, eq_comm]
  | succ i ih =>
      have hpos : 0 < 2 ^ i := by positivity
      have hlt : n.toNat % 2 ^ i < 2 ^ i := Nat.mod_lt _ hpos
      rw [range_reverse, countOnes, mod_two_pow_succ]
      by_cases hbit : n.toNat.testBit i = true
      · rw [if_pos ((bit_eq_one_iff n i).mpr hbit), if_neg (by simp), ih, hbit, Bool.toNat_true,
          Nat.mul_one]
        constructor
        · rintro ⟨j, hj, hmod, rfl⟩
          have hle : 2 ^ (i - j) ≤ 2 ^ i := Nat.pow_le_pow_right (by decide) (by omega)
          refine ⟨j + 1, by omega, ?_, by omega⟩
          rw [Nat.add_sub_add_right, pow_succ]
          omega
        · rintro ⟨j, hj, hmod, rfl⟩
          cases j with
          | zero => rw [Nat.sub_zero, Nat.sub_self] at hmod; omega
          | succ j =>
              have hle : 2 ^ (i - j) ≤ 2 ^ i := Nat.pow_le_pow_right (by decide) (by omega)
              refine ⟨j, by omega, ?_, by omega⟩
              rw [Nat.add_sub_add_right, pow_succ] at hmod
              omega
      · rw [if_neg fun h => hbit ((bit_eq_one_iff n i).mp h), countOnes_seen,
          Bool.eq_false_iff.mpr hbit, Bool.toNat_false, Nat.mul_zero, Nat.add_zero]
        constructor
        · rintro ⟨hmod, rfl⟩
          exact ⟨0, by omega, by rw [hmod, Nat.sub_zero, Nat.sub_self], rfl⟩
        · rintro ⟨j, hj, hmod, rfl⟩
          cases j with
          | zero => rw [Nat.sub_zero, Nat.sub_self] at hmod; exact ⟨hmod, rfl⟩
          | succ j =>
              -- a one in front would show in the remainder
              have hle : 2 ^ (i - j) ≤ 2 ^ i := Nat.pow_le_pow_right (by decide) (by omega)
              rw [Nat.add_sub_add_right, pow_succ] at hmod
              omega

/-- The text of a word. -/
lemma ipToInt_word (x : BitVec 32) : ipToInt (dotted x.toNat) = .ok x := by
  rw [ipToInt_dotted x.isLt, BitVec.ofNat_toNat, BitVec.setWidth_eq]

/-- A netmask has a prefix exactly if it is a run of ones followed by zeros. -/
lemma netmaskToPrefix_eq_ok_iff (m : BitVec 32) (p : ℕ) :
    netmaskToPrefix (dotted m.toNat) = .ok p ↔ p ≤ 32 ∧ m = maskOf p := by
  have hdef : netmaskToPrefix (dotted m.toNat)
      = countOnes (dotted m.toNat) m (List.range 32).reverse false 0 := by
    rw [netmaskToPrefix, ipToInt_word]
    rfl
  rw [hdef, countOnes_unseen, Nat.mod_eq_of_lt m.isLt]
  constructor
  · rintro ⟨j, hj, hmod, rfl⟩
    rw [Nat.zero_add]
    exact ⟨hj, BitVec.eq_of_toNat_eq (by rw [hmod, toNat_maskOf hj])⟩
  · rintro ⟨hp, rfl⟩
    exact ⟨p, hp, toNat_maskOf hp, by omega⟩

/-! ### The suggested text -/

/-- The text of a range, from the word of its address. -/
lemma parseCidr_word (x : BitVec 32) {p : ℕ} (hp : p ≤ 32) :
    ∃ c, parseCidr (intToIp x ++ "/" ++ toString p) = .ok c ∧ c.pre = p
      ∧ BitVec.ofInt 32 c.network = x &&& maskOf p
      ∧ BitVec.ofInt 32 c.broadcast = (x &&& maskOf p) ||| ~~~maskOf p := by
  have hbyte : ∀ m : ℕ, m % 256 ≤ 255 := fun m => by omega
  have htext : intToIp x ++ "/" ++ toString p
      = cidrText (x.toNat / 2 ^ 24 % 256) (x.toNat / 2 ^ 16 % 256) (x.toNat / 2 ^ 8 % 256)
        (x.toNat % 256) p := by
    have hdotted := intToIp_ofNat x.isLt
    rw [BitVec.ofNat_toNat, BitVec.setWidth_eq] at hdotted
    rw [hdotted, dotted, cidrText]
  have haddr : addressOf (x.toNat / 2 ^ 24 % 256) (x.toNat / 2 ^ 16 % 256)
      (x.toNat / 2 ^ 8 % 256) (x.toNat % 256) = x.toNat := by
    have hlt := x.isLt
    rw [addressOf]
    omega
  have hmask : (if p = 0 then 0 else BitVec.allOnes 32 <<< (32 - p)) = maskOf p := by
    split
    next h => subst h; rfl
    next => rfl
  rw [htext, parseCidr_cidrText (hbyte _) (hbyte _) (hbyte _) (hbyte _) hp, haddr]
  refine ⟨_, rfl, rfl, ?_, ?_⟩
  · simp only [hmask, BitVec.ofInt_toInt, BitVec.ofNat_toNat, BitVec.setWidth_eq]
  · simp only [hmask, BitVec.ofInt_toInt, BitVec.ofNat_toNat, BitVec.setWidth_eq]

/-- The suggestion denotes the subnet of its address: the prefix is that of the netmask, and the
ends, as unsigned words, are the address under the mask and with the other bits set. -/
def DenotesSubnet (e : Suggestion) : Prop :=
  ∃ (x : BitVec 32) (p : ℕ) (c : Cidr), p ≤ 32 ∧ e.address = dotted x.toNat
    ∧ e.netmask = dotted (maskOf p).toNat ∧ parseCidr e.cidr = .ok c ∧ c.pre = p
    ∧ BitVec.ofInt 32 c.network = x &&& maskOf p
    ∧ BitVec.ofInt 32 c.broadcast = x ||| ~~~maskOf p

/-- The address is external, of version 4, and its netmask is a run of ones followed by zeros. -/
def Eligible (a : InterfaceAddress) : Prop :=
  a.family = "IPv4" ∧ a.internal = false ∧ ∃ p ≤ 32, a.netmask = dotted (maskOf p).toNat

instance eligible_decidable : DecidablePred Eligible := fun a =>
  inferInstanceAs (Decidable (a.family = "IPv4" ∧ a.internal = false ∧ ∃ p ≤ 32, _ = _))

/-- The address and the netmask of version 4 are in canonical dotted form. -/
def Canonical (a : InterfaceAddress) : Prop :=
  a.family = "IPv4" →
    ∃ x m : BitVec 32, a.address = dotted x.toNat ∧ a.netmask = dotted m.toNat

lemma dotted_ne_empty (n : ℕ) : dotted n ≠ "" := by
  intro h
  have hlength := congrArg String.length h
  simp [dotted, String.length_append] at hlength

lemma dotted_word_injective {x y : BitVec 32} (h : dotted x.toNat = dotted y.toNat) : x = y :=
  BitVec.eq_of_toNat_eq (dotted_injective x.isLt y.isLt h)

lemma suggestion_of_not_eligible {a : InterfaceAddress} (ha : Canonical a) (h : ¬Eligible a)
    (iface : String) : suggestion iface a = none := by
  rw [suggestion]
  by_cases hfamily : a.family = "IPv4"
  · rw [if_neg (not_not.mpr hfamily)]
    cases hinternal : a.internal with
    | true => rfl
    | false =>
        obtain ⟨x, m, haddress, hnetmask⟩ := ha hfamily
        rw [if_neg (by simp), haddress, hnetmask, if_neg (by simp [dotted_ne_empty])]
        cases hpre : netmaskToPrefix (dotted m.toNat) with
        | error message => rfl
        | ok p =>
            obtain ⟨hp, rfl⟩ := (netmaskToPrefix_eq_ok_iff m p).mp hpre
            exact absurd ⟨hfamily, hinternal, p, hp, hnetmask⟩ h
  · rw [if_pos hfamily]

/-- An eligible address is suggested with its subnet. -/
lemma suggestion_of_eligible {a : InterfaceAddress} (ha : Canonical a) (h : Eligible a)
    (iface : String) : ∃ e, suggestion iface a = some e ∧ e.iface = iface ∧ e.address = a.address
      ∧ e.netmask = a.netmask ∧ DenotesSubnet e := by
  obtain ⟨hfamily, hinternal, p, hp, hnetmask⟩ := h
  obtain ⟨x, -, haddress, -⟩ := ha hfamily
  have hmask : (if p = 0 then 0 else BitVec.allOnes 32 <<< (32 - p)) = maskOf p := by
    split
    next h => subst h; rfl
    next => rfl
  have hdef : suggestion iface a
      = some ⟨iface, a.address, a.netmask, intToIp (x &&& maskOf p) ++ "/" ++ toString p⟩ := by
    rw [suggestion, if_neg (not_not.mpr hfamily), hinternal, if_neg (by simp), haddress, hnetmask,
      if_neg (by simp [dotted_ne_empty]), (netmaskToPrefix_eq_ok_iff _ p).mpr ⟨hp, rfl⟩,
      ipToInt_word, ← hmask]
    rfl
  obtain ⟨c, hc, hpre, hnetwork, hbroadcast⟩ := parseCidr_word (x &&& maskOf p) hp
  refine ⟨_, hdef, rfl, rfl, rfl, x, p, c, hp, haddress, hnetmask, hc, hpre, ?_, ?_⟩
  · rw [hnetwork, BitVec.and_assoc, BitVec.and_self]
  · rw [hbroadcast, BitVec.and_assoc, BitVec.and_self]
    ext i hi
    simp only [BitVec.getElem_or, BitVec.getElem_and, BitVec.getElem_not]
    cases (maskOf p)[i] <;> simp

/-! ### Private addresses -/

/-- The address is in one of the three private ranges. -/
def IsPrivateAddress (n : ℕ) : Prop :=
  (addressOf 10 0 0 0 ≤ n ∧ n ≤ addressOf 10 255 255 255)
    ∨ (addressOf 172 16 0 0 ≤ n ∧ n ≤ addressOf 172 31 255 255)
    ∨ (addressOf 192 168 0 0 ≤ n ∧ n ≤ addressOf 192 168 255 255)

lemma isPrivateIpv4_iff (x : BitVec 32) :
    isPrivateIpv4 (dotted x.toNat) = true ↔ IsPrivateAddress x.toNat := by
  have hlt := x.isLt
  have hoctet : ∀ k, ((x >>> k) &&& 255).toNat = x.toNat / 2 ^ k % 256 := by
    intro k
    rw [BitVec.toNat_and, BitVec.toNat_ushiftRight, Nat.shiftRight_eq_div_pow]
    exact Nat.and_two_pow_sub_one_eq_mod _ 8
  rw [isPrivateIpv4, ipToInt_word, IsPrivateAddress]
  simp only [← BitVec.toNat_inj, BitVec.le_def, hoctet, addressOf]
  simp only [BitVec.reduceToNat]
  split_ifs <;> simp only [true_iff, false_iff] <;> omega

/-- The suggestion is for a private address. -/
def IsPrivate (e : Suggestion) : Prop := ∃ x : BitVec 32, e.address = dotted x.toNat
  ∧ IsPrivateAddress x.toNat

lemma DenotesSubnet.isPrivate_iff {e : Suggestion} (h : DenotesSubnet e) :
    IsPrivate e ↔ isPrivateIpv4 e.address = true := by
  obtain ⟨x, -, -, -, haddress, -⟩ := h
  rw [haddress, isPrivateIpv4_iff]
  constructor
  · rintro ⟨y, hy, hprivate⟩
    rwa [dotted_word_injective (haddress.symm.trans hy)]
  · exact fun hprivate => ⟨x, haddress, hprivate⟩

/-! ### The list of suggestions -/

/-- What is kept of a list, and what is made of it. -/
lemma map_filterMap_of {α β γ : Type} {f : α → Option β} {g : β → γ} {h : α → γ} {p : α → Prop}
    [DecidablePred p] {l : List α} (hkeep : ∀ a ∈ l, p a → ∃ b, f a = some b ∧ g b = h a)
    (hdrop : ∀ a ∈ l, ¬p a → f a = none) : (l.filterMap f).map g = (l.filter p).map h := by
  induction l with
  | nil => rfl
  | cons a l ih =>
      have ih := ih (fun b hb => hkeep b (List.mem_cons_of_mem _ hb))
        fun b hb => hdrop b (List.mem_cons_of_mem _ hb)
      by_cases ha : p a
      · obtain ⟨b, hb, hg⟩ := hkeep a List.mem_cons_self ha
        rw [List.filterMap_cons_some hb, List.filter_cons_of_pos (by simpa using ha), List.map_cons,
          List.map_cons, ih, hg]
      · rw [List.filterMap_cons_none (hdrop a List.mem_cons_self ha),
          List.filter_cons_of_neg (by simpa using ha), ih]

section Suggested

variable [Runtime] {ifs : NetworkInterfaces}

/-- The suggestions before they are sorted. -/
lemma mem_suggestCidrs {e : Suggestion} :
    e ∈ suggestCidrs ifs ↔ ∃ a ∈ addressesOf ifs, suggestion a.1 a.2 = some e := by
  rw [suggestCidrs, List.mem_insertionSort, List.mem_filterMap]

/-- One suggestion for each eligible address. -/
lemma suggestCidrs_perm (hcanonical : ∀ a ∈ addressesOf ifs, Canonical a.2) :
    ((suggestCidrs ifs).map fun e => (e.iface, e.address, e.netmask)).Perm
      (((addressesOf ifs).filter fun a => Eligible a.2).map
        fun a => (a.1, a.2.address, a.2.netmask)) := by
  have hmap := map_filterMap_of (l := addressesOf ifs)
    (f := fun a => suggestion a.1 a.2) (g := fun e => (e.iface, e.address, e.netmask))
    (h := fun a => (a.1, a.2.address, a.2.netmask)) (p := fun a => Eligible a.2)
    (fun a ha helig => ?_) fun a ha helig => suggestion_of_not_eligible (hcanonical a ha) helig a.1
  · rw [← hmap]
    exact (List.perm_insertionSort suggestLe _).map _
  · obtain ⟨e, he, hiface, haddress, hnetmask, -⟩ :=
      suggestion_of_eligible (hcanonical a ha) helig a.1
    exact ⟨e, he, by rw [hiface, haddress, hnetmask]⟩

/-- Every suggestion denotes its subnet. -/
lemma denotesSubnet_of_mem (hcanonical : ∀ a ∈ addressesOf ifs, Canonical a.2) {e : Suggestion}
    (he : e ∈ suggestCidrs ifs) : DenotesSubnet e := by
  obtain ⟨a, ha, hsuggestion⟩ := mem_suggestCidrs.mp he
  by_cases helig : Eligible a.2
  · obtain ⟨e', he', -, -, -, hdenotes⟩ := suggestion_of_eligible (hcanonical a ha) helig a.1
    rw [Option.some.inj (hsuggestion.symm.trans he')]
    exact hdenotes
  · rw [suggestion_of_not_eligible (hcanonical a ha) helig] at hsuggestion
    cases hsuggestion

/-- The first suggestion comes before all others. -/
lemma suggestLe_head [LocaleOrder] {e : Suggestion} {rest : List Suggestion}
    (h : suggestCidrs ifs = e :: rest) : ∀ e' ∈ suggestCidrs ifs, e' = e ∨ suggestLe e e' := by
  have hsorted : (suggestCidrs ifs).Pairwise suggestLe := List.pairwise_insertionSort _ _
  rw [h] at hsorted ⊢
  intro e' he'
  rcases List.mem_cons.mp he' with rfl | he'
  · exact .inl rfl
  · exact .inr ((List.pairwise_cons.mp hsorted).1 e' he')

/-- What the suggestions are: one for each eligible address, each of them denoting its subnet; and
the default is the one of a private address if there is one, of `en0` if one of those is. -/
structure Suggests (ifs : NetworkInterfaces) : Prop where
  one_each : ((suggestCidrs ifs).map fun e => (e.iface, e.address, e.netmask)).Perm
    (((addressesOf ifs).filter fun a => Eligible a.2).map
      fun a => (a.1, a.2.address, a.2.netmask))
  denotes : ∀ e ∈ suggestCidrs ifs, DenotesSubnet e
  default : ∀ e ∈ suggestCidrs ifs, IsPrivate e → ∃ e' ∈ suggestCidrs ifs,
    defaultSuggestedCidr ifs = some e'.cidr ∧ IsPrivate e' ∧
      ((∃ e ∈ suggestCidrs ifs, IsPrivate e ∧ e.iface = "en0") → e'.iface = "en0")

/-- **The suggestions denote the subnets** of the interfaces, and the default is well chosen. -/
theorem suggests [LocaleOrder] (ifs : NetworkInterfaces)
    (hcanonical : ∀ a ∈ addressesOf ifs, Canonical a.2) : Suggests ifs where
  one_each := suggestCidrs_perm hcanonical
  denotes e he := denotesSubnet_of_mem hcanonical he
  default e he hprivate := by
    cases hlist : suggestCidrs ifs with
    | nil =>
        rw [hlist] at he
        cases he
    | cons e' rest =>
        have hfirst : e' ∈ suggestCidrs ifs := hlist ▸ List.mem_cons_self
        have hranks : ∀ d ∈ suggestCidrs ifs, privRank e' ≤ privRank d
            ∧ (privRank e' = privRank d → enRank e' ≤ enRank d) := by
          intro d hd
          rcases suggestLe_head hlist d hd with rfl | hlt | ⟨heq, hen⟩
          · exact ⟨le_rfl, fun _ => le_rfl⟩
          · exact ⟨hlt.le, fun h => absurd h hlt.ne⟩
          · exact ⟨heq.le, fun _ => hen.elim le_of_lt fun h => h.1.le⟩
        have hrank : ∀ d ∈ suggestCidrs ifs, IsPrivate d ↔ privRank d = 0 := by
          intro d hd
          rw [(denotesSubnet_of_mem hcanonical hd).isPrivate_iff, privRank]
          split <;> simp_all
        have hzero : privRank e' = 0 :=
          Nat.le_zero.mp ((hranks e he).1.trans ((hrank e he).mp hprivate).le)
        rw [← hlist]
        refine ⟨e', hfirst, by rw [defaultSuggestedCidr, hlist]; rfl, (hrank e' hfirst).mpr hzero,
          ?_⟩
        rintro ⟨d, hd, hdprivate, hden⟩
        have hle := (hranks d hd).2 (hzero.trans ((hrank d hd).mp hdprivate).symm)
        rw [enRank, enRank, if_pos hden] at hle
        by_contra hne
        rw [if_neg hne] at hle
        cases hle

end Suggested

/-- Two interfaces, one of them with a public address. -/
def twoInterfaces : NetworkInterfaces :=
  [("eth0", some [⟨"IPv4", false, "8.8.8.8", "255.255.0.0"⟩]),
    ("en0", some [⟨"IPv4", false, "192.168.1.20", "255.255.255.0"⟩])]

/-- The range of the private address is the default. -/
theorem suggests_two : let _ := plainRuntime
    Suggests twoInterfaces ∧ defaultSuggestedCidr twoInterfaces = some "192.168.1.0/24" := by
  let _ := plainRuntime
  have := localeOrder_plainRuntime
  refine ⟨suggests twoInterfaces fun a ha hfamily => ?_, by decide +kernel⟩
  rcases List.mem_cons.mp ha with rfl | ha
  · exact ⟨BitVec.ofNat 32 (addressOf 8 8 8 8), maskOf 16, by decide, by decide⟩
  · obtain rfl := List.mem_singleton.mp ha
    exact ⟨BitVec.ofNat 32 (addressOf 192 168 1 20), maskOf 24, by decide, by decide⟩

end Merossity
