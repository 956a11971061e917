import Merossity.Meross.Lan

/-!
Canonical MAC addresses, the texts that `normalizeMac` returns.

* `normalizeMac_idem`: what `normalizeMac` returns, it leaves as it is.
* `canonicalMac_of_extractLanMac`: a MAC address that a device reports is read as a canonical one.
* `macDigits` are the digits of a text; `normalizeMac_eq_ok_iff` says which texts are accepted and
  that the result is made of the digits, so `normalizeMac_canonical`: two texts have the same
  normal form exactly if they have the same digits. `MacSpelling` are the spellings that are
  meant to be accepted.
-/

namespace Merossity

open Js

/-! ### Canonical MAC addresses -/

/-- A MAC address as `normalizeMac` returns it. -/
def CanonicalMac (mac : String) : Prop := normalizeMac mac = .ok mac

/-- The characters of a canonical MAC address. -/
def macChars : List Char := "0123456789abcdef:".toList

lemma mem_macChars_of_range {c : Char} {lo hi : ℕ} (hlo : lo ≤ c.toNat) (hhi : c.toNat ≤ hi)
    (h : ∀ n, lo ≤ n → n ≤ hi → Char.ofNat n ∈ macChars) : c ∈ macChars := by
  have hc := h c.toNat hlo hhi
  rwa [Char.ofNat_toNat] at hc

/-- A hexadecimal digit in lower case. -/
lemma mem_macChars_of_hex {c : Char} (h : isHexDigit c = true) (hlow : c.toLower = c) :
    c ∈ macChars := by
  rw [isHexDigit, hlow] at h
  rcases (Bool.or_eq_true _ _).mp h with h | h
  · obtain ⟨hlo, hhi⟩ := (Char.isDigit_iff_toNat).mp h
    refine mem_macChars_of_range hlo hhi fun n hn hn' => ?_
    have hn'' : n < 58 := by
      have h9 : '9'.toNat = 57 := rfl
      omega
    have h0 : 48 ≤ n := hn
    interval_cases n <;> decide
  · obtain ⟨hlo, hhi⟩ := (Bool.and_eq_true _ _).mp h
    have hlo' : 97 ≤ c.toNat := Char.le_def.mp (of_decide_eq_true hlo)
    have hhi' : c.toNat ≤ 102 := Char.le_def.mp (of_decide_eq_true hhi)
    refine mem_macChars_of_range hlo' hhi' fun n hn hn' => ?_
    interval_cases n <;> decide

/-- These characters stay as they are. -/
lemma plain_of_mem_macChars : ∀ c ∈ macChars, isSpace c = false ∧ c ≠ '\u212a' ∧ c ≠ '\u0130' ∧
    c.toLower = c ∧ c ≠ '-' := by
  decide

lemma trimChars_of_macChars {l : List Char} (h : ∀ c ∈ l, c ∈ macChars) : trimChars l = l := by
  have hhead : l.dropWhile isSpace = l := by
    rw [List.dropWhile_eq_self_iff]
    intro hlen
    simp [(plain_of_mem_macChars _ (h _ (List.getElem_mem hlen))).1]
  rw [trimChars, hhead, List.rdropWhile_eq_self_iff]
  intro hne
  simp [(plain_of_mem_macChars _ (h _ (List.getLast_mem hne))).1]

lemma toLowerCase_of_macChars {l : List Char} (h : ∀ c ∈ l, c ∈ macChars) :
    toLowerCase (String.ofList l) = String.ofList l := by
  rw [toLowerCase, String.toList_ofList]
  have hchars : ∀ c ∈ l, (if c = '\u212a' then ['k'] else if c = '\u0130' then ['i', '\u0307']
      else [c.toLower]) = [c] := by
    intro c hc
    obtain ⟨-, hk, hi, hlow, -⟩ := plain_of_mem_macChars c (h c hc)
    rw [if_neg hk, if_neg hi, hlow]
  rw [List.flatMap_congr hchars, List.flatMap_singleton']

/-- Six pairs of digits in lower case, separated by colons, are canonical. -/
lemma canonicalMac_ofList {l : List Char} (hlen : l.length = 17) (hmac : isMac l = true)
    (h : ∀ c ∈ l, c ∈ macChars) : CanonicalMac (String.ofList l) := by
  have htrim : trim (String.ofList l) = String.ofList l := by
    rw [trim, String.toList_ofList, trimChars_of_macChars h]
  have hmap : (l.map fun c => if c = '-' then ':' else c) = l := by
    have hchars : ∀ c ∈ l, (if c = '-' then ':' else c) = c := fun c hc =>
      if_neg (plain_of_mem_macChars c (h c hc)).2.2.2.2
    rw [List.map_congr_left hchars, List.map_id']
  rw [CanonicalMac, normalizeMac, htrim, toLowerCase_of_macChars h, String.toList_ofList, hmap]
  simp [hlen, hmac]

lemma mem_of_isMac : ∀ {l : List Char}, isMac l = true →
    ∀ c ∈ l, isHexDigit c = true ∨ c = ':' ∨ c = '-' := by
  intro l
  fun_induction isMac l with
  | case1 a b =>
      intro h c hc
      simp only [Bool.and_eq_true] at h
      rcases List.mem_pair.mp hc with rfl | rfl
      · exact Or.inl h.1
      · exact Or.inl h.2
  | case2 a b c l ih =>
      intro h d hd
      simp only [Bool.and_eq_true, Bool.or_eq_true, decide_eq_true_eq] at h
      obtain ⟨⟨⟨ha, hb⟩, hc⟩, hl⟩ := h
      rcases List.mem_cons.mp hd with rfl | hd
      · exact Or.inl ha
      rcases List.mem_cons.mp hd with rfl | hd
      · exact Or.inl hb
      rcases List.mem_cons.mp hd with rfl | hd
      · exact Or.inr hc
      · exact ih hl d hd
  | case3 => exact fun h => by cases h

/-- Pairs of digits are separated by colons. -/
lemma isMac_colonPairs {l : List Char} (hpos : 0 < l.length) (heven : l.length % 2 = 0)
    (h : ∀ c ∈ l, isHexDigit c = true) :
    isMac (colonPairs l) = true ∧ (colonPairs l).length + 1 = l.length + l.length / 2 := by
  fun_induction colonPairs l with
  | case1 a b c l ih =>
      simp only [List.length_cons] at heven ih ⊢
      obtain ⟨hmac, hlen⟩ := ih (by omega) (by omega) fun d hd =>
        h d (List.mem_cons_of_mem _ (List.mem_cons_of_mem _ hd))
      refine ⟨?_, by omega⟩
      have ha := h a (by simp)
      have hb := h b (by simp)
      simp [isMac, ha, hb, hmac]
  | case2 l hshort =>
      match l, hshort with
      | [], _ => cases hpos
      | [a], _ => cases heven
      | [a, b], _ =>
          refine ⟨?_, by simp⟩
          have ha := h a (by simp)
          have hb := h b (by simp)
          simp [isMac, ha, hb]
      | a :: b :: c :: l, hshort => exact absurd rfl (hshort a b c l)

lemma mem_colonPairs {l : List Char} : ∀ c ∈ colonPairs l, c ∈ l ∨ c = ':' := by
  fun_induction colonPairs l with
  | case1 a b c l ih =>
      intro d hd
      simp only [List.mem_cons] at hd ⊢
      rcases hd with rfl | rfl | rfl | hd
      · simp
      · simp
      · simp
      · rcases ih d hd with h | h
        · simp only [List.mem_cons] at h
          tauto
        · exact Or.inr h
  | case2 l hshort => exact fun c hc => Or.inl hc

/-- The letters that have a lower case. -/
def upperChars : List Char := "ABCDEFGHIJKLMNOPQRSTUVWXYZ".toList

/-- A character is a letter in upper case, or stays as it is. -/
lemma toLower_cases (c : Char) : c ∈ upperChars ∨ c.toLower = c := by
  by_cases h : 65 ≤ c.toNat ∧ c.toNat ≤ 90
  · obtain ⟨hlo, hhi⟩ := h
    rw [← Char.ofNat_toNat c]
    exact .inl (by interval_cases c.toNat <;> decide)
  · have hup : ¬ (c.val ≥ 'A'.val ∧ c.val ≤ 'Z'.val) := fun hup =>
      h ⟨UInt32.le_iff_toNat_le.mp hup.1, UInt32.le_iff_toNat_le.mp hup.2⟩
    exact .inr (dif_neg hup)

lemma toLower_toLower (c : Char) : c.toLower.toLower = c.toLower := by
  have hupper : ∀ d ∈ upperChars, d.toLower.toLower = d.toLower := by decide
  rcases toLower_cases c with hc | hc
  · exact hupper c hc
  · rw [hc, hc]

/-- The characters that `normalizeMac` looks at are in lower case, and no hyphens. -/
lemma low_of_mem_normalized {s : String} : ∀ c ∈ (toLowerCase s).toList.map
    (fun c => if c = '-' then ':' else c), c.toLower = c ∧ c ≠ '-' := by
  intro c hc
  obtain ⟨d, hd, rfl⟩ := List.mem_map.mp hc
  rw [toLowerCase, String.toList_ofList] at hd
  obtain ⟨e, -, he⟩ := List.mem_flatMap.mp hd
  have hlow : d.toLower = d := by
    split at he
    · obtain rfl := List.mem_singleton.mp he
      rfl
    split at he
    · rcases List.mem_pair.mp he with rfl | rfl <;> rfl
    · obtain rfl := List.mem_singleton.mp he
      exact toLower_toLower e
  by_cases hdash : d = '-'
  · rw [if_pos hdash]
    decide
  · rw [if_neg hdash]
    exact ⟨hlow, hdash⟩

/-- What `normalizeMac` returns is canonical. -/
theorem normalizeMac_idem {mac n : String} (h : normalizeMac mac = .ok n) : CanonicalMac n := by
  have hlow := low_of_mem_normalized (s := trim mac)
  rw [normalizeMac] at h
  generalize (toLowerCase (trim mac)).toList.map (fun c => if c = '-' then ':' else c) = l at h hlow
  split at h
  next hl =>
    obtain ⟨hlen, hmac⟩ := (Bool.and_eq_true _ _).mp hl
    obtain rfl := Except.ok.inj h
    refine canonicalMac_ofList (of_decide_eq_true hlen) hmac fun c hc => ?_
    obtain ⟨hc', hdash⟩ := hlow c hc
    rcases mem_of_isMac hmac c hc with hhex | rfl | rfl
    · exact mem_macChars_of_hex hhex hc'
    · decide
    · exact absurd rfl hdash
  next =>
    split at h
    next hl =>
      obtain ⟨hlen, hhex⟩ := (Bool.and_eq_true _ _).mp hl
      have hlen' := of_decide_eq_true hlen
      obtain rfl := Except.ok.inj h
      have hall := List.all_eq_true.mp hhex
      obtain ⟨hmac, hlen''⟩ := isMac_colonPairs (by omega) (by omega) hall
      refine canonicalMac_ofList (by omega) hmac fun c hc => ?_
      rcases mem_colonPairs c hc with hc | rfl
      · exact mem_macChars_of_hex (hall c hc) (hlow c (List.mem_of_mem_filter hc)).1
      · decide
    next => cases h

lemma CanonicalMac.ne_empty {mac : String} (h : CanonicalMac mac) : mac ≠ "" := by
  rintro rfl
  have herr : normalizeMac "" = .error "Invalid MAC address: " := by decide
  rw [CanonicalMac, herr] at h
  cases h

lemma canonicalMac_of_toOption {mac n : String} (h : (normalizeMac mac).toOption = some n) :
    CanonicalMac n :=
  normalizeMac_idem (eq_ok_of_toOption h)

/-- A MAC address that a device reports is canonical. -/
lemma canonicalMac_of_extractLanMac {resp : Json} {mac : String}
    (h : extractLanMac resp = some mac) : CanonicalMac mac := by
  rw [extractLanMac] at h
  split at h
  · split at h
    · exact canonicalMac_of_toOption h
    · cases h
  · cases h

/-! ### The digits of a MAC address -/

/-- The hexadecimal digits of a text, in order and in lower case. -/
def macDigits (s : String) : List Char := (s.toList.filter isHexDigit).map Char.toLower

/-- The text that the two expressions of `normalizeMac` are tried on. -/
def macText (s : String) : List Char :=
  (toLowerCase (trim s)).toList.map fun c => if c = '-' then ':' else c

lemma isHexDigit_toLower (c : Char) : isHexDigit c.toLower = isHexDigit c := by
  have hupper : ∀ d ∈ upperChars, isHexDigit d.toLower = isHexDigit d := by decide
  rcases toLower_cases c with hc | hc
  · exact hupper c hc
  · rw [hc]

lemma isHexDigit_of_isSpace {c : Char} (h : isSpace c = true) : isHexDigit c = false := by
  rcases (Bool.or_eq_true _ _).mp h with h | h
  · have hall : ∀ c ∈ ['\t', '\n', '\x0b', '\x0c', '\r', ' ', '\u00a0', '\u1680', '\u2028',
        '\u2029', '\u202f', '\u205f', '\u3000', '\ufeff'], isHexDigit c = false := by decide
    exact hall c (of_decide_eq_true h)
  · obtain ⟨hlo, hhi⟩ := (Bool.and_eq_true _ _).mp h
    have hlo' : 0x2000 ≤ c.toNat := Char.le_def.mp (of_decide_eq_true hlo)
    have hhi' : c.toNat ≤ 0x200a := Char.le_def.mp (of_decide_eq_true hhi)
    rw [← Char.ofNat_toNat c]
    interval_cases c.toNat <;> decide

/-- White space has no digits. -/
lemma filter_trimChars (l : List Char) :
    (trimChars l).filter isHexDigit = l.filter isHexDigit := by
  have hspace : ∀ w : List Char, (∀ c ∈ w, isSpace c = true) → w.filter isHexDigit = [] :=
    fun w hw => List.filter_eq_nil_iff.mpr fun c hc => by simp [isHexDigit_of_isSpace (hw c hc)]
  have hfront : l.filter isHexDigit = (l.dropWhile isSpace).filter isHexDigit := by
    conv_lhs => rw [← List.takeWhile_append_dropWhile (p := isSpace) (l := l)]
    rw [List.filter_append, hspace _ fun c hc => List.mem_takeWhile_imp hc, List.nil_append]
  have hback : (l.dropWhile isSpace).filter isHexDigit = (trimChars l).filter isHexDigit := by
    conv_lhs => rw [← List.rdropWhile_append_rtakeWhile (p := isSpace) (l := l.dropWhile isSpace)]
    rw [List.filter_append, hspace _ fun c hc => List.mem_rtakeWhile_imp hc, List.append_nil]
    rfl
  rw [hfront, hback]

/-- The characters of `normalizeMac`, one by one: the digits become lower case, hyphens become
colons, and what was no digit is none. -/
lemma filter_lowered (l : List Char) :
    (((l.flatMap fun c => if c = '\u212a' then ['k'] else if c = '\u0130' then ['i', '\u0307']
        else [c.toLower]).map fun c => if c = '-' then ':' else c).filter isHexDigit)
      = (l.filter isHexDigit).map Char.toLower := by
  induction l with
  | nil => rfl
  | cons c l ih =>
      rw [List.flatMap_cons, List.map_append, List.filter_append, ih]
      by_cases hk : c = '\u212a'
      · subst hk; rfl
      by_cases hi : c = '\u0130'
      · subst hi; rfl
      rw [if_neg hk, if_neg hi, List.map_singleton]
      by_cases hdash : c.toLower = '-'
      · have hc : isHexDigit c = false := by rw [← isHexDigit_toLower, hdash]; rfl
        rw [if_pos hdash, List.filter_cons_of_neg (Bool.eq_false_iff.mp hc)]
        rfl
      · rw [if_neg hdash]
        cases hc : isHexDigit c <;> simp [isHexDigit_toLower, hc]

/-- The digits of the text are those of the argument. -/
lemma filter_macText (s : String) : (macText s).filter isHexDigit = macDigits s := by
  rw [macText, toLowerCase, String.toList_ofList, filter_lowered, trim, String.toList_ofList,
    filter_trimChars, macDigits]

/-! ### What is accepted -/

/-- A text that is matched is its digits in pairs. -/
lemma colonPairs_of_isMac {l : List Char} (h : isMac l = true) (hdash : ∀ c ∈ l, c ≠ '-') :
    colonPairs (l.filter isHexDigit) = l
      ∧ 3 * (l.filter isHexDigit).length = 2 * (l.length + 1) := by
  fun_induction isMac l with
  | case1 a b =>
      simp only [Bool.and_eq_true] at h
      simp [h.1, h.2, colonPairs]
  | case2 a b c l ih =>
      simp only [Bool.and_eq_true, Bool.or_eq_true, decide_eq_true_eq] at h
      obtain ⟨⟨⟨ha, hb⟩, hc⟩, hl⟩ := h
      have hcolon : c = ':' := hc.resolve_right (hdash c (by simp))
      subst hcolon
      obtain ⟨hpairs, hlen⟩ := ih hl fun d hd => hdash d (by simp [hd])
      have hfilter : (a :: b :: ':' :: l).filter isHexDigit = a :: b :: l.filter isHexDigit := by
        have hc' : isHexDigit ':' = false := rfl
        simp [ha, hb, hc']
      rw [hfilter]
      constructor
      · cases hl' : l.filter isHexDigit with
        | nil => simp [hl'] at hlen
        | cons d ds => rw [colonPairs, ← hl', hpairs]
      · simp only [List.length_cons]
        omega
  | case3 => cases h

/-- **`normalizeMac` accepts** the texts with twelve hexadecimal digits and, apart from white space
at the ends, no characters but digits, colons and hyphens; it returns the digits in pairs. -/
lemma normalizeMac_eq_ok_iff {s n : String} : normalizeMac s = .ok n ↔
    (∀ c ∈ macText s, isHexDigit c = true ∨ c = ':') ∧ (macDigits s).length = 12
      ∧ n = String.ofList (colonPairs (macDigits s)) := by
  have hlow := low_of_mem_normalized (s := trim s)
  rw [← filter_macText]
  have hdef : normalizeMac s =
      if (macText s).length = 17 && isMac (macText s) then .ok (String.ofList (macText s))
      else if ((macText s).filter (· ≠ ':')).length = 12
          && ((macText s).filter (· ≠ ':')).all isHexDigit then
        .ok (String.ofList (colonPairs ((macText s).filter (· ≠ ':'))))
      else .error s!"Invalid MAC address: {s}" := rfl
  rw [hdef]
  generalize hl : macText s = l
  have hdash : ∀ c ∈ l, c ≠ '-' := fun c hc => (hlow c (by rw [← hl] at hc; exact hc)).2
  -- the compact text consists of the digits, if it consists of digits
  have hcompact : (∀ c ∈ l, isHexDigit c = true ∨ c = ':') →
      l.filter (· ≠ ':') = l.filter isHexDigit := by
    intro h
    refine List.filter_congr fun c hc => ?_
    rcases h c hc with hhex | rfl
    · have hne : c ≠ ':' := fun hcolon => by subst hcolon; cases hhex
      simp [hhex, hne]
    · rfl
  by_cases hmac : (l.length = 17 && isMac l) = true
  · rw [if_pos hmac]
    obtain ⟨hlen, hmac⟩ := (Bool.and_eq_true _ _).mp hmac
    obtain ⟨hpairs, hdigits⟩ := colonPairs_of_isMac hmac hdash
    have hlen' : l.length = 17 := of_decide_eq_true hlen
    rw [hpairs]
    constructor
    · intro h
      refine ⟨fun c hc => ?_, by omega, (Except.ok.inj h).symm⟩
      rcases mem_of_isMac hmac c hc with hhex | hcolon | hc'
      · exact .inl hhex
      · exact .inr hcolon
      · exact absurd hc' (hdash c hc)
    · rintro ⟨-, -, rfl⟩
      rfl
  · rw [if_neg hmac]
    constructor
    · intro h
      split at h
      next hhex =>
        obtain ⟨hlen, hhex⟩ := (Bool.and_eq_true _ _).mp hhex
        have hall : ∀ c ∈ l, isHexDigit c = true ∨ c = ':' := by
          intro c hc
          by_cases hcolon : c = ':'
          · exact .inr hcolon
          · exact .inl (List.all_eq_true.mp hhex c (List.mem_filter.mpr ⟨hc, by simp [hcolon]⟩))
        rw [hcompact hall] at hlen h
        exact ⟨hall, of_decide_eq_true hlen, (Except.ok.inj h).symm⟩
      next => cases h
    · rintro ⟨hall, hlen, rfl⟩
      rw [hcompact hall, if_pos]
      simp [hlen]

/-! ### Every spelling -/

/-- The characters of a list of pairs. -/
def pairChars (ps : List (Char × Char)) : List Char := ps.flatMap fun p => [p.1, p.2]

/-- The digits that a canonical MAC address is made of. -/
def lowHexChars : List Char := "0123456789abcdef".toList

/-- Pairs of digits, each but the last one followed by a colon, by a hyphen or by nothing. -/
inductive Spelling : ℕ → List Char → Prop
  | last {a b : Char} : isHexDigit a = true → isHexDigit b = true → Spelling 1 [a, b]
  | pair {n : ℕ} {a b : Char} {sep l : List Char} : isHexDigit a = true → isHexDigit b = true →
      sep ∈ [[], [':'], ['-']] → Spelling n l → Spelling (n + 1) (a :: b :: (sep ++ l))

/-- A spelling of a MAC address, with white space around it. -/
def MacSpelling (s : String) : Prop :=
  ∃ front body back, s.toList = front ++ body ++ back ∧ (∀ c ∈ front, isSpace c = true)
    ∧ (∀ c ∈ back, isSpace c = true) ∧ Spelling 6 body

lemma Spelling.spec {n : ℕ} {l : List Char} (h : Spelling n l) :
    (∀ c ∈ l, isHexDigit c = true ∨ c = ':' ∨ c = '-') ∧ (l.filter isHexDigit).length = 2 * n := by
  induction h with
  | last ha hb => simp [ha, hb]
  | @pair n a b sep l ha hb hsep _ ih =>
      have hseps : sep.filter isHexDigit = [] ∧ ∀ c ∈ sep, c = ':' ∨ c = '-' := by
        simp only [List.mem_cons, List.not_mem_nil, or_false] at hsep
        rcases hsep with rfl | rfl | rfl
        · exact ⟨rfl, fun c hc => nomatch hc⟩
        · exact ⟨rfl, fun c hc => .inl (List.mem_singleton.mp hc)⟩
        · exact ⟨rfl, fun c hc => .inr (List.mem_singleton.mp hc)⟩
      refine ⟨fun c hc => ?_, ?_⟩
      · simp only [List.mem_cons, List.mem_append] at hc
        rcases hc with rfl | rfl | hc | hc
        · exact .inl ha
        · exact .inl hb
        · exact .inr (hseps.2 c hc)
        · exact ih.1 c hc
      · simp [ha, hb, hseps.1, ih.2]
        omega

/-- White space at the ends is trimmed away. -/
lemma trimChars_append {front body back : List Char} (hfront : ∀ c ∈ front, isSpace c = true)
    (hback : ∀ c ∈ back, isSpace c = true) (hbody : ∀ c ∈ body, isSpace c = false)
    (hne : body ≠ []) : trimChars (front ++ body ++ back) = body := by
  have hkept : ∀ l : List Char, (∀ c ∈ l, isSpace c = false) → l.dropWhile isSpace = l := by
    intro l hl
    rw [List.dropWhile_eq_self_iff]
    intro hlen
    simp [hl _ (List.getElem_mem hlen)]
  have hdrop : (front ++ body ++ back).dropWhile isSpace = body ++ back := by
    rw [List.append_assoc, List.dropWhile_append_of_pos hfront]
    cases body with
    | nil => exact absurd rfl hne
    | cons c l => simp [hbody c (by simp)]
  rw [trimChars, hdrop, List.rdropWhile, List.reverse_append,
    List.dropWhile_append_of_pos fun c hc => hback c (List.mem_reverse.mp hc),
    hkept _ fun c hc => hbody c (List.mem_reverse.mp hc), List.reverse_reverse]

/-- Every spelling is accepted. -/
lemma ok_of_macSpelling {s : String} (h : MacSpelling s) : ∃ n, normalizeMac s = .ok n := by
  obtain ⟨front, body, back, hs, hfront, hback, hbody⟩ := h
  obtain ⟨hchars, hlen⟩ := hbody.spec
  have hspace : ∀ c ∈ body, isSpace c = false := by
    intro c hc
    rcases hchars c hc with hhex | rfl | rfl
    · by_contra hspace
      rw [isHexDigit_of_isSpace (Bool.not_eq_false _ ▸ hspace)] at hhex
      cases hhex
    · rfl
    · rfl
  have hne : body ≠ [] := by
    rintro rfl
    cases hlen
  have htrim : trimChars s.toList = body := by
    rw [hs]
    exact trimChars_append hfront hback hspace hne
  refine ⟨_, normalizeMac_eq_ok_iff.mpr ⟨fun c hc => ?_, ?_, rfl⟩⟩
  · obtain ⟨d, hd, rfl⟩ := List.mem_map.mp hc
    rw [trim, htrim, toLowerCase, String.toList_ofList, String.toList_ofList] at hd
    obtain ⟨e, he, hd⟩ := List.mem_flatMap.mp hd
    rcases hchars e he with hhex | rfl | rfl
    · have hk : e ≠ '\u212a' := fun hk => by subst hk; cases hhex
      have hi : e ≠ '\u0130' := fun hi => by subst hi; cases hhex
      rw [if_neg hk, if_neg hi, List.mem_singleton] at hd
      subst hd
      have hlow : isHexDigit e.toLower = true := (isHexDigit_toLower e).trans hhex
      have hdash : e.toLower ≠ '-' := fun hdash => by rw [hdash] at hlow; cases hlow
      rw [if_neg hdash]
      exact .inl hlow
    · obtain rfl := List.mem_singleton.mp hd
      exact .inr rfl
    · obtain rfl := List.mem_singleton.mp hd
      exact .inr rfl
  · rw [macDigits, List.length_map, ← filter_trimChars, htrim, hlen]

/-! ### The canonical form -/

lemma colonPairs_pairs (ds : List Char) (heven : ds.length % 2 = 0) :
    ∃ ps : List (Char × Char), pairChars ps = ds
      ∧ colonPairs ds = [':'].intercalate (ps.map fun p => [p.1, p.2]) := by
  fun_induction colonPairs ds with
  | case1 a b c l ih =>
      obtain ⟨ps, hps, hpairs⟩ := ih (by simp only [List.length_cons] at heven ⊢; omega)
      refine ⟨(a, b) :: ps, by simp [pairChars, ← hps], ?_⟩
      rw [hpairs]
      cases ps with
      | nil => simp [pairChars] at hps
      | cons p ps => rfl
  | case2 l hshort =>
      match l, hshort with
      | [], _ => exact ⟨[], rfl, rfl⟩
      | [a], _ => cases heven
      | [a, b], _ => exact ⟨[(a, b)], rfl, rfl⟩
      | a :: b :: c :: l, hshort => exact absurd rfl (hshort a b c l)

/-- The digits are read back from the pairs. -/
lemma filter_colonPairs {ds : List Char} (h : ∀ c ∈ ds, isHexDigit c = true) :
    (colonPairs ds).filter isHexDigit = ds := by
  fun_induction colonPairs ds with
  | case1 a b c l ih =>
      have hcolon : isHexDigit ':' = false := rfl
      have ih := ih fun d hd => h d (List.mem_cons_of_mem _ (List.mem_cons_of_mem _ hd))
      simp [h a (by simp), h b (by simp), hcolon, ih]
  | case2 l hshort => exact List.filter_eq_self.mpr h

lemma toLower_mem_lowHexChars {c : Char} (h : isHexDigit c = true) : c.toLower ∈ lowHexChars := by
  have hhex : isHexDigit c.toLower = true := (isHexDigit_toLower c).trans h
  have hmem := mem_macChars_of_hex hhex (toLower_toLower c)
  have hchars : macChars = lowHexChars ++ [':'] := by decide
  rw [hchars, List.mem_append, List.mem_singleton] at hmem
  refine hmem.resolve_right fun hcolon => ?_
  rw [hcolon] at hhex
  cases hhex

/-- The digits are in lower case. -/
lemma mem_macDigits {s : String} {c : Char} (h : c ∈ macDigits s) :
    isHexDigit c = true ∧ c ∈ lowHexChars := by
  obtain ⟨d, hd, rfl⟩ := List.mem_map.mp h
  have hhex : isHexDigit d = true := (List.mem_filter.mp hd).2
  exact ⟨(isHexDigit_toLower d).trans hhex, toLower_mem_lowHexChars hhex⟩

/-- What is returned are six pairs of the digits of the text. -/
lemma pairs_of_normalizeMac {s n : String} (h : normalizeMac s = .ok n) :
    ∃ ps : List (Char × Char), ps.length = 6 ∧ (∀ c ∈ pairChars ps, c ∈ lowHexChars)
      ∧ pairChars ps = macDigits s ∧ n.toList = [':'].intercalate (ps.map fun p => [p.1, p.2]) := by
  obtain ⟨-, hlen, rfl⟩ := normalizeMac_eq_ok_iff.mp h
  obtain ⟨ps, hps, hpairs⟩ := colonPairs_pairs (macDigits s) (by omega)
  refine ⟨ps, ?_, fun c hc => ?_, hps, by rw [String.toList_ofList, hpairs]⟩
  · have hdouble : (pairChars ps).length = 2 * ps.length := by
      simp [pairChars, List.length_flatMap, mul_comm]
    rw [hps, hlen] at hdouble
    omega
  · rw [hps] at hc
    exact (mem_macDigits hc).2

/-- **MAC normalisation is canonical**: what it returns are the digits of the text in six lower
case pairs, it leaves that as it is, it accepts every spelling, and two texts have the same normal
form exactly if they have the same digits. -/
theorem normalizeMac_canonical (s t : String) :
    (∀ n, normalizeMac s = .ok n → CanonicalMac n ∧ ∃ ps : List (Char × Char), ps.length = 6
        ∧ (∀ c ∈ pairChars ps, c ∈ lowHexChars) ∧ pairChars ps = macDigits s
        ∧ n.toList = [':'].intercalate (ps.map fun p => [p.1, p.2]))
      ∧ (MacSpelling s → ∃ n, normalizeMac s = .ok n)
      ∧ ∀ n m, normalizeMac s = .ok n → normalizeMac t = .ok m →
        (n = m ↔ macDigits s = macDigits t) := by
  refine ⟨fun n h => ⟨normalizeMac_idem h, pairs_of_normalizeMac h⟩, ok_of_macSpelling,
    fun n m hn hm => ?_⟩
  obtain ⟨-, -, rfl⟩ := normalizeMac_eq_ok_iff.mp hn
  obtain ⟨-, -, rfl⟩ := normalizeMac_eq_ok_iff.mp hm
  constructor
  · intro h
    have hlist := congrArg (List.filter isHexDigit) (String.ofList_injective h)
    rwa [filter_colonPairs fun c hc => (mem_macDigits hc).1,
      filter_colonPairs fun c hc => (mem_macDigits hc).1] at hlist
  · intro h
    rw [h]

/-- A spelling with hyphens in upper case and one without separators have the same digits. -/
theorem macDigits_of_spellings : macDigits "C4-E7-AE-1A-C4-74" = macDigits " c4e7ae1ac474" :=
  ((normalizeMac_canonical "C4-E7-AE-1A-C4-74" " c4e7ae1ac474").2.2 "c4:e7:ae:1a:c4:74"
    "c4:e7:ae:1a:c4:74" (by decide) (by decide)).mp rfl

end Merossity
