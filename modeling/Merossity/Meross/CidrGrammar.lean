import Merossity.Lib.Scan
import Merossity.Meross.Cidr

/-!
The texts that `parseCidr` of `meross/lan/ping-sweep.ts` accepts.

* `ReadsInt l z` is the grammar of `Number.parseInt`: blanks, a sign, digits, and whatever follows
  them (`parseInt10_eq_some_iff`).
* `CidrNotation` is the notation `a.b.c.d/p`, and `LooseCidr` what the parser takes for it: the
  parts are read by `Number.parseInt`, and whatever comes after a second slash is left alone
  (`parseCidr_ok_iff`).
* Every text in CIDR notation is a loose one (`CidrNotation.loose`), so `accepts_iff`: the parser
  is right about a text unless it is loose only.
-/

namespace Merossity

open Js Scan

/-! ### Reading an integer -/

/-- What `Number.parseInt` reads: white space, a sign, digits, and a rest that is ignored. -/
def ReadsInt (l : List Char) (z : ℤ) : Prop :=
  ∃ blanks sign digits rest, l = blanks ++ (sign ++ (digits ++ rest))
    ∧ (∀ c ∈ blanks, isSpace c = true) ∧ sign ∈ [[], ['+'], ['-']]
    ∧ digits ≠ [] ∧ (∀ c ∈ digits, c.isDigit = true) ∧ StopsAt Char.isDigit rest
    ∧ z = if sign = ['-'] then -(digitsValue 10 digits : ℤ) else digitsValue 10 digits

/-- Without white space in front, a sign and the digits after it are read. -/
lemma parseInt10_signed {l sign digits rest : List Char} (hsign : sign ∈ [[], ['+'], ['-']])
    (hdigits : ∀ c ∈ digits, c.isDigit = true) (hrest : StopsAt Char.isDigit rest)
    (hhead : sign = [] → digits = [] → rest.head? ≠ some '-' ∧ rest.head? ≠ some '+')
    (hl : l.dropWhile isSpace = sign ++ (digits ++ rest)) :
    parseInt10 (String.ofList l) = if digits = [] then none
      else some (if sign = ['-'] then -(digitsValue 10 digits : ℤ) else digitsValue 10 digits) := by
  have hrun : (digits ++ rest).takeWhile Char.isDigit = digits :=
    takeWhile_append_of_stopsAt hdigits hrest
  rw [parseInt10, String.toList_ofList, hl]
  simp only [List.mem_cons, List.not_mem_nil, or_false] at hsign
  rcases hsign with rfl | rfl | rfl
  · have hne : ∀ r, digits ++ rest ≠ '-' :: r ∧ digits ++ rest ≠ '+' :: r := by
      intro r
      cases digits with
      | nil =>
          obtain ⟨hminus, hplus⟩ := hhead rfl rfl
          exact ⟨fun h => hminus (by rw [← List.nil_append rest, h]; rfl),
            fun h => hplus (by rw [← List.nil_append rest, h]; rfl)⟩
      | cons c digits =>
          obtain ⟨-, hminus, hplus⟩ := isSpace_of_isDigit (hdigits c (by simp))
          exact ⟨fun h => hminus (List.head_eq_of_cons_eq h),
            fun h => hplus (List.head_eq_of_cons_eq h)⟩
    rw [List.nil_append]
    generalize digits ++ rest = body at hrun hne
    split
    next neg ds heq =>
      split at heq
      · exact absurd rfl (hne _).1
      · exact absurd rfl (hne _).2
      · obtain ⟨rfl, rfl⟩ := Prod.mk.inj heq
        rw [hrun]
        rfl
  · simp [hrun]
  · simp [hrun]

/-- A text without white space in front is a sign, a run of digits and a rest. -/
lemma exists_signed (body : List Char) : ∃ sign digits rest, body = sign ++ (digits ++ rest)
    ∧ sign ∈ [[], ['+'], ['-']] ∧ (∀ c ∈ digits, c.isDigit = true) ∧ StopsAt Char.isDigit rest
    ∧ (sign = [] → digits = [] → rest.head? ≠ some '-' ∧ rest.head? ≠ some '+') := by
  by_cases hminus : body.head? = some '-'
  · obtain ⟨r, rfl⟩ := List.head?_eq_some_iff.mp hminus
    obtain ⟨digits, rest, rfl, hdigits, hrest, -⟩ := exists_span Char.isDigit r
    exact ⟨['-'], digits, rest, rfl, by simp, hdigits, hrest, fun h => nomatch h⟩
  by_cases hplus : body.head? = some '+'
  · obtain ⟨r, rfl⟩ := List.head?_eq_some_iff.mp hplus
    obtain ⟨digits, rest, rfl, hdigits, hrest, -⟩ := exists_span Char.isDigit r
    exact ⟨['+'], digits, rest, rfl, by simp, hdigits, hrest, fun h => nomatch h⟩
  obtain ⟨digits, rest, rfl, hdigits, hrest, -⟩ := exists_span Char.isDigit body
  refine ⟨[], digits, rest, rfl, by simp, hdigits, hrest, fun _ hnil => ?_⟩
  subst hnil
  exact ⟨hminus, hplus⟩

/-- `Number.parseInt` reads an integer at the front of a text. -/
lemma parseInt10_eq_some_iff {l : List Char} {z : ℤ} :
    parseInt10 (String.ofList l) = some z ↔ ReadsInt l z := by
  constructor
  · intro h
    obtain ⟨blanks, body, rfl, hblanks, -, -, hdrop⟩ := exists_span isSpace l
    obtain ⟨sign, digits, rest, rfl, hsign, hdigits, hrest, hhead⟩ := exists_signed body
    rw [parseInt10_signed hsign hdigits hrest hhead hdrop] at h
    by_cases hne : digits = []
    · rw [if_pos hne] at h
      cases h
    · rw [if_neg hne] at h
      exact ⟨blanks, sign, digits, rest, rfl, hblanks, hsign, hne, hdigits, hrest,
        (Option.some.inj h).symm⟩
  · rintro ⟨blanks, sign, digits, rest, rfl, hblanks, hsign, hne, hdigits, hrest, rfl⟩
    have hstop : StopsAt isSpace (sign ++ (digits ++ rest)) := by
      simp only [List.mem_cons, List.not_mem_nil, or_false] at hsign
      rcases hsign with rfl | rfl | rfl
      · cases digits with
        | nil => exact absurd rfl hne
        | cons c digits => exact stopsAt_cons.mpr (isSpace_of_isDigit (hdigits c (by simp))).1
      · exact stopsAt_cons.mpr rfl
      · exact stopsAt_cons.mpr rfl
    rw [parseInt10_signed hsign hdigits hrest (fun _ h => absurd h hne)
      (dropWhile_append_of_stopsAt hblanks hstop), if_neg hne]

/-! ### The texts that are accepted -/

/-- The octets of a text, each read as a byte. -/
def ReadsByte (l : List Char) : Prop := ∃ n : ℕ, n ≤ 255 ∧ ReadsInt l n

/-- What `parseCidr` takes for a range: four parts that start with a byte, separated by dots, a
slash, a part that starts with a prefix, and nothing more or another slash and any text. -/
def LooseCidr (s : String) : Prop :=
  ∃ a b c d p more, s.toList = a ++ '.' :: (b ++ '.' :: (c ++ '.' :: (d ++ '/' :: (p ++ more))))
    ∧ (∀ x ∈ [a, b, c, d], ReadsByte x ∧ '.' ∉ x ∧ '/' ∉ x)
    ∧ (∃ n : ℕ, n ≤ 32 ∧ ReadsInt p n) ∧ '/' ∉ p ∧ (more = [] ∨ ∃ rest, more = '/' :: rest)

/-- CIDR notation: four octets of one to three digits, separated by dots, a slash and a prefix. -/
def CidrNotation (s : String) : Prop :=
  ∃ a b c d p, s.toList = a ++ '.' :: (b ++ '.' :: (c ++ '.' :: (d ++ '/' :: p)))
    ∧ (∀ x ∈ [a, b, c, d], x ≠ [] ∧ x.length ≤ 3 ∧ (∀ y ∈ x, y.isDigit = true)
      ∧ digitsValue 10 x ≤ 255)
    ∧ p ≠ [] ∧ (∀ y ∈ p, y.isDigit = true) ∧ digitsValue 10 p ≤ 32

/-- Digits are read. -/
lemma readsInt_digits {l : List Char} (hne : l ≠ []) (hdigits : ∀ c ∈ l, c.isDigit = true) :
    ReadsInt l (digitsValue 10 l : ℕ) :=
  ⟨[], [], l, [], by simp, by simp, by simp, hne, hdigits, stopsAt_nil, by simp⟩

lemma notMem_of_digits {l : List Char} (hdigits : ∀ c ∈ l, c.isDigit = true) {x : Char}
    (hx : x.isDigit = false) : x ∉ l := by
  intro hmem
  rw [hdigits x hmem] at hx
  cases hx

/-- CIDR notation is accepted. -/
lemma CidrNotation.loose {s : String} (h : CidrNotation s) : LooseCidr s := by
  obtain ⟨a, b, c, d, p, hs, hoctets, hne, hp, hpre⟩ := h
  refine ⟨a, b, c, d, p, [], by rw [hs, List.append_nil], fun x hx => ?_,
    ⟨_, hpre, readsInt_digits hne hp⟩, notMem_of_digits hp rfl, .inl rfl⟩
  obtain ⟨hne, -, hdigits, hle⟩ := hoctets x hx
  exact ⟨⟨_, hle, readsInt_digits hne hdigits⟩, notMem_of_digits hdigits rfl,
    notMem_of_digits hdigits rfl⟩

/-! ### What the parser accepts -/

/-- The octets between the dots, each of them a byte. -/
lemma ipToInt_ok_iff {l : List Char} : (∃ w, ipToInt (String.ofList l) = .ok w)
    ↔ ∃ a b c d, l = a ++ '.' :: (b ++ '.' :: (c ++ '.' :: d))
      ∧ ∀ x ∈ [a, b, c, d], ReadsByte x ∧ '.' ∉ x := by
  let byte := fun p : String =>
    (parseInt10 p).bind fun n => if 0 ≤ n ∧ n ≤ 255 then some n.toNat else none
  have hbyte : ∀ x n, byte (String.ofList x) = some n → ReadsByte x := by
    intro x n h
    obtain ⟨z, hz, h⟩ := Option.bind_eq_some_iff.mp h
    split at h
    next hz' =>
      refine ⟨z.toNat, by omega, ?_⟩
      rw [Int.toNat_of_nonneg hz'.1]
      exact parseInt10_eq_some_iff.mp hz
    next => cases h
  have hread : ∀ x, ReadsByte x → ∃ n, byte (String.ofList x) = some n := by
    rintro x ⟨n, hn, hx⟩
    refine ⟨n, Option.bind_eq_some_iff.mpr ⟨n, parseInt10_eq_some_iff.mpr hx, ?_⟩⟩
    rw [if_pos (by omega), Int.toNat_natCast]
  have hoctets : parseOctets (String.ofList l) = ((l.splitOn '.').map String.ofList).mapM byte := by
    rw [parseOctets, splitOn, String.toList_ofList]
  rw [ipToInt, hoctets]
  constructor
  · rintro ⟨w, h⟩
    split at h
    next na nb nc nd hsome =>
      have hmap := map_of_mapM hsome
      rw [List.map_map] at hmap
      simp only [List.map_cons, List.map_nil, List.map_eq_cons_iff, List.map_eq_nil_iff] at hmap
      obtain ⟨a, _, hparts, ha, b, _, rfl, hb, c, _, rfl, hc, d, _, rfl, hd, rfl⟩ := hmap
      obtain ⟨_, rfl, hdota, hparts⟩ := splitOn_eq_cons_iff.mp hparts
      obtain ⟨_, rfl, hdotb, hparts⟩ := splitOn_eq_cons_iff.mp hparts
      obtain ⟨_, rfl, hdotc, hparts⟩ := splitOn_eq_cons_iff.mp hparts
      obtain ⟨rfl, hdotd⟩ := splitOn_eq_singleton_iff.mp hparts
      refine ⟨a, b, c, _, rfl, ?_⟩
      simp only [List.forall_mem_cons]
      exact ⟨⟨hbyte a na ha, hdota⟩, ⟨hbyte b nb hb, hdotb⟩, ⟨hbyte c nc hc, hdotc⟩,
        ⟨hbyte _ nd hd, hdotd⟩, List.forall_mem_nil _⟩
    next => cases h
  · rintro ⟨a, b, c, d, rfl, hall⟩
    simp only [List.forall_mem_cons] at hall
    obtain ⟨⟨ha, hdota⟩, ⟨hb, hdotb⟩, ⟨hc, hdotc⟩, ⟨hd, hdotd⟩, -⟩ := hall
    obtain ⟨na, hna⟩ := hread a ha
    obtain ⟨nb, hnb⟩ := hread b hb
    obtain ⟨nc, hnc⟩ := hread c hc
    obtain ⟨nd, hnd⟩ := hread d hd
    rw [List.splitOn_append_cons_self_of_not_mem hdota,
      List.splitOn_append_cons_self_of_not_mem hdotb,
      List.splitOn_append_cons_self_of_not_mem hdotc, List.splitOn_eq_singleton hdotd]
    have hsome : ([a, b, c, d].map String.ofList).mapM byte = some [na, nb, nc, nd] := by
      simp only [List.map_cons, List.map_nil, List.mapM_cons, List.mapM_nil, hna, hnb, hnc, hnd]
      rfl
    rw [hsome]
    exact ⟨_, rfl⟩

/-- The two parts of a range that are looked at. -/
lemma parseCidr_parts {s : String} {ip p more : List Char}
    (hs : s.toList = ip ++ '/' :: (p ++ more)) (hip : '/' ∉ ip) (hp : '/' ∉ p)
    (hmore : more = [] ∨ ∃ rest, more = '/' :: rest) :
    (∃ c, parseCidr s = .ok c) ↔ ip ≠ [] ∧ (∃ w, ipToInt (String.ofList ip) = .ok w)
      ∧ ∃ n : ℕ, n ≤ 32 ∧ ReadsInt p n := by
  obtain ⟨parts, hparts⟩ : ∃ parts, (p ++ more).splitOn '/' = p :: parts := by
    rcases hmore with rfl | ⟨rest, rfl⟩
    · exact ⟨[], by rw [List.append_nil, List.splitOn_eq_singleton hp]⟩
    · exact ⟨_, List.splitOn_append_cons_self_of_not_mem hp rest⟩
  have hsplit : splitOn s '/' = String.ofList ip :: String.ofList p :: parts.map String.ofList := by
    rw [splitOn, hs, List.splitOn_append_cons_self_of_not_mem hip, hparts]
    rfl
  have hempty : String.ofList ip = "" ↔ ip = [] := by
    rw [← String.toList_inj, String.toList_ofList]
    rfl
  cases hz : parseInt10 (String.ofList p) with
  | none =>
      have herror : parseCidr s = .error s!"Invalid CIDR: {s}" := by
        rw [parseCidr, hsplit]
        simp only [List.getElem?_cons_succ, List.getElem?_cons_zero, Option.getD_some, hz]
      refine iff_of_false (by simp [herror]) ?_
      rintro ⟨-, -, n, -, hread⟩
      rw [parseInt10_eq_some_iff.mpr hread] at hz
      cases hz
  | some z =>
      obtain ⟨range, hdef⟩ : ∃ range : BitVec 32 → Cidr, parseCidr s =
          if String.ofList ip = "" ∨ z < 0 ∨ 32 < z then .error s!"Invalid CIDR: {s}"
          else (ipToInt (String.ofList ip)).map range := by
        rw [parseCidr, hsplit]
        simp only [List.getElem?_cons_succ, List.getElem?_cons_zero, Option.getD_some, hz]
        exact ⟨_, rfl⟩
      rw [hdef]
      split_ifs with hbad
      · refine iff_of_false (by simp) ?_
        rintro ⟨hne, -, n, hn, hread⟩
        have hzn : z = n := Option.some.inj (hz.symm.trans (parseInt10_eq_some_iff.mpr hread))
        rcases hbad with hip | hneg | hlarge
        · exact hne (hempty.mp hip)
        · omega
        · omega
      · simp only [hempty, not_or, not_lt] at hbad
        have hread : ReadsInt p z.toNat := by
          rw [Int.toNat_of_nonneg hbad.2.1]
          exact parseInt10_eq_some_iff.mp hz
        rw [ok_map_iff]
        exact ⟨fun hw => ⟨hbad.1, hw, z.toNat, by omega, hread⟩, fun h => h.2.1⟩

/-- **The parser accepts** the loose ranges. -/
lemma parseCidr_ok_iff {s : String} : (∃ c, parseCidr s = .ok c) ↔ LooseCidr s := by
  constructor
  · intro h
    rcases splitOn_cases '/' s.toList with ⟨-, hsplit⟩ | ⟨ip, rest, hs, hip, -⟩
    · -- without a slash there is no prefix
      obtain ⟨c, h⟩ := h
      have hnone : parseInt10 "" = none := rfl
      rw [parseCidr, splitOn, hsplit] at h
      simp only [List.map_cons, List.map_nil, List.getElem?_cons_succ, List.getElem?_nil,
        Option.getD_none, hnone] at h
      cases h
    · obtain ⟨p, more, -, rfl, hp, hmore, -⟩ := exists_splitOn_cons '/' rest
      obtain ⟨-, hw, hread⟩ := (parseCidr_parts hs hip hp hmore).mp h
      obtain ⟨a, b, c, d, rfl, hall⟩ := ipToInt_ok_iff.mp hw
      refine ⟨a, b, c, d, p, more, by simp [hs], fun x hx => ?_, hread, hp, hmore⟩
      obtain ⟨hbyte, hdot⟩ := hall x hx
      refine ⟨hbyte, hdot, fun hslash => hip ?_⟩
      simp only [List.mem_cons, List.not_mem_nil, or_false] at hx
      rcases hx with rfl | rfl | rfl | rfl <;> simp [hslash]
  · rintro ⟨a, b, c, d, p, more, hs, hall, hread, hp, hmore⟩
    have hslash : '/' ∉ a ++ '.' :: (b ++ '.' :: (c ++ '.' :: d)) := by
      simp only [List.forall_mem_cons] at hall
      simp [hall.1.2.2, hall.2.1.2.2, hall.2.2.1.2.2, hall.2.2.2.1.2.2]
    have hs' : s.toList = (a ++ '.' :: (b ++ '.' :: (c ++ '.' :: d))) ++ '/' :: (p ++ more) := by
      simp [hs]
    refine (parseCidr_parts hs' hslash hp hmore).mpr ⟨by simp, ?_, hread⟩
    exact ipToInt_ok_iff.mpr ⟨a, b, c, d, rfl, fun x hx => ⟨(hall x hx).1, (hall x hx).2.1⟩⟩

/-- The parser is right about a text: it accepts exactly CIDR notation. -/
def Accepts (s : String) : Prop := (∃ c, parseCidr s = .ok c) ↔ CidrNotation s

/-- **The parser is right** about a text exactly if the text is in CIDR notation or is not even a
loose range. -/
theorem accepts_iff (s : String) : Accepts s ↔ CidrNotation s ∨ ¬LooseCidr s := by
  rw [Accepts, parseCidr_ok_iff]
  constructor
  · intro h
    by_cases hloose : LooseCidr s
    · exact .inl (h.mp hloose)
    · exact .inr hloose
  · rintro (h | h)
    · exact iff_of_true h.loose h
    · exact iff_of_false h fun hs => h hs.loose

lemma CidrNotation.mem {s : String} (h : CidrNotation s) :
    ∀ y ∈ s.toList, y.isDigit = true ∨ y = '.' ∨ y = '/' := by
  obtain ⟨a, b, c, d, p, hs, hoctets, -, hp, -⟩ := h
  intro y hy
  simp only [hs, List.mem_append, List.mem_cons] at hy
  rcases hy with hy | rfl | hy | rfl | hy | rfl | hy | rfl | hy
  · exact .inl ((hoctets a (by simp)).2.2.1 y hy)
  · exact .inr (.inl rfl)
  · exact .inl ((hoctets b (by simp)).2.2.1 y hy)
  · exact .inr (.inl rfl)
  · exact .inl ((hoctets c (by simp)).2.2.1 y hy)
  · exact .inr (.inl rfl)
  · exact .inl ((hoctets d (by simp)).2.2.1 y hy)
  · exact .inr (.inr rfl)
  · exact .inl (hp y hy)

/-- A letter after the last octet is read over. -/
theorem not_accepts_letter : ¬Accepts "10.0.0.1x/24" := by
  intro h
  have hx := (h.mp ⟨_, rfl⟩).mem 'x' (by simp)
  revert hx
  decide

end Merossity
