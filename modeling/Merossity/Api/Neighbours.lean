import Merossity.Api.ConfigHandlers
import Merossity.Lib.FirstHit
import Merossity.Lib.Scan
import Merossity.Meross.Mac

/-!
The neighbour tables, and the address that `resolveIpv4FromMac` finds in them.

* `Neighbour.Takes` is what the loops read in a line, and `Neighbour.Binds` says that a line of the
  documented form binds an address to a MAC address, whose octets it may print with one digit.
* `takes_of_padded`: a line that prints all octets with two digits is read right.
* **`findsBound_iff`**: the address of the first line that binds one is found exactly if no line is
  overlooked or mistaken before it, except that another one makes up for it.
-/

namespace Merossity

open Js Scan

/-! ### What the loops read -/

/-- A line of `arp -a`, or of `ip neigh`. -/
inductive Neighbour where
  | arp (line : String)
  | neigh (line : String)

/-- What the body of the loop returns for a line: a line of `arp -a` is taken if the MAC address
occurs anywhere in it, with the first address in parentheses. -/
def Neighbour.hit (target : String) : Neighbour → Option String
  | arp line => if includes (toLowerCase line) target then arpAddress line.toList else none
  | neigh line =>
      if findLinkAddress none (toLowerCase line).toList = some target then
        neighAddress (toLowerCase line).toList
      else none

lemma findInArp_eq (target : String) (lines : List String) :
    findInArp target lines = (lines.map Neighbour.arp).findSome? (Neighbour.hit target) := by
  induction lines with
  | nil => rfl
  | cons line lines ih =>
      rw [findInArp, List.map_cons, List.findSome?_cons, ih, Neighbour.hit]
      cases (if includes (toLowerCase line) target then arpAddress line.toList else none) <;> rfl

lemma findInNeigh_eq (target : String) (lines : List String) :
    findInNeigh target lines = (lines.map Neighbour.neigh).findSome? (Neighbour.hit target) := by
  induction lines with
  | nil => rfl
  | cons line lines ih =>
      rw [findInNeigh, List.map_cons, List.findSome?_cons, ih, Neighbour.hit]
      cases (if findLinkAddress none (toLowerCase line).toList = some target then
        neighAddress (toLowerCase line).toList else none) <;> rfl

/-- The lines of the two tables, as the surroundings give them. -/
def neighbours (env : Environment) : List Neighbour :=
  let arpOut := env [] (.runCmd ["arp", "-a"])
  let neighOut := env [⟨.runCmd ["arp", "-a"], arpOut⟩] (.runCmd ["ip", "neigh"])
  (splitOn arpOut '\n').map .arp ++ (splitOn neighOut '\n').map .neigh

/-- The address that is found is that of the first line that is taken. -/
lemma run_resolveIpv4FromMac (env : Environment) {mac target : String}
    (h : normalizeMac mac = .ok target) : (Prog.run env (resolveIpv4FromMac mac).run).1
      = .ok ((neighbours env).findSome? (Neighbour.hit target)) := by
  have htarget : Prog.exec (Prog.recording env) (eval (.ok target : Except String String)).run []
      = (.ok target, []) := rfl
  have harp : Prog.exec (Prog.recording env) (call (.runCmd ["arp", "-a"])).run []
      = (.ok (env [] (.runCmd ["arp", "-a"])),
        [⟨.runCmd ["arp", "-a"], env [] (.runCmd ["arp", "-a"])⟩]) := rfl
  rw [neighbours, List.findSome?_append, ← findInArp_eq, ← findInNeigh_eq, resolveIpv4FromMac, h,
    Prog.run, Prog.exec_bind_of_ok htarget, Prog.exec_bind_of_ok harp]
  cases findInArp target (splitOn (env [] (.runCmd ["arp", "-a"])) '\n') <;> rfl

/-! ### Lines that bind an address -/

/-- An IPv4 address: four octets of one to three digits. -/
def Ipv4 (l : List Char) : Prop :=
  ∃ a b c d, l = a ++ '.' :: (b ++ '.' :: (c ++ '.' :: d))
    ∧ ∀ x ∈ [a, b, c, d], x ≠ [] ∧ x.length ≤ 3 ∧ (∀ y ∈ x, y.isDigit = true)
      ∧ digitsValue 10 x ≤ 255

/-- The values of digits in pairs. -/
def pairValues : List Char → List ℕ
  | a :: b :: l => digitsValue 16 [a, b] :: pairValues l
  | _ => []

/-- The octets of a hardware address, of one or two digits each. -/
def Octets (os : List (List Char)) : Prop :=
  ∀ o ∈ os, (o.length = 1 ∨ o.length = 2) ∧ ∀ c ∈ o, isHexDigit c = true

/-- The octets are those of the MAC address, as numbers. -/
def SameOctets (mac : String) (os : List (List Char)) : Prop :=
  Octets os ∧ os.map (digitsValue 16) = pairValues (macDigits mac)

/-- The line ends there, or a blank follows. -/
def Ends (rest : List Char) : Prop := rest = [] ∨ ∃ more, rest = ' ' :: more

/-- The text stands in one word. -/
def Word (l : List Char) : Prop := ∀ c ∈ l, isSpace c = false ∧ c ≠ '('

/-- The line has the documented form, with an address and a hardware address of these octets: that
is `name (address) at octets`, or `address dev name lladdr octets`, and then anything. -/
inductive Neighbour.Has : Neighbour → String → List (List Char) → Prop
  | arp {line ip : String} {name rest : List Char} {os : List (List Char)} :
      line.toList = name ++ (" (".toList ++ (ip.toList ++ (") at ".toList
        ++ ([':'].intercalate os ++ rest)))) → Word name → Ipv4 ip.toList → Ends rest →
      Has (.arp line) ip os
  | neigh {line ip : String} {dev rest : List Char} {os : List (List Char)} :
      line.toList = ip.toList ++ (" dev ".toList ++ (dev ++ (" lladdr ".toList
        ++ ([':'].intercalate os ++ rest)))) → Word dev → Ipv4 ip.toList → Ends rest →
      Has (.neigh line) ip os

/-- The line binds the address to the MAC address. -/
def Neighbour.Binds (mac : String) (n : Neighbour) (ip : String) : Prop :=
  ∃ os, n.Has ip os ∧ SameOctets mac os

/-! ### Reading the documented forms -/

/-- The address is read off, if no digit follows. -/
lemma readAddress_append {ip : String} {rest : List Char} (hip : Ipv4 ip.toList)
    (hrest : StopsAt Char.isDigit rest) : readAddress (ip.toList ++ rest) = some (ip, rest) := by
  obtain ⟨a, b, c, d, hl, hall⟩ := hip
  have hdigits : ∀ x ∈ [a, b, c, d], (∀ y ∈ x, y.isDigit = true) ∧ ∃ y ys, x = y :: ys :=
    fun x hx => ⟨(hall x hx).2.2.1, List.exists_cons_of_ne_nil (hall x hx).1⟩
  simp only [List.forall_mem_cons] at hdigits
  obtain ⟨⟨ha, a₀, as, hae⟩, ⟨hb, b₀, bs, hbe⟩, ⟨hc, c₀, cs, hce⟩, ⟨hd, d₀, ds, hde⟩, -⟩ := hdigits
  have hdot : ∀ l : List Char, StopsAt Char.isDigit ('.' :: l) := fun l =>
    stopsAt_cons.mpr rfl
  have happend : (a ++ '.' :: (b ++ '.' :: (c ++ '.' :: d))) ++ rest
      = a ++ '.' :: (b ++ '.' :: (c ++ '.' :: (d ++ rest))) := by simp
  have hip : some (ip, rest)
      = some (String.ofList (a ++ '.' :: b ++ '.' :: c ++ '.' :: d), rest) := by
    rw [← String.ofList_toList (s := ip), hl]
    simp
  rw [hl, happend, readAddress, hip, takeWhile_append_of_stopsAt ha (hdot _),
    dropWhile_append_of_stopsAt ha (hdot _)]
  split
  · next l hl' =>
      cases hl'
      rw [takeWhile_append_of_stopsAt hb (hdot _), dropWhile_append_of_stopsAt hb (hdot _)]
      split
      · next l hl' =>
          cases hl'
          rw [takeWhile_append_of_stopsAt hc (hdot _), dropWhile_append_of_stopsAt hc (hdot _)]
          split
          · next l hl' =>
              cases hl'
              rw [takeWhile_append_of_stopsAt hd hrest, dropWhile_append_of_stopsAt hd hrest, hde]
          · next hnot => exact absurd rfl (hnot c₀ cs _ hce)
      · next hnot => exact absurd rfl (hnot b₀ bs _ hbe)
  · next hnot => exact absurd rfl (hnot a₀ as _ hae)

/-- The first address in parentheses is found behind a name. -/
lemma arpAddress_append {ip : String} {name more : List Char} (hname : Word name)
    (hip : Ipv4 ip.toList) :
    arpAddress (name ++ ' ' :: '(' :: (ip.toList ++ ')' :: more)) = some ip := by
  have hopen : arpAddress ('(' :: (ip.toList ++ ')' :: more)) = some ip := by
    rw [arpAddress, if_pos rfl, readAddress_append hip (stopsAt_cons.mpr rfl)]
    rfl
  induction name with
  | nil => rw [List.nil_append, arpAddress, if_neg (by decide)]; exact hopen
  | cons c name ih =>
      obtain ⟨⟨-, hc⟩, hname⟩ := List.forall_mem_cons.mp hname
      rw [List.cons_append, arpAddress, if_neg hc]
      exact ih hname

/-- A line of `arp -a` that has the documented form is taken if the MAC address occurs in it. -/
lemma hit_of_has_arp {target line ip : String} {os : List (List Char)}
    (h : (Neighbour.arp line).Has ip os) : Neighbour.hit target (.arp line)
      = if includes (toLowerCase line) target then some ip else none := by
  cases h with
  | arp hline hname hip _ =>
      rw [Neighbour.hit, hline]
      exact congrArg (fun o => if includes (toLowerCase line) target then o else none)
        (arpAddress_append hname hip)

/-- The MAC address is looked for in the whole line, and so a longer hardware address is taken. -/
example : (Neighbour.arp "? (10.0.0.9) at 00:c4:e7:ae:01:c4:74 on en0").hit "c4:e7:ae:01:c4:74"
    = some "10.0.0.9" := by decide

/-! ### Octets of two digits -/

/-- All octets have two digits. -/
def Padded (os : List (List Char)) : Prop := ∀ o ∈ os, o.length = 2

/-- The value of a digit. -/
def digitValue (c : Char) : ℕ := if c.isDigit then c.toNat - 48 else c.toLower.toNat - 87

lemma digitsValue_pair (a b : Char) : digitsValue 16 [a, b] = digitValue a * 16 + digitValue b := by
  simp [digitsValue, digitValue]

lemma digitValue_toLower (c : Char) : digitValue c.toLower = digitValue c := by
  have hupper : ∀ d ∈ upperChars, digitValue d.toLower = digitValue d := by decide
  rcases toLower_cases c with hc | hc
  · exact hupper c hc
  · rw [hc]

/-- Two digits are known by their value, apart from their case. -/
lemma toLower_of_digitsValue {a b x y : Char} (ha : isHexDigit a = true) (hb : isHexDigit b = true)
    (hx : x ∈ lowHexChars) (hy : y ∈ lowHexChars)
    (h : digitsValue 16 [a, b] = digitsValue 16 [x, y]) : a.toLower = x ∧ b.toLower = y := by
  have hlt : ∀ c ∈ lowHexChars, digitValue c < 16 := by decide
  have hinj : ∀ c ∈ lowHexChars, ∀ d ∈ lowHexChars, digitValue c = digitValue d → c = d := by
    decide
  have ha' := toLower_mem_lowHexChars ha
  have hb' := toLower_mem_lowHexChars hb
  rw [digitsValue_pair, digitsValue_pair, ← digitValue_toLower a, ← digitValue_toLower b] at h
  have hlta := hlt _ ha'
  have hltb := hlt _ hb'
  have hltx := hlt _ hx
  have hlty := hlt _ hy
  exact ⟨hinj _ ha' _ hx (by omega), hinj _ hb' _ hy (by omega)⟩

/-- In lower case, octets of two digits are the pairs that have their values. -/
lemma lower_octets {os : List (List Char)} : ∀ {ps : List (Char × Char)}, Octets os → Padded os →
    (∀ c ∈ pairChars ps, c ∈ lowHexChars) → os.map (digitsValue 16) = pairValues (pairChars ps) →
    os.map (List.map Char.toLower) = ps.map fun p => [p.1, p.2] := by
  induction os with
  | nil =>
      intro ps _ _ _ h
      cases ps with
      | nil => rfl
      | cons p ps => cases h
  | cons o os ih =>
      intro ps hoctets hpadded hlow h
      obtain ⟨⟨-, hhex⟩, hoctets'⟩ := List.forall_mem_cons.mp hoctets
      obtain ⟨hlen, hpadded'⟩ := List.forall_mem_cons.mp hpadded
      obtain ⟨a, b, rfl⟩ := List.length_eq_two.mp hlen
      cases ps with
      | nil => cases h
      | cons p ps =>
          obtain ⟨hvalue, hrest⟩ := List.cons.inj h
          obtain ⟨ha, hb⟩ := toLower_of_digitsValue (hhex a (by simp)) (hhex b (by simp))
            (hlow p.1 (by simp [pairChars])) (hlow p.2 (by simp [pairChars])) hvalue
          have hlow' : ∀ c ∈ pairChars ps, c ∈ lowHexChars := fun c hc =>
            hlow c (List.mem_append_right _ hc)
          rw [List.map_cons, List.map_cons, ih hoctets' hpadded' hlow' hrest]
          simp [ha, hb]

lemma map_intercalate {α β : Type} (f : α → β) (c : α) (ls : List (List α)) :
    ([c].intercalate ls).map f = [f c].intercalate (ls.map (List.map f)) := by
  induction ls with
  | nil => rfl
  | cons l ls ih =>
      cases ls with
      | nil => simp [List.intercalate_singleton]
      | cons l' ls =>
          rw [List.intercalate_cons_cons, List.map_append, List.map_append, ih]
          simp [List.intercalate_cons_cons]

lemma mem_or_eq_of_mem_intercalate {α : Type} {c x : α} {ls : List (List α)}
    (h : x ∈ [c].intercalate ls) : (∃ l ∈ ls, x ∈ l) ∨ x = c := by
  induction ls with
  | nil => cases h
  | cons l ls ih =>
      cases ls with
      | nil =>
          rw [List.intercalate_singleton] at h
          exact .inl ⟨l, List.mem_cons_self, h⟩
      | cons l' ls =>
          rw [List.intercalate_cons_cons, List.mem_append, List.mem_append] at h
          rcases h with (h | h) | h
          · exact .inl ⟨l, List.mem_cons_self, h⟩
          · exact .inr (List.mem_singleton.mp h)
          · rcases ih h with ⟨k, hk, hx⟩ | hx
            · exact .inl ⟨k, List.mem_cons_of_mem l hk, hx⟩
            · exact .inr hx

/-! ### Lower case -/

/-- The characters of a text in lower case. -/
def lowChars (l : List Char) : List Char :=
  l.flatMap fun c => if c = '\u212a' then ['k'] else if c = '\u0130' then ['i', '\u0307']
    else [c.toLower]

lemma toList_toLowerCase (s : String) : (toLowerCase s).toList = lowChars s.toList :=
  String.toList_ofList

@[simp] lemma lowChars_append (l l' : List Char) :
    lowChars (l ++ l') = lowChars l ++ lowChars l' := List.flatMap_append

/-- Hexadecimal digits and colons. -/
lemma lowChars_of_hex {l : List Char} (h : ∀ c ∈ l, isHexDigit c = true ∨ c = ':') :
    lowChars l = l.map Char.toLower := by
  rw [List.map_eq_flatMap]
  refine List.flatMap_congr fun c hc => ?_
  rcases h c hc with hhex | rfl
  · have hk : c ≠ '\u212a' := fun hk => by subst hk; cases hhex
    have hi : c ≠ '\u0130' := fun hi => by subst hi; cases hhex
    rw [if_neg hk, if_neg hi]
  · rfl

/-- Decimal digits and dots stay as they are. -/
lemma lowChars_of_address {l : List Char} (h : ∀ c ∈ l, c.isDigit = true ∨ c = '.') :
    lowChars l = l := by
  have hupper : ∀ d ∈ upperChars, d.isDigit = false := by decide
  conv_rhs => rw [← List.map_id l, List.map_eq_flatMap]
  refine List.flatMap_congr fun c hc => ?_
  rcases h c hc with hdigit | rfl
  · have hk : c ≠ '\u212a' := fun hk => by subst hk; cases hdigit
    have hi : c ≠ '\u0130' := fun hi => by subst hi; cases hdigit
    have hsame : c.toLower = c := (toLower_cases c).resolve_left fun hup => by
      rw [hupper c hup] at hdigit
      cases hdigit
    rw [if_neg hk, if_neg hi, hsame]
    rfl
  · rfl

/-- White space is not made. -/
lemma lowChars_word {l : List Char} (h : Word l) : ∀ c ∈ lowChars l, isSpace c = false := by
  intro c hc
  obtain ⟨d, hd, hc⟩ := List.mem_flatMap.mp hc
  have hupper : ∀ e ∈ upperChars, isSpace e.toLower = false := by decide
  split_ifs at hc
  · obtain rfl := List.mem_singleton.mp hc
    rfl
  · rcases List.mem_pair.mp hc with rfl | rfl <;> rfl
  · obtain rfl := List.mem_singleton.mp hc
    rcases toLower_cases d with hup | hsame
    · exact hupper d hup
    · rw [hsame]
      exact (h d hd).1

/-- The octets in lower case are the MAC address, if they are printed with two digits. -/
lemma lowChars_octets {mac target : String} {os : List (List Char)}
    (h : normalizeMac mac = .ok target) (hsame : SameOctets mac os) (hpadded : Padded os) :
    lowChars ([':'].intercalate os) = target.toList := by
  obtain ⟨ps, -, hlow, hps, htarget⟩ := pairs_of_normalizeMac h
  obtain ⟨hoctets, hvalues⟩ := hsame
  rw [← hps] at hvalues
  have hhex : ∀ c ∈ [':'].intercalate os, isHexDigit c = true ∨ c = ':' := by
    intro c hc
    rcases mem_or_eq_of_mem_intercalate hc with ⟨o, ho, hco⟩ | hcolon
    · exact .inl ((hoctets o ho).2 c hco)
    · exact .inr hcolon
  rw [lowChars_of_hex hhex, map_intercalate, lower_octets hoctets hpadded hlow hvalues, htarget]
  rfl

/-! ### Lines with octets of two digits -/

/-- The characters of a normalised MAC address. -/
lemma target_spec {mac target : String} (h : normalizeMac mac = .ok target) :
    target.toList.length = 17 ∧ (∀ c ∈ target.toList, c ∈ macChars)
      ∧ ∃ init last, target.toList = init ++ [last] ∧ last ∈ lowHexChars := by
  obtain ⟨ps, hlen, hlow, -, htarget⟩ := pairs_of_normalizeMac h
  have hchars : ∀ c ∈ lowHexChars, c ∈ macChars := by decide
  rw [htarget]
  refine ⟨?_, fun c hc => ?_, ?_⟩
  · match ps, hlen with
    | [p₁, p₂, p₃, p₄, p₅, p₆], _ => rfl
  · rcases mem_or_eq_of_mem_intercalate hc with ⟨o, ho, hco⟩ | rfl
    · obtain ⟨p, hp, rfl⟩ := List.mem_map.mp ho
      exact hchars c (hlow c (List.mem_flatMap.mpr ⟨p, hp, hco⟩))
    · decide
  · match ps, hlen, hlow with
    | [p₁, p₂, p₃, p₄, p₅, p₆], _, hlow =>
        exact ⟨[p₁.1, p₁.2, ':', p₂.1, p₂.2, ':', p₃.1, p₃.2, ':', p₄.1, p₄.2, ':', p₅.1, p₅.2,
          ':', p₆.1], p₆.2, rfl, hlow p₆.2 (by simp [pairChars])⟩

/-- What stands after `lladdr` is found, if it is a whole MAC address. -/
lemma linkAddress_lladdr {mac target : String} {rest : List Char}
    (h : normalizeMac mac = .ok target) (hrest : Ends rest) :
    linkAddress ("lladdr ".toList ++ (target.toList ++ rest)) = some target := by
  obtain ⟨hlen, hchars, init, last, hlast, hlow⟩ := target_spec h
  have hclass : target.toList.all (fun c => c.isDigit || ('a' ≤ c && c ≤ 'f') || c = ':') := by
    have hmac : ∀ c ∈ macChars, (c.isDigit || ('a' ≤ c && c ≤ 'f') || c = ':') = true := by decide
    exact List.all_eq_true.mpr fun c hc => hmac c (hchars c hc)
  have hdrop : (' ' :: (target.toList ++ rest)).dropWhile isSpace = target.toList ++ rest := by
    refine dropWhile_append_of_stopsAt (l := [' ']) (by decide) ?_
    cases htarget : target.toList with
    | nil => simp [htarget] at hlen
    | cons c cs =>
        exact stopsAt_cons.mpr (plain_of_mem_macChars c (hchars c (by simp [htarget]))).1
  have hend : (rest.head?.map isWord).getD false = false := by
    rcases hrest with rfl | ⟨more, rfl⟩ <;> rfl
  have hword : (target.toList.getLast?.map isWord).getD false = true := by
    have hlowWord : ∀ c ∈ lowHexChars, isWord c = true := by decide
    rw [hlast, List.getLast?_concat]
    exact hlowWord last hlow
  change linkAddress ('l' :: 'l' :: 'a' :: 'd' :: 'd' :: 'r' :: ' ' :: (target.toList ++ rest)) = _
  rw [linkAddress, hdrop, List.take_left' hlen, List.drop_left' hlen, hend, hword, hlen, hclass,
    String.ofList_toList]
  rfl

/-- What is found stands after `lladdr` and white space, and has no `l` in it. -/
lemma linkAddress_eq_some {l : List Char} {mac : String} (h : linkAddress l = some mac) :
    ∃ rest, l = "lladdr".toList ++ rest ∧ StopsAt (fun c => !isSpace c) rest
      ∧ ∀ c ∈ (rest.dropWhile isSpace).take 17, c ≠ 'l' := by
  unfold linkAddress at h
  split at h
  · next rest =>
      dsimp only at h
      split_ifs at h with hcond
      simp only [Bool.and_eq_true] at hcond
      obtain ⟨⟨⟨hhead, -⟩, -⟩, hall⟩ := hcond
      refine ⟨rest, rfl, fun c hc => ?_, fun c hc hl => ?_⟩
      · rw [Option.mem_def.mp hc] at hhead
        exact congrArg not hhead
      · subst hl
        exact Bool.false_ne_true (List.all_eq_true.mp hall 'l' hc)
  · cases h

/-- A word before `lladdr` is passed over, even if it is `lladdr`. -/
lemma findLinkAddress_word {dev more : List Char} (hdev : ∀ c ∈ dev, isSpace c = false) :
    ∀ prev, findLinkAddress prev (dev ++ (" lladdr ".toList ++ more))
      = findLinkAddress (some ' ') ("lladdr ".toList ++ more) := by
  have hword : ∀ w : List Char, (∀ c ∈ w, isSpace c = false) →
      linkAddress (w ++ (" lladdr ".toList ++ more)) = none := by
    intro w hw
    by_contra hne
    obtain ⟨mac, hmac⟩ := Option.ne_none_iff_exists'.mp hne
    obtain ⟨rest, heq, hrest, hclass⟩ := linkAddress_eq_some hmac
    -- the first word of the text is `w`, and it is `lladdr`
    have hblank : StopsAt (fun c => !isSpace c) (" lladdr ".toList ++ more) := by
      change StopsAt (fun c => !isSpace c) (' ' :: ("lladdr ".toList ++ more))
      exact stopsAt_cons.mpr rfl
    have hw' : w = "lladdr".toList := by
      have htake := congrArg (List.takeWhile fun c => !isSpace c) heq
      rwa [takeWhile_append_of_stopsAt (fun c hc => congrArg not (hw c hc)) hblank,
        takeWhile_append_of_stopsAt (by decide) hrest] at htake
    rw [hw'] at heq
    rw [← List.append_cancel_left heq] at hclass
    exact hclass 'l' (by simp [isSpace]) rfl
  induction dev with
  | nil =>
      intro prev
      have hnone : linkAddress (' ' :: ("lladdr ".toList ++ more)) = none :=
        hword [] (List.forall_mem_nil _)
      change findLinkAddress prev (' ' :: ("lladdr ".toList ++ more)) = _
      rw [findLinkAddress, hnone, ite_self]
  | cons c dev ih =>
      intro prev
      have hnone := hword (c :: dev) hdev
      rw [List.cons_append] at hnone ⊢
      rw [findLinkAddress, hnone, ite_self]
      exact ih (List.forall_mem_cons.mp hdev).2 (some c)

/-- What has no `l` is passed over. -/
lemma findLinkAddress_append {front : List Char} (more : List Char)
    (hfront : ∀ c ∈ front, c ≠ 'l') :
    ∀ prev, ∃ prev', findLinkAddress prev (front ++ more) = findLinkAddress prev' more := by
  induction front with
  | nil => exact fun prev => ⟨prev, rfl⟩
  | cons c front ih =>
      obtain ⟨hc, hfront⟩ := List.forall_mem_cons.mp hfront
      intro prev
      obtain ⟨prev', hprev⟩ := ih hfront (some c)
      refine ⟨prev', ?_⟩
      have hnone : linkAddress (c :: (front ++ more)) = none := by
        rw [linkAddress]
        exact fun rest heq => hc (List.cons.inj heq).1
      rw [List.cons_append, findLinkAddress, hnone, ite_self]
      exact hprev

lemma mem_of_ipv4 {l : List Char} (h : Ipv4 l) : ∀ c ∈ l, c.isDigit = true ∨ c = '.' := by
  obtain ⟨a, b, c, d, rfl, hall⟩ := h
  simp only [List.forall_mem_cons] at hall
  obtain ⟨⟨-, -, ha, -⟩, ⟨-, -, hb, -⟩, ⟨-, -, hc, -⟩, ⟨-, -, hd, -⟩, -⟩ := hall
  intro x hx
  simp only [List.mem_append, List.mem_cons] at hx
  rcases hx with hx | rfl | hx | rfl | hx | rfl | hx
  · exact .inl (ha x hx)
  · exact .inr rfl
  · exact .inl (hb x hx)
  · exact .inr rfl
  · exact .inl (hc x hx)
  · exact .inr rfl
  · exact .inl (hd x hx)

lemma ends_lowChars {rest : List Char} (h : Ends rest) : Ends (lowChars rest) := by
  rcases h with rfl | ⟨more, rfl⟩
  · exact .inl rfl
  · exact .inr ⟨lowChars more, rfl⟩

/-- **A line whose octets have two digits is read right**, in either of the tables. -/
theorem takes_of_padded {mac target ip : String} {n : Neighbour} {os : List (List Char)}
    (h : normalizeMac mac = .ok target) (hhas : n.Has ip os) (hsame : SameOctets mac os)
    (hpadded : Padded os) : n.hit target = some ip := by
  have hoctets := lowChars_octets h hsame hpadded
  cases hhas with
  | @arp line ip name rest os hline hname hip hrest =>
      rw [hit_of_has_arp (.arp hline hname hip hrest), if_pos]
      refine decide_eq_true ?_
      rw [toList_toLowerCase, hline]
      simp only [lowChars_append, hoctets]
      exact ⟨lowChars name ++ (lowChars " (".toList ++ (lowChars ip.toList
        ++ lowChars ") at ".toList)), lowChars rest, by simp⟩
  | @neigh line ip dev rest os hline hdev hip hrest =>
      have hlow : (toLowerCase line).toList = ip.toList ++ (" dev ".toList ++ (lowChars dev
          ++ (" lladdr ".toList ++ (target.toList ++ lowChars rest)))) := by
        rw [toList_toLowerCase, hline]
        simp only [lowChars_append, hoctets, lowChars_of_address (mem_of_ipv4 hip)]
        rfl
      have hno : ∀ c ∈ ip.toList ++ " dev ".toList, c ≠ 'l' := by
        intro c hc
        rcases List.mem_append.mp hc with hc | hc
        · rintro rfl
          rcases mem_of_ipv4 hip _ hc with hdigit | hdot
          · cases hdigit
          · cases hdot
        · have hdev : ∀ c ∈ " dev ".toList, c ≠ 'l' := by decide
          exact hdev c hc
      have hfind : findLinkAddress none (toLowerCase line).toList = some target := by
        rw [hlow, ← List.append_assoc]
        obtain ⟨prev, hprev⟩ := findLinkAddress_append (lowChars dev
          ++ (" lladdr ".toList ++ (target.toList ++ lowChars rest))) hno none
        rw [hprev, findLinkAddress_word (lowChars_word hdev)]
        have hlink : linkAddress ('l' :: ("laddr ".toList ++ (target.toList ++ lowChars rest)))
            = some target := linkAddress_lladdr h (ends_lowChars hrest)
        change findLinkAddress (some ' ')
          ('l' :: ("laddr ".toList ++ (target.toList ++ lowChars rest))) = _
        rw [findLinkAddress, if_neg (by decide), hlink]
      have hread : ∀ more, readAddress (ip.toList ++ (' ' :: more)) = some (ip, ' ' :: more) :=
        fun more => readAddress_append hip (stopsAt_cons.mpr rfl)
      have haddress : ∀ more, neighAddress (ip.toList ++ (' ' :: more)) = some ip := fun more => by
        rw [neighAddress, hread]
        rfl
      rw [Neighbour.hit, if_pos hfind, hlow]
      exact haddress _

/-- A table is read right, if all lines that bind an address print octets of two digits, and no
other line is taken. -/
lemma agree_of_padded {mac target : String} {ns : List Neighbour}
    (h : normalizeMac mac = .ok target)
    (hpadded : ∀ n ∈ ns, ∀ ip os, n.Has ip os → SameOctets mac os → Padded os)
    (htaken : ∀ n ∈ ns, ∀ ip, n.hit target = some ip → n.Binds mac ip) :
    Agree (Neighbour.hit target) (Neighbour.Binds mac) ns := by
  induction ns with
  | nil => exact .nil
  | cons n ns ih =>
      obtain ⟨hp, hpadded⟩ := List.forall_mem_cons.mp hpadded
      obtain ⟨ht, htaken⟩ := List.forall_mem_cons.mp htaken
      cases hhit : n.hit target with
      | some ip => exact .right hhit (ht ip hhit)
      | none =>
          refine .skip hhit ?_ (ih hpadded htaken)
          rintro ip ⟨os, hhas, hsame⟩
          rw [takes_of_padded h hhas hsame (hp ip os hhas hsame)] at hhit
          cases hhit

/-! ### Every run -/

/-- What `resolveIpv4FromMac` returns is the address of the first line that binds one to the MAC
address, those of `arp -a` coming first, or there is no such line and it returns `null`. -/
def FindsBound (env : Environment) (mac : String) : Prop :=
  ∃ ip, (Prog.run env (resolveIpv4FromMac mac).run).1 = .ok ip
    ∧ FirstOf (Neighbour.Binds mac) (neighbours env) ip

/-- **The lookup finds the bound address** exactly if the search agrees with the lines: the first
line that is taken or binds an address is taken with the address that it binds, or another line
makes up for it. -/
theorem findsBound_iff (env : Environment) {mac target : String}
    (h : normalizeMac mac = .ok target) : FindsBound env mac ↔
      Agree (Neighbour.hit target) (Neighbour.Binds mac) (neighbours env) := by
  rw [FindsBound, run_resolveIpv4FromMac env h, ← firstOf_findSome?_iff]
  constructor
  · rintro ⟨ip, hip, hfirst⟩
    rwa [← Except.ok.inj hip] at hfirst
  · exact fun hfirst => ⟨_, rfl, hfirst⟩

/-- A table of `arp -a` with one line. -/
def oneLine (line : String) : (c : Call) → Reply c
  | .runCmd cmd => if cmd = ["arp", "-a"] then line else ""
  | c => silence c

lemma neighbours_oneLine {line : String} (h : '\n' ∉ line.toList) :
    neighbours (fun _ => oneLine line) = [.arp line, .neigh ""] := by
  have hsplit : splitOn line '\n' = [line] := by
    rw [splitOn, List.splitOn_eq_singleton h, List.map_singleton, String.ofList_toList]
  change (splitOn line '\n').map Neighbour.arp ++ (splitOn "" '\n').map Neighbour.neigh = _
  rw [hsplit]
  rfl

/-- A line of `arp -a` of the documented form. -/
lemma has_arpLine {line : String} {os : List (List Char)} (hline : line.toList
    = "? (192.168.1.50) at ".toList ++ ([':'].intercalate os ++ " on en0".toList)) :
    (Neighbour.arp line).Has "192.168.1.50" os :=
  .arp (hline.trans (by rfl)) (List.forall_mem_singleton.mpr (by decide))
    ⟨['1', '9', '2'], ['1', '6', '8'], ['1'], ['5', '0'], rfl, by decide⟩ (.inr ⟨_, rfl⟩)

/-- A line that prints two digits is found. -/
theorem findsBound_padded : FindsBound
    (fun _ => oneLine "? (192.168.1.50) at c4:e7:ae:01:c4:74 on en0") "C4E7AE01C474" := by
  have hok : normalizeMac "C4E7AE01C474" = .ok "c4:e7:ae:01:c4:74" := by decide
  have hhas : (Neighbour.arp "? (192.168.1.50) at c4:e7:ae:01:c4:74 on en0").Has "192.168.1.50"
      [['c', '4'], ['e', '7'], ['a', 'e'], ['0', '1'], ['c', '4'], ['7', '4']] := has_arpLine rfl
  have hsame : SameOctets "C4E7AE01C474"
      [['c', '4'], ['e', '7'], ['a', 'e'], ['0', '1'], ['c', '4'], ['7', '4']] :=
    ⟨by unfold Octets; decide, by decide⟩
  refine (findsBound_iff _ hok).mpr ?_
  rw [neighbours_oneLine (by decide)]
  exact .right (takes_of_padded hok hhas hsame (by unfold Padded; decide)) ⟨_, hhas, hsame⟩

/-- A line that prints an octet with one digit is overlooked. -/
theorem not_findsBound_bsd : ¬FindsBound
    (fun _ => oneLine "? (192.168.1.50) at c4:e7:ae:1:c4:74 on en0") "c4:e7:ae:01:c4:74" := by
  rintro ⟨ip, hip, hfirst⟩
  have hok : normalizeMac "c4:e7:ae:01:c4:74" = .ok "c4:e7:ae:01:c4:74" := by decide
  have hhas : (Neighbour.arp "? (192.168.1.50) at c4:e7:ae:1:c4:74 on en0").Has "192.168.1.50"
      [['c', '4'], ['e', '7'], ['a', 'e'], ['1'], ['c', '4'], ['7', '4']] := has_arpLine rfl
  have hbinds : (Neighbour.arp "? (192.168.1.50) at c4:e7:ae:1:c4:74 on en0").Binds
      "c4:e7:ae:01:c4:74" "192.168.1.50" := ⟨_, hhas, by unfold Octets; decide, by decide⟩
  have hnone : [Neighbour.arp "? (192.168.1.50) at c4:e7:ae:1:c4:74 on en0", .neigh ""].findSome?
      (Neighbour.hit "c4:e7:ae:01:c4:74") = none := by decide
  rw [run_resolveIpv4FromMac _ hok, neighbours_oneLine (by decide), hnone] at hip
  obtain rfl := Except.ok.inj hip
  rw [neighbours_oneLine (by decide)] at hfirst
  exact firstOf_none_iff.mp hfirst _ List.mem_cons_self _ hbinds

end Merossity
