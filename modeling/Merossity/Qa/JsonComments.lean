import Merossity.Js.Number
import Merossity.Lib.Loop

/-!
JSON with comments, for `stripJsonComments` of `scripts/qa-init.ts`.

* `stripJsonComments` is the loop of the source over its four variables; `round` is one round of it.
  It ends for every input (`exists_stripJsonComments`).
* `uncommented mode text` reads a text one character after the other, in one of the modes of the
  scanner. `stripJsonComments_eq`: this is what the loop returns.
* `uncommented_segments`: of a text that is put together from segments, the comments are missing.
  `uncommented_eq_self`: a text in which no comment begins outside a literal is left alone.
  `uncommented_uncommented`: nothing that is left begins a comment.
* `strips_comments` puts this together.
-/

namespace Merossity

open Js

/-! ### The scanner of the source -/

/-- The variables of `stripJsonComments`. -/
structure Scanner where
  output : List Char
  inString : Bool
  stringChar : Option Char
  index : ℕ

namespace Scanner

def start : Scanner := ⟨[], false, none, 0⟩

/-- `while (index < input.length && input[index] !== '\n')`: the number of rounds, by what is left
of the input. -/
def lineLength : List Char → ℕ
  | [] => 0
  | c :: cs => if c = '\n' then 0 else lineLength cs + 1

/-- `while (index < input.length && !(input[index] === '*' && input[index + INDEX_STEP] === '/'))`:
the number of rounds. -/
def blockLength : List Char → ℕ
  | [] => 0
  | c :: cs => if c = '*' ∧ cs.head? = some '/' then 0 else blockLength cs + 1

/-- A round in a string literal. -/
def inLiteral (s : Scanner) (char : Char) (next : Option Char) : Scanner :=
  if char = '\\' ∧ next.isSome then
    { s with output := s.output ++ char :: next.toList, index := s.index + 2 }
  else
    { s with
      output := s.output ++ [char]
      inString := some char ≠ s.stringChar
      index := s.index + 1 }

/-- A round outside of string literals. -/
def inCode (s : Scanner) (input : List Char) (char : Char) (next : Option Char) : Scanner :=
  if char = '"' ∨ char = '\x27' then
    { s with
      output := s.output ++ [char]
      inString := true
      stringChar := some char
      index := s.index + 1 }
  else if char = '/' ∧ next = some '/' then
    { s with index := s.index + 2 + lineLength (input.drop (s.index + 2)) }
  else if char = '/' ∧ next = some '*' then
    { s with index := s.index + 2 + blockLength (input.drop (s.index + 2)) + 2 }
  else { s with output := s.output ++ [char], index := s.index + 1 }

/-- One round of the loop. -/
def round (input : List Char) (s : Scanner) : Option Scanner :=
  (input[s.index]?).map fun char =>
    let next := input[s.index + 1]?
    if s.inString then s.inLiteral char next else s.inCode input char next

end Scanner

/-- `stripJsonComments`; `none` would be a loop that goes on after as many rounds as the input has
characters. -/
def stripJsonComments (input : String) : Option String :=
  (Loop.run (Scanner.round input.toList) input.length Scanner.start).map fun s =>
    String.ofList s.output

/-! ### One character after the other -/

/-- Where in a text a character is. -/
inductive Mode where
  | code
  | literal (quote : Char)
  | line
  | block

/-- The mode after a character of the code. -/
def Mode.after (c : Char) : Mode := if c = '"' ∨ c = '\x27' then .literal c else .code

/-- What is left of a text without its comments. -/
def uncommented : Mode → List Char → List Char
  | _, [] => []
  | .code, '/' :: '/' :: cs => uncommented .line cs
  | .code, '/' :: '*' :: cs => uncommented .block cs
  | .code, c :: cs => c :: uncommented (.after c) cs
  | .literal q, '\\' :: c :: cs => '\\' :: c :: uncommented (.literal q) cs
  | .literal q, c :: cs => c :: uncommented (if c = q then .code else .literal q) cs
  | .line, '\n' :: cs => '\n' :: uncommented .code cs
  | .line, _ :: cs => uncommented .line cs
  | .block, '*' :: '/' :: cs => uncommented .code cs
  | .block, _ :: cs => uncommented .block cs

/-- A comment begins here. -/
def OpensComment (c : Char) (cs : List Char) : Prop :=
  c = '/' ∧ (cs.head? = some '/' ∨ cs.head? = some '*')

lemma uncommented_nil (mode : Mode) : uncommented mode [] = [] := by
  cases mode <;> rfl

lemma uncommented_code {c : Char} {cs : List Char} (h : ¬ OpensComment c cs) :
    uncommented .code (c :: cs) = c :: uncommented (.after c) cs := by
  rw [uncommented.eq_4]
  · rintro cs' rfl rfl
    exact h ⟨rfl, .inl rfl⟩
  · rintro cs' rfl rfl
    exact h ⟨rfl, .inr rfl⟩

/-- A character that escapes nothing. -/
lemma uncommented_literal {q c : Char} {cs : List Char}
    (h : ∀ d ds, c = '\\' → cs = d :: ds → False) : uncommented (.literal q) (c :: cs)
      = c :: uncommented (if c = q then .code else .literal q) cs := by
  rw [uncommented.eq_6]
  exact h

lemma uncommented_line {c : Char} {cs : List Char} (h : c ≠ '\n') :
    uncommented .line (c :: cs) = uncommented .line cs := by
  rw [uncommented.eq_8]
  exact h

lemma uncommented_block {c : Char} {cs : List Char} (h : ¬ (c = '*' ∧ cs.head? = some '/')) :
    uncommented .block (c :: cs) = uncommented .block cs := by
  rw [uncommented.eq_10]
  rintro cs' rfl rfl
  exact h ⟨rfl, rfl⟩

/-! ### What the loop returns -/

namespace Scanner

variable {input : List Char} {s t : Scanner}

/-- The loop over a line comment ends in front of the next line. -/
lemma uncommented_drop_line (cs : List Char) :
    uncommented .code (cs.drop (lineLength cs)) = uncommented .line cs := by
  induction cs with
  | nil => rfl
  | cons c cs ih =>
      rw [lineLength]
      split_ifs with hc
      · subst hc
        rfl
      · rw [List.drop_succ_cons, ih, uncommented_line hc]

/-- The loop over a block comment ends in front of its last two characters. -/
lemma uncommented_drop_block (cs : List Char) :
    uncommented .code (cs.drop (blockLength cs + 2)) = uncommented .block cs := by
  induction cs with
  | nil => rfl
  | cons c cs ih =>
      rw [blockLength]
      split_ifs with hc
      · obtain ⟨rfl, hhead⟩ := hc
        obtain ⟨cs, rfl⟩ := List.head?_eq_some_iff.mp hhead
        rfl
      · rw [uncommented_block hc, ← ih]
        rfl

/-- The mode of the scanner. -/
def mode (s : Scanner) : Mode :=
  match s.inString, s.stringChar with
  | true, some q => .literal q
  | _, _ => .code

/-- The output, and what will be put out of the rest of the input. -/
def result (s : Scanner) (input : List Char) : List Char :=
  s.output ++ uncommented s.mode (input.drop s.index)

/-- The invariant of the loop. -/
structure Inv (input : List Char) (s : Scanner) : Prop where
  quoted : s.inString = true → s.stringChar.isSome
  result_eq : s.result input = uncommented .code input

lemma inv_start (input : List Char) : Inv input start where
  quoted h := by cases h
  result_eq := rfl

/-- A round looks at the first character of the rest, and at the one after it. -/
lemma round_cases (h : round input s = some t) : ∃ char rest,
    input.drop s.index = char :: rest ∧ (∀ k, input.drop (s.index + 1 + k) = rest.drop k)
      ∧ t = if s.inString then s.inLiteral char rest.head? else s.inCode input char rest.head? := by
  obtain ⟨char, hchar, rfl⟩ := Option.map_eq_some_iff.mp h
  have hrest : input.drop s.index = char :: input.drop (s.index + 1) := by
    obtain ⟨hlt, rfl⟩ := List.getElem?_eq_some_iff.mp hchar
    exact List.drop_eq_getElem_cons hlt
  refine ⟨char, input.drop (s.index + 1), hrest, fun k => ?_, ?_⟩
  · rw [List.drop_drop]
  · rw [List.head?_drop]

/-- What is left after two characters. -/
lemma drop_add_two {i : ℕ} {c : Char} {rest : List Char}
    (hdrop : ∀ k, input.drop (i + 1 + k) = (c :: rest).drop k) (n : ℕ) :
    input.drop (i + 2 + n) = rest.drop n := by
  rw [show i + 2 + n = i + 1 + (n + 1) by omega, hdrop, List.drop_succ_cons]

lemma Inv.inLiteral (hs : Inv input s) {char : Char} {rest : List Char}
    (hin : s.inString = true) (hrest : input.drop s.index = char :: rest)
    (hdrop : ∀ k, input.drop (s.index + 1 + k) = rest.drop k) :
    Inv input (s.inLiteral char rest.head?) := by
  obtain ⟨q, hq⟩ := Option.isSome_iff_exists.mp (hs.quoted hin)
  have hmode : s.mode = .literal q := by rw [mode, hin, hq]
  rw [Scanner.inLiteral]
  split_ifs with hescape
  · obtain ⟨rfl, hnext⟩ := hescape
    obtain ⟨c, hc⟩ := Option.isSome_iff_exists.mp hnext
    obtain ⟨rest, rfl⟩ := List.head?_eq_some_iff.mp hc
    refine ⟨hs.quoted, ?_⟩
    calc result _ input
        = (s.output ++ ['\\', c]) ++ uncommented s.mode (input.drop (s.index + 1 + 1)) := rfl
      _ = s.output ++ '\\' :: c :: uncommented (.literal q) rest := by
          rw [hdrop 1, hmode]
          simp
      _ = s.result input := by
          rw [result, hmode, hrest]
          rfl
      _ = uncommented .code input := hs.result_eq
  · have hlast : ∀ d ds, char = '\\' → rest = d :: ds → False := fun d ds hchar hds =>
      hescape ⟨hchar, by simp [hds]⟩
    refine ⟨fun _ => by simp [hq], ?_⟩
    have hmode' : mode { s with
        output := s.output ++ [char], inString := some char ≠ s.stringChar, index := s.index + 1 }
          = if char = q then .code else .literal q := by
      rw [mode, hq]
      by_cases hchar : char = q <;> simp [hchar]
    calc result _ input
        = (s.output ++ [char]) ++ uncommented (if char = q then .code else .literal q)
            (input.drop (s.index + 1 + 0)) := by
          rw [result, hmode']
      _ = s.output ++ uncommented (.literal q) (char :: rest) := by
          rw [hdrop 0, uncommented_literal hlast, List.append_assoc]
          rfl
      _ = s.result input := by rw [result, hmode, hrest]
      _ = uncommented .code input := hs.result_eq

lemma Inv.inCode (hs : Inv input s) {char : Char} {rest : List Char}
    (hin : s.inString = false) (hrest : input.drop s.index = char :: rest)
    (hdrop : ∀ k, input.drop (s.index + 1 + k) = rest.drop k) :
    Inv input (s.inCode input char rest.head?) := by
  have hmode : ∀ output index, mode { s with output, index } = .code := by
    intro output index
    rw [mode, hin]
  have hresult : s.output ++ uncommented .code (char :: rest) = uncommented .code input := by
    rw [← hs.result_eq, result, hrest, mode, hin]
  rw [Scanner.inCode]
  split_ifs with hquote hline hblock
  · -- a literal begins
    have hopens : ¬ OpensComment char rest := by
      rintro ⟨rfl, -⟩
      revert hquote
      decide
    refine ⟨fun _ => rfl, ?_⟩
    rw [← hresult, uncommented_code hopens, Mode.after, if_pos hquote]
    calc result _ input
        = (s.output ++ [char]) ++ uncommented (.literal char) (input.drop (s.index + 1 + 0)) := rfl
      _ = s.output ++ char :: uncommented (.literal char) rest := by
          rw [hdrop 0]
          simp
  · obtain ⟨rfl, hnext⟩ := hline
    obtain ⟨rest, rfl⟩ := List.head?_eq_some_iff.mp hnext
    refine ⟨fun h => by simp [hin] at h, ?_⟩
    rw [← hresult, result, hmode, drop_add_two hdrop 0, drop_add_two hdrop]
    exact congrArg (s.output ++ ·) (uncommented_drop_line rest)
  · obtain ⟨rfl, hnext⟩ := hblock
    obtain ⟨rest, rfl⟩ := List.head?_eq_some_iff.mp hnext
    refine ⟨fun h => by simp [hin] at h, ?_⟩
    rw [← hresult, result, hmode, drop_add_two hdrop 0, Nat.add_assoc, drop_add_two hdrop]
    exact congrArg (s.output ++ ·) (uncommented_drop_block rest)
  · have hopens : ¬ OpensComment char rest := by
      rintro ⟨rfl, hnext | hnext⟩
      · exact hline ⟨rfl, hnext⟩
      · exact hblock ⟨rfl, hnext⟩
    refine ⟨fun h => by simp [hin] at h, ?_⟩
    rw [← hresult, uncommented_code hopens, Mode.after, if_neg hquote, result, hmode]
    calc (s.output ++ [char]) ++ uncommented .code (input.drop (s.index + 1 + 0))
        = s.output ++ char :: uncommented .code rest := by
          rw [hdrop 0]
          simp

lemma Inv.round (hs : Inv input s) (h : s.round input = some t) : Inv input t := by
  obtain ⟨char, rest, hrest, hdrop, rfl⟩ := round_cases h
  split_ifs with hin
  · exact hs.inLiteral hin hrest hdrop
  · exact hs.inCode (Bool.eq_false_iff.mpr hin) hrest hdrop

/-- Every round takes something from the rest of the input. -/
lemma index_lt_of_round (h : s.round input = some t) :
    s.index < input.length ∧ s.index < t.index := by
  obtain ⟨char, hchar, rfl⟩ := Option.map_eq_some_iff.mp h
  refine ⟨(List.getElem?_eq_some_iff.mp hchar).1, ?_⟩
  simp only [Scanner.inLiteral, Scanner.inCode]
  split_ifs <;> (dsimp only; omega)

end Scanner

open Scanner

/-- What `stripJsonComments` returns. -/
theorem stripJsonComments_eq (input : String) :
    stripJsonComments input = some (String.ofList (uncommented .code input.toList)) := by
  have hvariant : ∀ s t : Scanner, s.round input.toList = some t →
      input.toList.length - t.index < input.toList.length - s.index := by
    intro s t h
    have hlt := index_lt_of_round h
    omega
  obtain ⟨t, ht⟩ := Loop.exists_run (fun s : Scanner => input.toList.length - s.index) hvariant
    (Nat.sub_le input.toList.length start.index)
  obtain ⟨hinv, hend⟩ := Loop.run_spec (fun s t hs h => Inv.round hs h)
    (inv_start input.toList) ht
  -- at the end nothing is left of the input
  have hrest : input.toList.drop t.index = [] := by
    rw [List.drop_eq_nil_iff, ← List.getElem?_eq_none_iff]
    simpa [Scanner.round] using hend
  have houtput : t.output = uncommented .code input.toList := by
    rw [← hinv.result_eq, result, hrest, uncommented_nil, List.append_nil]
  rw [stripJsonComments, ← String.length_toList, ht, Option.map_some, houtput]

example : stripJsonComments "[ // comment\n \"//\", /* a */ 1]" = some "[ \n \"//\",  1]" := by
  decide

/-! ### Segments -/

/-- What can stand between the quotes of a literal: an escape takes the character after it along. -/
inductive LiteralBody (quote : Char) : List Char → Prop where
  | nil : LiteralBody quote []
  | char {c : Char} {cs : List Char} (hbackslash : c ≠ '\\') (hquote : c ≠ quote)
      (h : LiteralBody quote cs) : LiteralBody quote (c :: cs)
  | escape {c : Char} {cs : List Char} (h : LiteralBody quote cs) :
      LiteralBody quote ('\\' :: c :: cs)

/-- A lexical segment of JSON with comments. -/
inductive Segment where
  | literal (quote : Char) (body : List Char) (isQuote : quote = '"' ∨ quote = '\x27')
      (closed : LiteralBody quote body)
  | plain (text : List Char) (isPlain : ∀ c ∈ text, c ≠ '"' ∧ c ≠ '\x27' ∧ c ≠ '/')
  | block (body : List Char) (isBody : ¬ ['*', '/'] <:+: body)
  | line (body : List Char) (isBody : '\n' ∉ body)

namespace Segment

/-- The characters of a segment. -/
def text : Segment → List Char
  | literal quote body _ _ => quote :: body ++ [quote]
  | plain text _ => text
  | block body _ => '/' :: '*' :: body ++ ['*', '/']
  | line body _ => '/' :: '/' :: body

/-- The characters of a segment, if it is no comment. -/
def kept : Segment → List Char
  | literal quote body _ _ => quote :: body ++ [quote]
  | plain text _ => text
  | block _ _ => []
  | line _ _ => []

end Segment

/-- The text of segments, one after the other. -/
def textOf (segments : List Segment) : List Char := segments.flatMap Segment.text

/-- The text of the segments that are no comments. -/
def keptOf (segments : List Segment) : List Char := segments.flatMap Segment.kept

/-- The segments are at their end, or go on in a new line. -/
def StartsLine : List Segment → Prop
  | [] => True
  | .plain text _ :: _ => text.head? = some '\n'
  | _ => False

/-- Every line comment takes up the rest of its line. -/
def Separated : List Segment → Prop
  | [] => True
  | .line _ _ :: segments => StartsLine segments ∧ Separated segments
  | _ :: segments => Separated segments

lemma uncommented_literalBody {quote : Char} {body : List Char} (hquote : quote ≠ '\\')
    (h : LiteralBody quote body) (rest : List Char) :
    uncommented (.literal quote) (body ++ quote :: rest)
      = body ++ quote :: uncommented .code rest := by
  induction h with
  | nil =>
      rw [List.nil_append, uncommented_literal fun _ _ hc _ => hquote hc, if_pos rfl]
      rfl
  | char hbackslash hne _ ih =>
      rw [List.cons_append, uncommented_literal fun _ _ hc _ => hbackslash hc, if_neg hne, ih]
      rfl
  | escape _ ih =>
      rw [List.cons_append, List.cons_append, uncommented, ih]
      rfl

lemma uncommented_plain {text : List Char}
    (h : ∀ c ∈ text, c ≠ '"' ∧ c ≠ '\x27' ∧ c ≠ '/') (rest : List Char) :
    uncommented .code (text ++ rest) = text ++ uncommented .code rest := by
  induction text with
  | nil => rfl
  | cons c text ih =>
      obtain ⟨hdouble, hsingle, hslash⟩ := h c List.mem_cons_self
      have hafter : Mode.after c = .code := by simp [Mode.after, hdouble, hsingle]
      rw [List.cons_append, uncommented_code fun hopens => hslash hopens.1, hafter,
        ih fun d hd => h d (List.mem_cons_of_mem c hd)]
      rfl

lemma uncommented_blockBody {body : List Char} (h : ¬ ['*', '/'] <:+: body) (rest : List Char) :
    uncommented .block (body ++ '*' :: '/' :: rest) = uncommented .code rest := by
  induction body with
  | nil => rfl
  | cons c body ih =>
      have hend : ¬ (c = '*' ∧ (body ++ '*' :: '/' :: rest).head? = some '/') := by
        rintro ⟨rfl, hhead⟩
        cases body with
        | nil => simp at hhead
        | cons d body =>
            obtain rfl : d = '/' := by simpa using hhead
            exact h ⟨[], body, rfl⟩
      rw [List.cons_append, uncommented_block hend]
      exact ih fun hpair => h (hpair.trans (List.suffix_cons c body).isInfix)

lemma uncommented_lineBody {body rest : List Char} (h : '\n' ∉ body)
    (hrest : ∀ c ∈ rest.head?, c = '\n') :
    uncommented .line (body ++ rest) = uncommented .code rest := by
  induction body with
  | nil =>
      cases rest with
      | nil => rfl
      | cons c rest =>
          obtain rfl : c = '\n' := hrest c rfl
          rfl
  | cons c body ih =>
      have hc : c ≠ '\n' := fun hc => h (by simp [hc])
      rw [List.cons_append, uncommented_line hc]
      exact ih fun hmem => h (List.mem_cons_of_mem c hmem)

/-- What goes on in a new line begins with a line break. -/
lemma StartsLine.head? {segments : List Segment} (h : StartsLine segments) :
    ∀ c ∈ (textOf segments).head?, c = '\n' := by
  cases segments with
  | nil => simp [textOf]
  | cons segment segments =>
      cases segment with
      | plain text _ =>
          obtain ⟨text, rfl⟩ := List.head?_eq_some_iff.mp h
          simp [textOf, Segment.text]
      | literal _ _ _ _ => cases h
      | block _ _ => cases h
      | line _ _ => cases h

/-- **Segments.** The comments are left out, and everything else is kept. -/
lemma uncommented_segments {segments : List Segment} (h : Separated segments) :
    uncommented .code (textOf segments) = keptOf segments := by
  induction segments with
  | nil => rfl
  | cons segment segments ih =>
      rw [textOf, keptOf, List.flatMap_cons, List.flatMap_cons]
      cases segment with
      | literal quote body isQuote closed =>
          have hquote : quote ≠ '\\' := by rcases isQuote with rfl | rfl <;> decide
          have hslash : quote ≠ '/' := by rcases isQuote with rfl | rfl <;> decide
          have hafter : Mode.after quote = .literal quote := if_pos isQuote
          have hbody := uncommented_literalBody hquote closed (textOf segments)
          rw [ih h] at hbody
          simp only [Segment.text, Segment.kept, List.cons_append, List.append_assoc,
            List.nil_append]
          rw [uncommented_code fun hopens => hslash hopens.1, hafter]
          exact congrArg (quote :: ·) hbody
      | plain text isPlain =>
          rw [Segment.text, Segment.kept, uncommented_plain isPlain]
          exact congrArg (text ++ ·) (ih h)
      | block body isBody =>
          have hbody := uncommented_blockBody isBody (textOf segments)
          rw [ih h] at hbody
          simpa [Segment.text, Segment.kept, textOf, keptOf, uncommented] using hbody
      | line body isBody =>
          have hbody := uncommented_lineBody isBody h.1.head?
          rw [ih h.2] at hbody
          simpa [Segment.text, Segment.kept, textOf, keptOf, uncommented] using hbody

/-! ### Texts without comments -/

/-- Where the literals of a text are: outside of them, in one, or after a backslash in one. -/
inductive Quotes where
  | outside
  | inside (quote : Char)
  | escaped (quote : Char)
  deriving DecidableEq

def Quotes.next : Quotes → Char → Quotes
  | outside, c => if c = '"' ∨ c = '\x27' then inside c else outside
  | inside quote, c =>
      if c = '\\' then escaped quote else if c = quote then outside else inside quote
  | escaped quote, _ => inside quote

/-- No comment begins outside a literal, in a text that goes on in the state `quotes`. -/
def NoComment (quotes : Quotes) (text : List Char) : Prop :=
  ∀ before c rest, text = before ++ '/' :: c :: rest → c = '/' ∨ c = '*' →
    before.foldl Quotes.next quotes ≠ .outside

lemma NoComment.tail {quotes : Quotes} {c : Char} {cs : List Char}
    (h : NoComment quotes (c :: cs)) : NoComment (quotes.next c) cs := by
  intro before d rest hcs hd
  exact h (c :: before) d rest (by rw [hcs]; rfl) hd

lemma NoComment.not_opens {c : Char} {cs : List Char} (h : NoComment .outside (c :: cs)) :
    ¬ OpensComment c cs := by
  rintro ⟨rfl, hhead | hhead⟩
  · obtain ⟨cs, rfl⟩ := List.head?_eq_some_iff.mp hhead
    exact h [] '/' cs rfl (.inl rfl) rfl
  · obtain ⟨cs, rfl⟩ := List.head?_eq_some_iff.mp hhead
    exact h [] '*' cs rfl (.inr rfl) rfl

/-- The state of the literals in a mode. -/
def Mode.quotes : Mode → Option Quotes
  | code => some .outside
  | literal quote => some (.inside quote)
  | line => none
  | block => none

lemma Mode.quotes_after (c : Char) : (Mode.after c).quotes = some (Quotes.outside.next c) := by
  rw [Mode.after, Quotes.next]
  split_ifs <;> rfl

/-- A text in which no comment begins is left alone. -/
lemma uncommented_eq_self {mode : Mode} {cs : List Char} {quotes : Quotes}
    (hmode : mode.quotes = some quotes) (h : NoComment quotes cs) : uncommented mode cs = cs := by
  induction mode, cs using uncommented.induct generalizing quotes with
  | case1 mode => exact uncommented_nil mode
  | case2 cs _ | case3 cs _ =>
      obtain rfl := Option.some.inj hmode
      exact absurd h.not_opens (by simp [OpensComment])
  | case4 c cs _ _ ih =>
      obtain rfl := Option.some.inj hmode
      rw [uncommented_code h.not_opens, ih (Mode.quotes_after c) h.tail]
  | case5 quote c cs ih =>
      obtain rfl := Option.some.inj hmode
      rw [uncommented, ih rfl h.tail.tail]
  | case6 quote c cs hescape ih =>
      obtain rfl := Option.some.inj hmode
      rw [uncommented_literal hescape]
      by_cases hc : c = '\\'
      · -- a backslash that escapes nothing is the last character
        obtain rfl : cs = [] := List.eq_nil_iff_forall_not_mem.mpr fun d hd => by
          obtain ⟨e, cs, rfl⟩ := List.exists_cons_of_ne_nil (List.ne_nil_of_mem hd)
          exact hescape e cs hc rfl
        rw [uncommented_nil]
      · have hnext : (if c = quote then Mode.code else .literal quote).quotes
            = some (Quotes.next (.inside quote) c) := by
          rw [Quotes.next, if_neg hc]
          split_ifs <;> rfl
        rw [ih hnext h.tail]
  | case7 | case8 | case9 | case10 => cases hmode

/-! ### A second time -/

/-- What is left begins like the text, unless a comment may begin there. -/
lemma head?_uncommented {cs : List Char} (h : cs.head? ≠ some '/') :
    (uncommented .code cs).head? = cs.head? := by
  cases cs with
  | nil => rfl
  | cons c cs =>
      rw [uncommented_code fun hopens => h (by simp [hopens.1])]
      rfl

/-- The mode in which the text that is left goes on: a comment leaves nothing. -/
def Mode.settled : Mode → Mode
  | code => code
  | literal quote => literal quote
  | line => code
  | block => code

lemma Mode.settled_after (c : Char) : (Mode.after c).settled = .after c := by
  rw [Mode.after]
  split_ifs <;> rfl

/-- Nothing that is left begins a comment. -/
lemma uncommented_uncommented (mode : Mode) (cs : List Char) :
    uncommented mode.settled (uncommented mode cs) = uncommented mode cs := by
  induction mode, cs using uncommented.induct with
  | case1 mode => rw [uncommented_nil, uncommented_nil]
  | case2 cs ih | case3 cs ih | case9 cs ih =>
      rw [uncommented]
      exact ih
  | case4 c cs hline hblock ih =>
      have hopens : ¬ OpensComment c cs := by
        rintro ⟨rfl, hhead | hhead⟩
        · obtain ⟨cs, rfl⟩ := List.head?_eq_some_iff.mp hhead
          exact hline cs rfl rfl
        · obtain ⟨cs, rfl⟩ := List.head?_eq_some_iff.mp hhead
          exact hblock cs rfl rfl
      -- what comes after a slash is not removed, and so it does not begin a comment again
      have hkept : ¬ OpensComment c (uncommented (.after c) cs) := by
        rintro ⟨rfl, hhead⟩
        have hslash : cs.head? ≠ some '/' := fun h => hopens ⟨rfl, .inl h⟩
        have hafter : Mode.after '/' = .code := rfl
        rw [hafter, head?_uncommented hslash] at hhead
        exact hopens ⟨rfl, hhead⟩
      rw [Mode.settled_after] at ih
      rw [uncommented_code hopens, Mode.settled, uncommented_code hkept, ih]
  | case5 quote c cs ih =>
      rw [Mode.settled] at ih ⊢
      rw [uncommented, uncommented, ih]
  | case6 quote c cs hescape ih =>
      have hkept : ∀ mode d ds, c = '\\' → uncommented mode cs = d :: ds → False := by
        rintro mode d ds hc hds
        cases cs with
        | nil => simp [uncommented_nil] at hds
        | cons e cs => exact hescape e cs hc rfl
      have hsettled : (if c = quote then Mode.code else .literal quote).settled
          = if c = quote then .code else .literal quote := by
        split_ifs <;> rfl
      rw [hsettled] at ih
      rw [uncommented_literal hescape, Mode.settled, uncommented_literal (hkept _), ih]
  | case7 cs ih =>
      have hopens : ∀ cs, ¬ OpensComment '\n' cs := fun cs h => absurd h.1 (by decide)
      have hafter : Mode.after '\n' = .code := rfl
      simp only [Mode.settled] at ih ⊢
      rw [uncommented, uncommented_code (hopens _), hafter, ih]
  | case8 c cs hc ih =>
      rw [uncommented_line hc]
      exact ih
  | case10 c cs hend ih =>
      rw [uncommented.eq_10 c cs hend]
      exact ih

/-! ### What the function promises -/

/-- What is to be said of a function that removes comments. -/
structure StripsComments (strip : String → Option String) : Prop where
  terminates : ∀ input, ∃ output, strip input = some output
  segments : ∀ segments, Separated segments →
    strip (String.ofList (textOf segments)) = some (String.ofList (keptOf segments))
  unchanged : ∀ input : String, NoComment .outside input.toList → strip input = some input
  literals : ∀ quote body isQuote closed, let literal := Segment.literal quote body isQuote closed
    strip (String.ofList literal.text) = some (String.ofList literal.text)
  idempotent : ∀ input output, strip input = some output → strip output = some output

/-- **Comments.** The function returns for every input, removes the comments of a text that is made
of segments and nothing else, leaves a text alone in which no comment begins, as every literal, and
finds nothing to remove in what it returns. -/
theorem strips_comments : StripsComments stripJsonComments where
  terminates input := ⟨_, stripJsonComments_eq input⟩
  segments segments h := by
    rw [stripJsonComments_eq, String.toList_ofList, uncommented_segments h]
  unchanged input h := by
    rw [stripJsonComments_eq, uncommented_eq_self rfl h, String.ofList_toList]
  literals quote body isQuote closed := by
    intro literal
    have h : uncommented .code (textOf [literal]) = keptOf [literal] :=
      uncommented_segments trivial
    rw [textOf, keptOf, List.flatMap_singleton, List.flatMap_singleton] at h
    rw [stripJsonComments_eq, String.toList_ofList, h]
    rfl
  idempotent input output h := by
    rw [stripJsonComments_eq] at h
    obtain rfl := Option.some.inj h
    rw [stripJsonComments_eq, String.toList_ofList]
    exact congrArg (fun text => some (String.ofList text))
      (uncommented_uncommented .code input.toList)

end Merossity
