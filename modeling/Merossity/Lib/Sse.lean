import Mathlib.Tactic

/-!
The framing of server-sent events.

* `frame` is the text of an event that has a type and one line of data.
* `lines` are the lines of a text. What follows the last line break is not a line yet.
* `read` reads the events off a text, and `decode` off its bytes: a line gives the type or a line
  of data, an empty line ends the event, and an event without data is none.
* `read_frame`: a frame is read as its event, whatever follows it, and so the bytes of frames one
  after the other are read as their events (`decode_frames`).
-/

namespace Sse

/-! ### Lines -/

/-- A line feed or a carriage return. -/
def isBreak (c : Char) : Bool := c = '\n' || c = '\r'

/-- The lines of a text, of which the first one begins with `acc` in reverse. A carriage return
and a line feed are one line break. -/
def linesFrom (acc : List Char) : List Char → List (List Char)
  | [] => []
  | '\r' :: '\n' :: l => acc.reverse :: linesFrom [] l
  | c :: l => if isBreak c then acc.reverse :: linesFrom [] l else linesFrom (c :: acc) l

/-- The lines of a text that are ended. -/
def lines (l : List Char) : List (List Char) := linesFrom [] l

lemma linesFrom_append {line : List Char} (h : ∀ c ∈ line, isBreak c = false) (rest : List Char) :
    ∀ acc, linesFrom acc (line ++ '\n' :: rest) = (acc.reverse ++ line) :: linesFrom [] rest := by
  induction line with
  | nil =>
      intro acc
      rw [List.append_nil, List.nil_append, linesFrom]
      · rfl
      · exact fun _ h => by cases h
  | cons c line ih =>
      intro acc
      have hc : isBreak c = false := h c List.mem_cons_self
      have hline := ih (fun c' hc' => h c' (List.mem_cons_of_mem _ hc')) (c :: acc)
      rw [List.cons_append, linesFrom, hc, if_neg Bool.false_ne_true, hline, List.reverse_cons,
        List.append_assoc]
      · rfl
      · rintro _ rfl
        cases hc

/-- A text that begins with a line. -/
lemma lines_append {line : List Char} (h : ∀ c ∈ line, isBreak c = false) (rest : List Char) :
    lines (line ++ '\n' :: rest) = line :: lines rest :=
  linesFrom_append h rest []

/-! ### Events -/

/-- The field that a line gives: its name, and its value without the space after the colon. -/
def fieldOf (line : List Char) : List Char × List Char :=
  match line.dropWhile (· ≠ ':') with
  | ':' :: ' ' :: value => (line.takeWhile (· ≠ ':'), value)
  | ':' :: value => (line.takeWhile (· ≠ ':'), value)
  | _ => (line, [])

/-- An event of which the lines are being read. -/
structure Partial where
  type : List Char := []
  data : List Char := []

/-- What a line that is not empty gives. -/
def Partial.add (p : Partial) (line : List Char) : Partial :=
  match fieldOf line with
  | (name, value) =>
      if name = "event".toList then { p with type := value }
      else if name = "data".toList then { p with data := p.data ++ value ++ ['\n'] }
      else p

/-- An event that has ended: the type is `message` unless one was given, and the last line break of
the data is left out. -/
def Partial.event? (p : Partial) : Option (String × String) :=
  if p.data = [] then none
  else some (if p.type = [] then "message" else String.ofList p.type, String.ofList p.data.dropLast)

/-- The events of some lines. -/
def eventsFrom (p : Partial) : List (List Char) → List (String × String)
  | [] => []
  | [] :: ls => p.event?.toList ++ eventsFrom {} ls
  | line :: ls => eventsFrom (p.add line) ls

/-- The events of a text. -/
def read (text : List Char) : List (String × String) := eventsFrom {} (lines text)

/-- The events of a text in UTF-8. A byte order mark at its start is left out. -/
def decode (bytes : ByteArray) : Option (List (String × String)) :=
  (String.fromUTF8? bytes).map fun text =>
    match text.toList with
    | '\ufeff' :: l => read l
    | l => read l

/-! ### Frames -/

/-- The text of an event. -/
def frame (type data : String) : String := "event: " ++ type ++ "\ndata: " ++ data ++ "\n\n"

/-- A text without a line break. -/
def OneLine (s : String) : Prop := s.toList.any isBreak = false

instance (s : String) : Decidable (OneLine s) := inferInstanceAs (Decidable (_ = false))

lemma OneLine.isBreak {s : String} (h : OneLine s) : ∀ c ∈ s.toList, isBreak c = false :=
  fun c hc => by simpa using List.any_eq_false.mp h c hc

lemma OneLine.append {s t : String} (hs : OneLine s) (ht : OneLine t) : OneLine (s ++ t) := by
  rw [OneLine, String.toList_append, List.any_append, hs, ht, Bool.or_false]

lemma add_event (p : Partial) (value : List Char) :
    p.add ("event: ".toList ++ value) = { p with type := value } := rfl

lemma add_data (p : Partial) (value : List Char) :
    p.add ("data: ".toList ++ value) = { p with data := p.data ++ value ++ ['\n'] } := rfl

lemma eventsFrom_cons (p : Partial) {line : List Char} (h : line ≠ []) (ls : List (List Char)) :
    eventsFrom p (line :: ls) = eventsFrom (p.add line) ls := by
  cases line with
  | nil => exact absurd rfl h
  | cons c line => rfl

/-- **A frame is its event**, whatever follows it. -/
theorem read_frame {type data : String} (htype : type ≠ "") (htype' : OneLine type)
    (hdata : OneLine data) (rest : List Char) :
    read ((frame type data).toList ++ rest) = (type, data) :: read rest := by
  have htext : (frame type data).toList ++ rest =
      ("event: ".toList ++ type.toList) ++ '\n' :: (("data: ".toList ++ data.toList) ++
        '\n' :: ([] ++ '\n' :: rest)) := by
    simp [frame]
  have hevent : ∀ c ∈ "event: ".toList ++ type.toList, isBreak c = false :=
    List.forall_mem_append.mpr ⟨OneLine.isBreak (s := "event: ") rfl, htype'.isBreak⟩
  have hline : ∀ c ∈ "data: ".toList ++ data.toList, isBreak c = false :=
    List.forall_mem_append.mpr ⟨OneLine.isBreak (s := "data: ") rfl, hdata.isBreak⟩
  have htype'' : type.toList ≠ [] := fun h => htype (String.toList_eq_nil_iff.mp h)
  rw [htext, read, lines_append hevent, lines_append hline,
    lines_append (fun c hc => absurd hc List.not_mem_nil),
    eventsFrom_cons _ (List.append_ne_nil_of_left_ne_nil (by decide) _), add_event,
    eventsFrom_cons _ (List.append_ne_nil_of_left_ne_nil (by decide) _), add_data, eventsFrom,
    Partial.event?]
  simp [htype'', read]

/-- Frames one after the other are their events. -/
theorem read_frames (es : List (String × String))
    (h : ∀ e ∈ es, e.1 ≠ "" ∧ OneLine e.1 ∧ OneLine e.2) :
    read (es.flatMap fun e => (frame e.1 e.2).toList) = es := by
  induction es with
  | nil => rfl
  | cons e es ih =>
      obtain ⟨htype, htype', hdata⟩ := h e List.mem_cons_self
      rw [List.flatMap_cons, read_frame htype htype' hdata,
        ih fun e' he' => h e' (List.mem_cons_of_mem _ he')]

/-- The bytes of frames one after the other are their events. -/
theorem decode_frames (es : List (String × String))
    (h : ∀ e ∈ es, e.1 ≠ "" ∧ OneLine e.1 ∧ OneLine e.2) :
    decode (String.join (es.map fun e => frame e.1 e.2)).toUTF8 = some es := by
  have hread := read_frames es h
  have hutf8 : ∀ text : String, String.fromUTF8? text.toUTF8 = some text := fun text =>
    dif_pos text.isValidUTF8
  rw [decode, hutf8, Option.map_some, String.toList_join, List.flatMap_map]
  cases es with
  | nil => rfl
  | cons e es =>
      -- the text begins with the `e` of `event`, and so without a byte order mark
      obtain ⟨l, hl⟩ : ∃ l, (frame e.1 e.2).toList = 'e' :: l :=
        ⟨"vent: ".toList ++ e.1.toList ++ "\ndata: ".toList ++ e.2.toList ++ "\n\n".toList, by
          simp [frame]⟩
      rw [List.flatMap_cons, hl] at hread ⊢
      exact congrArg some hread

/-- The bytes of a frame are its event. -/
theorem decode_frame {type data : String} (htype : type ≠ "") (htype' : OneLine type)
    (hdata : OneLine data) : decode (frame type data).toUTF8 = some [(type, data)] := by
  have hjoin : String.join [frame type data] = frame type data := String.empty_append
  rw [← hjoin]
  exact decode_frames [(type, data)] fun e he => List.mem_singleton.mp he ▸ ⟨htype, htype', hdata⟩

end Sse
