import Merossity.Js.Json

/-!
Reading the text of a JSON value, `JSON.parse`.

* `readText`, `readNumeral` and `readValue` read one string, number or value from the front
  of the characters and return what follows it.
* The recursion is on a bound for the nesting and the number of items; `parse` gives it the
  length of the text, which no value exceeds.
-/

namespace Js

/-- The white space that JSON allows between tokens. -/
def skipSpace (l : List Char) : List Char :=
  l.dropWhile fun c => c = ' ' || c = '\t' || c = '\n' || c = '\r'

/-- Characters from code units: a high surrogate followed by a low one is one character, and
a lone one becomes the replacement character. -/
def joinUnits : List ℕ → List Char
  | [] => []
  | [n] => [if 0xd800 ≤ n ∧ n < 0xe000 then '\ufffd' else Char.ofNat n]
  | n :: m :: ns =>
      if 0xd800 ≤ n ∧ n < 0xdc00 ∧ 0xdc00 ≤ m ∧ m < 0xe000 then
        Char.ofNat (0x10000 + (n - 0xd800) * 0x400 + (m - 0xdc00)) :: joinUnits ns
      else (if 0xd800 ≤ n ∧ n < 0xe000 then '\ufffd' else Char.ofNat n) :: joinUnits (m :: ns)

/-- The characters that may follow a backslash, apart from `u`, and what they stand for. -/
def escapes : List (Char × Char) :=
  [('"', '"'), ('\\', '\\'), ('/', '/'), ('b', '\x08'), ('f', '\x0c'), ('n', '\n'), ('r', '\r'),
    ('t', '\t')]

/-- The code units of a string, its opening quote already read. -/
def readUnits (acc : List ℕ) : List Char → Option (List ℕ × List Char)
  | '"' :: l => some (acc.reverse, l)
  | '\\' :: 'u' :: a :: b :: c :: d :: l =>
      if [a, b, c, d].all isHexDigit then readUnits (digitsValue 16 [a, b, c, d] :: acc) l else none
  | '\\' :: c :: l =>
      match escapes.lookup c with
      | some d => readUnits (d.toNat :: acc) l
      | none => none
  | c :: l => if c.toNat < 0x20 ∨ c = '\\' then none else readUnits (c.toNat :: acc) l
  | [] => none

/-- A string, its opening quote already read. -/
def readText (l : List Char) : Option (String × List Char) :=
  (readUnits [] l).map fun r => (String.ofList (joinUnits r.1), r.2)

/-- A number: an optional sign, an integer part without leading zeros, and the optional
fraction and exponent, each with a digit. -/
def readNumeral (l : List Char) : Option (Number × List Char) :=
  let (neg, l) := match l with
    | '-' :: r => (true, r)
    | r => (false, r)
  let ip := l.takeWhile Char.isDigit
  let rest := l.dropWhile Char.isDigit
  let (fp, rest') := match rest with
    | '.' :: r => (r.takeWhile Char.isDigit, r.dropWhile Char.isDigit)
    | r => (['0'], r)
  let (sign, ep, rest'') := match rest' with
    | e :: r =>
        if e = 'e' ∨ e = 'E' then
          match r with
          | '-' :: r => (true, r.takeWhile Char.isDigit, r.dropWhile Char.isDigit)
          | '+' :: r => (false, r.takeWhile Char.isDigit, r.dropWhile Char.isDigit)
          | r => (false, r.takeWhile Char.isDigit, r.dropWhile Char.isDigit)
        else (false, ['0'], e :: r)
    | [] => (false, ['0'], [])
  if ip = [] ∨ (ip.head? = some '0' ∧ ip.length ≠ 1) ∨ fp = [] ∨ ep = [] then none
  else
    let m : ℚ := (digitsValue 10 (ip ++ fp) : ℚ) / 10 ^ fp.length
    let e : ℤ := digitsValue 10 ep
    let q : ℚ := m * (10 : ℚ) ^ (if sign then -e else e)
    some (.ofRat (if neg then -q else q), rest'')

mutual

/-- A value. -/
def readValue : ℕ → List Char → Option (Json × List Char)
  | 0, _ => none
  | fuel + 1, l =>
      match skipSpace l with
      | '"' :: l => (readText l).map fun r => (.str r.1, r.2)
      | 'n' :: 'u' :: 'l' :: 'l' :: l => some (.null, l)
      | 't' :: 'r' :: 'u' :: 'e' :: l => some (.bool true, l)
      | 'f' :: 'a' :: 'l' :: 's' :: 'e' :: l => some (.bool false, l)
      | '[' :: l =>
          match skipSpace l with
          | ']' :: l => some (.arr [], l)
          | l => (readItems fuel l).map fun r => (.arr r.1, r.2)
      | '\x7b' :: l =>
          match skipSpace l with
          | '\x7d' :: l => some (.obj [], l)
          | l => (readFields fuel [] l).map fun r => (.obj r.1, r.2)
      | l => (readNumeral l).map fun r => (.num r.1, r.2)

/-- The items of an array, up to its closing bracket. -/
def readItems : ℕ → List Char → Option (List Json × List Char)
  | 0, _ => none
  | fuel + 1, l =>
      match readValue fuel l with
      | none => none
      | some (v, l) =>
          match skipSpace l with
          | ',' :: l => (readItems fuel l).map fun r => (v :: r.1, r.2)
          | ']' :: l => some ([v], l)
          | _ => none

/-- The fields of an object, up to its closing brace. The last of several fields with one
key counts. -/
def readFields : ℕ → Fields → List Char → Option (Fields × List Char)
  | 0, _, _ => none
  | fuel + 1, fs, l =>
      match skipSpace l with
      | '"' :: l =>
          match readText l with
          | none => none
          | some (k, l) =>
              match skipSpace l with
              | ':' :: l =>
                  match readValue fuel l with
                  | none => none
                  | some (v, l) =>
                      match skipSpace l with
                      | ',' :: l => readFields fuel (Assoc.set fs k v) l
                      | '\x7d' :: l => some (Assoc.set fs k v, l)
                      | _ => none
              | _ => none
      | _ => none

end

/-- `JSON.parse`; `none` if it throws. -/
def parse (text : String) : Option Json :=
  match readValue (text.length + 1) text.toList with
  | some (v, l) => if skipSpace l = [] then some v else none
  | none => none

end Js
