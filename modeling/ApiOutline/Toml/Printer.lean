import ApiOutline.Decimal.Shortest
import ApiOutline.Toml.Basic

/-!
# Writing TOML

Sections are separated by empty lines, and each pair has a line of its own; an array of several items
has a line for each item.

A text is written in the first of five forms that suits it: between single quotation marks of either
kind, then between threefold ones; where none suits, its special characters are escaped.

* `Form`: the forms of texts, with `Form.suits` and `Form.write`.
* `writeKey`, `Value.write`: keys and values.
* `write`: documents.
-/

namespace ApiOutline.Toml

/-! ## Texts -/

/-- The length of the longest run of `mark`, when the text comes after a run of length `run` and the
longest run before it has length `longest`. -/
def longestRunFrom (mark : Char) (run longest : Nat) : List Char → Nat
  | [] => longest
  | c :: rest =>
    let run := if c = mark then run + 1 else 0
    longestRunFrom mark run (max longest run) rest

/-- The length of the longest run of `mark` in a text. -/
def longestRun (mark : Char) (text : List Char) : Nat :=
  longestRunFrom mark 0 0 text

/-- Whether `c` has to be escaped wherever it stands: a control character that is neither a tabulator
nor a line feed. -/
def isControl (c : Char) : Bool :=
  !isPlain c && c != '\n'

/-- A form in which texts are written. -/
inductive Form where
  /-- `"text"`, with escapes. -/
  | basic
  /-- `'text'`. -/
  | literal
  /-- `"""text"""`, with escapes. -/
  | longBasic
  /-- `'''text'''`. -/
  | longLiteral
  deriving DecidableEq, Repr

namespace Form

/-- Whether a text can be written in the form without escapes of anything but tabulators. -/
def suits (text : List Char) : Form → Bool
  | basic =>
    !text.any isControl && !text.contains '\\' && !text.contains '"' && !text.contains '\n'
  | literal => !text.any isControl && !text.contains '\'' && !text.contains '\n'
  | longBasic => !text.any isControl && !text.contains '\\' && decide (longestRun '"' text ≤ 2)
  | longLiteral => !text.any isControl && decide (longestRun '\'' text ≤ 2)

/-- The form for a text: the first that suits, else one with escapes. -/
def of (text : List Char) : Form :=
  match [basic, literal, longBasic, longLiteral].find? (suits text) with
  | some form => form
  | none => if text.contains '\n' then longBasic else basic

/-- The form for a key, which has to be on one line. -/
def ofKey (key : List Char) : Form :=
  if basic.suits key then basic else if literal.suits key then literal else basic

/-- The hexadecimal digit of a number below sixteen, in upper case. -/
def hexDigit (n : Nat) : Char :=
  if n < 10 then Char.ofNat (48 + n) else Char.ofNat (55 + n)

/-- What is written for a character between double quotation marks, when `run` such marks stand
directly before it and `limit` of them may follow each other. -/
def escape (long : Bool) (limit run : Nat) (c : Char) : List Char :=
  if c = '"' then if limit < run + 1 then ['\\', '"'] else ['"']
  else if c = '\\' then ['\\', '\\']
  else if c = '\x08' then ['\\', 'b']
  else if c = '\t' then ['\\', 't']
  else if c = '\n' then if long then ['\n'] else ['\\', 'n']
  else if c = '\x0c' then ['\\', 'f']
  else if c = '\r' then ['\\', 'r']
  else if isPlain c then [c]
  else ['\\', 'u', '0', '0', hexDigit (c.toNat / 16), hexDigit (c.toNat % 16)]

/-- What is written for a text between double quotation marks, after a run of `run` such marks.  A mark
that is escaped begins no run. -/
def escapeFrom (long : Bool) (limit run : Nat) : List Char → List Char
  | [] => []
  | c :: rest =>
    let run' := if c = '"' ∧ run + 1 ≤ limit then run + 1 else 0
    escape long limit run c ++ escapeFrom long limit run' rest

/-- A text in the form.  A long form begins on a new line if the text has several lines. -/
def write (form : Form) (text : List Char) : List Char :=
  let lead := if text.contains '\n' then ['\n'] else []
  match form with
  | basic => '"' :: escapeFrom false 0 0 text ++ ['"']
  | literal => '\'' :: text ++ ['\'']
  | longBasic => ['"', '"', '"'] ++ lead ++ escapeFrom true 2 0 text ++ ['"', '"', '"']
  | longLiteral => ['\'', '\'', '\''] ++ lead ++ text ++ ['\'', '\'', '\'']

end Form

/-- A text in the form for it. -/
def writeText (s : String) : List Char :=
  (Form.of s.toList).write s.toList

/-! ## Keys and values -/

/-- A part of a key, in quotation marks unless it is bare. -/
def writeKeyPart (part : String) : List Char :=
  let chars := part.toList
  if !chars.isEmpty && chars.all isBare then chars else (Form.ofKey chars).write chars

/-- A dotted key. -/
def writeKey (key : List String) : List Char :=
  ['.'].intercalate (key.map writeKeyPart)

mutual

/-- A value. -/
def Value.write : Value → List Char
  | .text s => writeText s
  | .moment s => s.toList
  | .integer i => (toString i).toList
  | .floating x => (Decimal.pointed x).toList
  | .bool b => if b then ['t', 'r', 'u', 'e'] else ['f', 'a', 'l', 's', 'e']
  | .array [] => ['[', ']']
  | .array [v] => '[' :: v.write ++ [']']
  | .array items => '[' :: writeItems items ++ ['\n', ']']
  | .table [] => ['\x7b', '\x7d']
  | .table (e :: rest) =>
    '\x7b' :: ' ' :: writeEntry e ++ writeEntries rest ++ [' ', '\x7d']

/-- The items of an array, each on a line of its own. -/
def writeItems : List Value → List Char
  | [] => []
  | v :: rest => '\n' :: ' ' :: ' ' :: ' ' :: ' ' :: v.write ++ ',' :: writeItems rest

/-- An entry of a table in braces. -/
def writeEntry : String × Value → List Char
  | (key, v) => writeKeyPart key ++ ' ' :: '=' :: ' ' :: v.write

/-- Further entries of a table in braces. -/
def writeEntries : List (String × Value) → List Char
  | [] => []
  | e :: rest => ',' :: ' ' :: writeEntry e ++ writeEntries rest

end

/-! ## Documents -/

/-- A pair on a line of its own. -/
def Pair.write (p : Pair) : List Char :=
  writeKey p.key ++ ' ' :: '=' :: ' ' :: p.value.write ++ ['\n']

/-- A heading on a line of its own. -/
def writeHeading (s : Section) : List Char :=
  let inner := writeKey s.path
  (if s.repeated then '[' :: '[' :: inner ++ [']', ']'] else '[' :: inner ++ [']']) ++ ['\n']

/-- A section with its heading. -/
def Section.write (s : Section) : List Char :=
  (if s.path.isEmpty then [] else writeHeading s) ++ s.pairs.flatMap Pair.write

/-- A document: its sections with empty lines between them. -/
def write (sections : List Section) : String :=
  String.ofList (['\n'].intercalate (sections.map Section.write))

end ApiOutline.Toml
