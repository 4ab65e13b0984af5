import ApiOutline.Toml.Basic

/-!
# Tokens of TOML texts

A TOML text is cut into tokens by a machine that looks at each character once.  Keys, numbers and
dates are words alike; what a word means depends on its place.  Blanks and comments separate tokens,
and each token knows what stands between it and the one before it.

* `Token`, `Gap`, `Lexeme`: the tokens.
* `Lexer`: the states of the machine.
* `Lexeme.scan`: the tokens of a text.
-/

namespace ApiOutline.Toml

/-- A token of a TOML text. -/
inductive Token where
  /-- Characters of keys, numbers and dates, as many as stand together. -/
  | word (chars : List Char)
  /-- A text in quotation marks; `long` if it may go over several lines. -/
  | text (s : String) (long : Bool)
  | equals
  | comma
  | openBracket
  | closeBracket
  | openBrace
  | closeBrace
  | newLine
  /-- Anything that is no token. -/
  | stray
  deriving DecidableEq, Repr

/-- What stands between a token and the one before it. -/
inductive Gap where
  | nothing
  /-- One space. -/
  | space
  /-- Any other blanks. -/
  | blanks
  deriving DecidableEq, Repr

/-- The gap with one more blank. -/
def Gap.add (c : Char) : Gap → Gap
  | nothing => if c = ' ' then space else blanks
  | space | blanks => blanks

/-- A token with the gap before it. -/
structure Lexeme where
  gap : Gap
  token : Token
  deriving DecidableEq, Repr

/-- Whether `c` belongs to a word. -/
def isWordChar (c : Char) : Bool :=
  isBare c || c = '+' || c = '.' || c = ':'

/-- The token that `c` is on its own. -/
def punctuation? (c : Char) : Option Token :=
  if c = '=' then some .equals
  else if c = ',' then some .comma
  else if c = '[' then some .openBracket
  else if c = ']' then some .closeBracket
  else if c = '\x7b' then some .openBrace
  else if c = '\x7d' then some .closeBrace
  else if c = '\n' then some .newLine
  else none

/-! ## Texts in quotation marks -/

/-- What has been read of a text in quotation marks. -/
structure TextScan where
  /-- What stands before it. -/
  gap : Gap
  /-- The quotation mark. -/
  mark : Char
  long : Bool
  /-- The characters so far, last one first. -/
  chars : List Char
  deriving DecidableEq, Repr

namespace TextScan

/-- Whether a backslash begins an escape. -/
def hasEscapes (t : TextScan) : Bool :=
  t.mark = '"'

/-- Adds a character. -/
def push (t : TextScan) (c : Char) : TextScan :=
  { t with chars := c :: t.chars }

/-- Adds so many quotation marks. -/
def pushMarks (t : TextScan) (n : Nat) : TextScan :=
  { t with chars := List.replicate n t.mark ++ t.chars }

/-- The finished text. -/
def close (t : TextScan) : Lexeme :=
  ⟨t.gap, .text (String.ofList t.chars.reverse) t.long⟩

end TextScan

/-- What a line break inside a text comes to. -/
inductive Break where
  /-- It is a character. -/
  | kept
  /-- It is left out, being the first thing in the text. -/
  | dropped
  /-- It is left out with all blanks and line breaks after it, for a backslash stands before it. -/
  | folded
  deriving DecidableEq, Repr

/-- The place in a text in quotation marks. -/
inductive Place where
  /-- At the beginning of a long text. -/
  | fresh
  /-- Between two characters. -/
  | inside
  /-- After so many quotation marks in a long text. -/
  | marks (n : Nat)
  /-- After a backslash. -/
  | escape
  /-- In a hexadecimal escape with `left` digits to come. -/
  | hex (left value : Nat)
  /-- After a backslash and blanks; `broken` once there has been a line break. -/
  | fold (broken : Bool)
  /-- After a carriage return. -/
  | carriage (b : Break)
  deriving DecidableEq, Repr

/-- The character that a backslash and `c` stand for. -/
def unescape? (c : Char) : Option Char :=
  if c = '"' ∨ c = '\\' then some c
  else if c = 'b' then some '\x08'
  else if c = 't' then some '\t'
  else if c = 'n' then some '\n'
  else if c = 'f' then some '\x0c'
  else if c = 'r' then some '\r'
  else none

/-- The value of a hexadecimal digit. -/
def hexValue? (c : Char) : Option Nat :=
  if '0' ≤ c ∧ c ≤ '9' then some (c.toNat - 48)
  else if 'a' ≤ c ∧ c ≤ 'f' then some (c.toNat - 87)
  else if 'A' ≤ c ∧ c ≤ 'F' then some (c.toNat - 55)
  else none

/-! ## The machine -/

/-- A state of the machine. -/
inductive Lexer where
  /-- Between two tokens. -/
  | idle (gap : Gap)
  /-- In a word, whose characters are kept last one first. -/
  | word (gap : Gap) (chars : List Char)
  | comment
  /-- After a carriage return. -/
  | carriage
  /-- After one or two quotation marks that may begin a long text. -/
  | opening (gap : Gap) (mark : Char) (second : Bool)
  | text (t : TextScan) (place : Place)
  /-- After something that is no token. -/
  | stopped
  deriving DecidableEq, Repr

namespace Lexer

/-- Something that is no token. -/
def stray : List Lexeme × Lexer :=
  ([⟨.nothing, .stray⟩], stopped)

/-- A step between two tokens. -/
def stepIdle (gap : Gap) (c : Char) : List Lexeme × Lexer :=
  match punctuation? c with
  | some t => ([⟨gap, t⟩], idle .nothing)
  | none =>
    if isGap c then ([], idle (gap.add c))
    else if isWordChar c then ([], word gap [c])
    else if c = '"' ∨ c = '\'' then ([], opening gap c false)
    else if c = '#' then ([], comment)
    else if c = '\r' then ([], carriage)
    else stray

/-- A finished token, and a step after it. -/
def andIdle (l : Lexeme) (c : Char) : List Lexeme × Lexer :=
  let (ls, next) := stepIdle .nothing c
  (l :: ls, next)

/-- A step between two characters of a text. -/
def stepInside (t : TextScan) (c : Char) : List Lexeme × Lexer :=
  if c = t.mark then
    if t.long then ([], text t (.marks 1)) else ([t.close], idle .nothing)
  else if c = '\\' ∧ t.hasEscapes then ([], text t .escape)
  else if isPlain c then ([], text (t.push c) .inside)
  else if t.long ∧ c = '\n' then ([], text (t.push c) .inside)
  else if t.long ∧ c = '\r' then ([], text t (.carriage .kept))
  else stray

/-- A step after `n` quotation marks in a long text.  Three of them end it, up to two more before
these belong to it. -/
def stepMarks (t : TextScan) (n : Nat) (c : Char) : List Lexeme × Lexer :=
  if c = t.mark then
    if n = 4 then ([(t.pushMarks 2).close], idle .nothing) else ([], text t (.marks (n + 1)))
  else if 3 ≤ n then andIdle (t.pushMarks (n - 3)).close c
  else stepInside (t.pushMarks n) c

/-- A step after a backslash and blanks. -/
def stepFold (t : TextScan) (broken : Bool) (c : Char) : List Lexeme × Lexer :=
  if isGap c then ([], text t (.fold broken))
  else if c = '\n' then ([], text t (.fold true))
  else if c = '\r' then ([], text t (.carriage .folded))
  else if broken then stepInside t c
  else stray

/-- A step after a backslash. -/
def stepEscape (t : TextScan) (c : Char) : List Lexeme × Lexer :=
  match unescape? c with
  | some d => ([], text (t.push d) .inside)
  | none =>
    if c = 'u' then ([], text t (.hex 4 0))
    else if c = 'U' then ([], text t (.hex 8 0))
    else if t.long then stepFold t false c
    else stray

/-- A step in a hexadecimal escape. -/
def stepHex (t : TextScan) (left value : Nat) (c : Char) : List Lexeme × Lexer :=
  match hexValue? c with
  | none => stray
  | some d =>
    let n := 16 * value + d
    if 1 < left then ([], text t (.hex (left - 1) n))
    else if n.isValidChar then ([], text (t.push (Char.ofNat n)) .inside)
    else stray

/-- A step in a text. -/
def stepText (t : TextScan) (c : Char) : Place → List Lexeme × Lexer
  | .fresh =>
    if c = '\n' then ([], text t .inside)
    else if c = '\r' then ([], text t (.carriage .dropped))
    else stepInside t c
  | .inside => stepInside t c
  | .marks n => stepMarks t n c
  | .escape => stepEscape t c
  | .hex left value => stepHex t left value c
  | .fold broken => stepFold t broken c
  | .carriage b =>
    if c ≠ '\n' then stray
    else
      match b with
      | .kept => ([], text (t.push c) .inside)
      | .dropped => ([], text t .inside)
      | .folded => ([], text t (.fold true))

/-- A step after quotation marks that may begin a long text. -/
def stepOpening (gap : Gap) (mark : Char) (second : Bool) (c : Char) : List Lexeme × Lexer :=
  match second with
  | false =>
    if c = mark then ([], opening gap mark true) else stepInside ⟨gap, mark, false, []⟩ c
  | true =>
    if c = mark then ([], text ⟨gap, mark, true, []⟩ .fresh) else andIdle ⟨gap, .text "" false⟩ c

/-- A step of the machine: the tokens that the character completes, and the next state. -/
def step : Lexer → Char → List Lexeme × Lexer
  | idle gap, c => stepIdle gap c
  | word gap chars, c =>
    if isWordChar c then ([], word gap (c :: chars)) else andIdle ⟨gap, .word chars.reverse⟩ c
  | comment, c =>
    if isPlain c then ([], comment) else if c = '\n' ∨ c = '\r' then stepIdle .nothing c else stray
  | carriage, c => if c = '\n' then stepIdle .nothing c else stray
  | opening gap mark second, c => stepOpening gap mark second c
  | text t place, c => stepText t c place
  | stopped, _ => ([], stopped)

/-- The tokens completed by the end of the text. -/
def finish : Lexer → List Lexeme
  | idle _ | comment | stopped => []
  | word gap chars => [⟨gap, .word chars.reverse⟩]
  | opening gap _ true => [⟨gap, .text "" false⟩]
  | text t (.marks n) => if 3 ≤ n then [(t.pushMarks (n - 3)).close] else [⟨.nothing, .stray⟩]
  | carriage | opening _ _ false | text _ _ => [⟨.nothing, .stray⟩]

/-- The tokens of the rest of a text, from a state on. -/
def scanFrom : Lexer → List Char → List Lexeme
  | state, [] => state.finish
  | state, c :: rest =>
    let (lexemes, next) := state.step c
    lexemes ++ scanFrom next rest

end Lexer

/-- The tokens of a text. -/
def Lexeme.scan (text : List Char) : List Lexeme :=
  (Lexer.idle .nothing).scanFrom text

end ApiOutline.Toml
