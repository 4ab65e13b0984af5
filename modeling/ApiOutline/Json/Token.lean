import ApiOutline.Json.Fault
import ApiOutline.Json.Numeral
import ApiOutline.Text.Utf8

/-!
# Tokens of JSON texts

A JSON text is cut into tokens by a machine that looks at each symbol once.  A fault is a token as
well, and the last one: what comes after it is not looked at.

Some tokens can be passed over although they cannot be read.  A string with half a surrogate pair or
with stray bytes is no text, but its end is plain; a number that breaks off is unfinished to a reader
and wrong to one who only passes over it.  Such a token carries the fault of either.

* `Token`: the tokens.
* `Lexer`: the states of the machine.
* `Token.scan`: the tokens of a text.
-/

namespace ApiOutline.Json

open Text

/-- A token of a JSON text. -/
inductive Token where
  | openArray
  | closeArray
  | openObject
  | closeObject
  | comma
  | colon
  | null
  | bool (b : Bool)
  | number (n : Numeral)
  | text (s : String)
  /-- A string that cannot be read; `skip` is the fault met when it is passed over, if any. -/
  | badText (read : Fault) (skip : Option Fault)
  /-- Anything else that cannot be read. -/
  | bad (read skip : Fault)
  deriving DecidableEq, Repr

/-! ## Strings -/

/-- What has been read of a string. -/
structure TextScan where
  /-- The characters so far, last one first. -/
  chars : List Char
  /-- The first half of a surrogate pair, when its second half is due. -/
  high : Option Nat
  /-- The fault of the first half of a surrogate pair that has come without the other. -/
  lone : Option Fault
  /-- Whether bytes have been met that are part of no character. -/
  garbled : Bool
  deriving DecidableEq, Repr

namespace TextScan

/-- A string of which nothing has been read. -/
def start : TextScan := ⟨[], none, none, false⟩

/-- Gives up a half pair after which `f` is found instead of the second half. -/
def giveUp (t : TextScan) (f : Fault) : TextScan :=
  { t with high := none, lone := t.lone.or (t.high.map fun _ => f) }

/-- Gives up a half pair whose second half has not come. -/
def settle (t : TextScan) : TextScan :=
  t.giveUp .unfinishedSurrogate

/-- Adds a character. -/
def push (t : TextScan) (c : Char) : TextScan :=
  let t := t.settle
  { t with chars := c :: t.chars }

/-- Adds a byte that is part of no character. -/
def pushGarbage (t : TextScan) : TextScan :=
  { t.settle with garbled := true }

/-- Adds a 16-bit unit written as an escape. -/
def pushUnit (t : TextScan) (n : Nat) : TextScan :=
  match t.high with
  | some high =>
    if 0xdc00 ≤ n ∧ n ≤ 0xdfff then
      let code := 0x10000 + (high - 0xd800) * 0x400 + (n - 0xdc00)
      { t with chars := Char.ofNat code :: t.chars, high := none }
    else
      t.giveUp .loneSurrogate
  | none =>
    if 0xdc00 ≤ n ∧ n ≤ 0xdfff then { t with lone := t.lone.or (some .loneSurrogate) }
    else if 0xd800 ≤ n ∧ n ≤ 0xdbff then { t with high := some n }
    else { t with chars := Char.ofNat n :: t.chars }

/-- The token of a string that has come to its end. -/
def close (t : TextScan) : Token :=
  match t.settle.lone with
  | some f => .badText f none
  | none =>
    if t.garbled then .badText .invalidCharacter none
    else .text (String.ofList t.chars.reverse)

/-- The token of a string that breaks off with the fault `f`. -/
def cut (t : TextScan) (f : Fault) : Token :=
  let met := if f.isTruncation then t.lone else t.settle.lone
  .badText (met.getD f) (some f)

end TextScan

/-- The value of a hexadecimal digit. -/
def hexValue? (c : Char) : Option Nat :=
  if '0' ≤ c ∧ c ≤ '9' then some (c.toNat - 48)
  else if 'a' ≤ c ∧ c ≤ 'f' then some (c.toNat - 87)
  else if 'A' ≤ c ∧ c ≤ 'F' then some (c.toNat - 55)
  else none

/-- The character that a backslash and `c` stand for. -/
def unescape? (c : Char) : Option Char :=
  if c = '"' ∨ c = '\\' ∨ c = '/' then some c
  else if c = 'b' then some '\x08'
  else if c = 'f' then some '\x0c'
  else if c = 'n' then some '\n'
  else if c = 'r' then some '\r'
  else if c = 't' then some '\t'
  else none

/-! ## The machine -/

/-- The place in a number. -/
inductive Place where
  | minus | zero | whole | point | fraction | mark | sign | exponent
  deriving DecidableEq, Repr

/-- A state of the machine. -/
inductive Lexer where
  /-- Between two tokens. -/
  | idle
  /-- Inside a word; `rest` is what it still needs. -/
  | word (token : Token) (rest : List Char)
  /-- Inside a number, whose digits are kept last one first. -/
  | number (place : Place) (n : Numeral)
  /-- Inside a string. -/
  | text (t : TextScan)
  /-- After a backslash. -/
  | escape (t : TextScan)
  /-- Inside a hexadecimal escape of which `bytes` bytes with the value `n` have been read. -/
  | hex (t : TextScan) (bytes n : Nat) (wrong : Bool)
  /-- After a fault. -/
  | stopped

/-- Whether `c` is white space between tokens. -/
def isGap (c : Char) : Bool :=
  c = ' ' || c = '\n' || c = '\t' || c = '\r'

/-- A number whose digits stand in their order. -/
def Numeral.turned (n : Numeral) : Numeral :=
  ⟨n.negative, n.whole.reverse, n.fraction.reverse, n.exponent.map fun e => (e.1, e.2.reverse)⟩

namespace Lexer

/-- The token of something that has the fault `f` for any reader. -/
def fail (f : Fault) : List Token × Lexer :=
  ([.bad f f], stopped)

/-- The token of a stray symbol. -/
def stray : List Token × Lexer :=
  fail .expectedValue

/-- A step between two tokens. -/
def stepIdle : Symbol → List Token × Lexer
  | none => stray
  | some c =>
    if isGap c then ([], idle)
    else if c = '[' then ([.openArray], idle)
    else if c = ']' then ([.closeArray], idle)
    else if c = '\x7b' then ([.openObject], idle)
    else if c = '\x7d' then ([.closeObject], idle)
    else if c = ',' then ([.comma], idle)
    else if c = ':' then ([.colon], idle)
    else if c = '"' then ([], text .start)
    else if c = '-' then ([], number .minus ⟨true, [], [], none⟩)
    else if c = '0' then ([], number .zero ⟨false, ['0'], [], none⟩)
    else if c.isDigit then ([], number .whole ⟨false, [c], [], none⟩)
    else if c = 'n' then ([], word .null ['u', 'l', 'l'])
    else if c = 't' then ([], word (.bool true) ['r', 'u', 'e'])
    else if c = 'f' then ([], word (.bool false) ['a', 'l', 's', 'e'])
    else stray

/-- The state after `c` inside a number, if `c` continues it. -/
def inNumber? (place : Place) (n : Numeral) (c : Char) : Option Lexer :=
  let addWhole := { n with whole := c :: n.whole }
  let addFraction := { n with fraction := c :: n.fraction }
  let addExponent :=
    { n with exponent := n.exponent.map fun e => (e.1, c :: e.2) }
  let isMark := c = 'e' ∨ c = 'E'
  let marked := some (number .mark { n with exponent := some (false, []) })
  match place with
  | .minus =>
    if c = '0' then some (number .zero addWhole)
    else if c.isDigit then some (number .whole addWhole)
    else none
  | .zero =>
    if c = '.' then some (number .point n) else if isMark then marked else none
  | .whole =>
    if c.isDigit then some (number .whole addWhole)
    else if c = '.' then some (number .point n)
    else if isMark then marked
    else none
  | .point =>
    if c.isDigit then some (number .fraction addFraction) else none
  | .fraction =>
    if c.isDigit then some (number .fraction addFraction) else if isMark then marked else none
  | .mark =>
    if c = '+' then some (number .sign n)
    else if c = '-' then some (number .sign { n with exponent := some (true, []) })
    else if c.isDigit then some (number .exponent addExponent)
    else none
  | .sign | .exponent =>
    if c.isDigit then some (number .exponent addExponent) else none

/-- Whether a number may end at this place, before `next`: a zero is not followed by a digit. -/
def mayEnd (place : Place) (next : Symbol) : Bool :=
  match place with
  | .zero => !next.any Char.isDigit
  | .whole | .fraction | .exponent => true
  | .minus | .point | .mark | .sign => false

/-- A step inside a number.  A symbol that does not continue it ends it and is looked at again. -/
def stepNumber (place : Place) (n : Numeral) (x : Symbol) : List Token × Lexer :=
  match x.bind (inNumber? place n) with
  | some next => ([], next)
  | none =>
    if mayEnd place x then
      let (tokens, next) := stepIdle x
      (.number n.turned :: tokens, next)
    else
      fail .invalidNumber

/-- A step inside a string. -/
def stepText (t : TextScan) : Symbol → List Token × Lexer
  | none => ([], text t.pushGarbage)
  | some c =>
    if c = '"' then ([t.close], idle)
    else if c = '\\' then ([], escape t)
    else if c.toNat < 32 then ([t.cut .controlCharacter], stopped)
    else ([], text (t.push c))

/-- A step after a backslash. -/
def stepEscape (t : TextScan) : Symbol → List Token × Lexer
  | none => ([t.cut .invalidEscape], stopped)
  | some c =>
    if c = 'u' then ([], hex t 0 0 false)
    else
      match unescape? c with
      | some d => ([], text (t.push d))
      | none => ([t.cut .invalidEscape], stopped)

/-- A step inside a hexadecimal escape, which is judged once four bytes of it have come. -/
def stepHex (t : TextScan) (bytes n : Nat) (wrong : Bool) (x : Symbol) : List Token × Lexer :=
  let bytes := bytes + Symbol.width x
  let (n, wrong) :=
    match x.bind hexValue? with
    | some d => (16 * n + d, wrong)
    | none => (n, true)
  if bytes < 4 then ([], hex t bytes n wrong)
  else if wrong then ([t.cut .invalidEscape], stopped)
  else ([], text (t.pushUnit n))

/-- A step of the machine: the tokens that the symbol completes, and the next state. -/
def step : Lexer → Symbol → List Token × Lexer
  | idle, x => stepIdle x
  | word token rest, x =>
    match rest with
    | [] => fail .expectedWord
    | [c] => if x = some c then ([token], idle) else fail .expectedWord
    | c :: rest => if x = some c then ([], word token rest) else fail .expectedWord
  | number place n, x => stepNumber place n x
  | text t, x => stepText t x
  | escape t, x => stepEscape t x
  | hex t bytes n wrong, x => stepHex t bytes n wrong x
  | stopped, _ => ([], stopped)

/-- The tokens completed by the end of the text. -/
def finish : Lexer → List Token
  | idle => []
  | word _ _ => [.bad .endInValue .endInValue]
  | number place n =>
    if mayEnd place none then [.number n.turned] else [.bad .endInValue .invalidNumber]
  | text t => [t.cut .endInText]
  | escape t => [t.cut .endInText]
  | hex t _ _ _ => [t.cut .endInText]
  | stopped => []

/-- The tokens of the rest of a text, from a state on. -/
def scanFrom : Lexer → List Symbol → List Token
  | state, [] => state.finish
  | state, x :: rest =>
    let (tokens, next) := state.step x
    tokens ++ scanFrom next rest

end Lexer

/-- The tokens of a text. -/
def Token.scan (text : List Symbol) : List Token :=
  Lexer.idle.scanFrom text

end ApiOutline.Json
