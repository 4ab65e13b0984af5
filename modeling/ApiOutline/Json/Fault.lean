/-!
# Faults of JSON texts

What is wrong with a text that is not JSON: either it ends too early, or it goes on in a way that no
JSON text does.

* `Fault`: the faults, with their wording in `Fault.message`.
* `Fault.isTruncation`: whether a text with the fault may be the beginning of a JSON text.
-/

namespace ApiOutline.Json

/-- What is wrong with a text that is not JSON. -/
inductive Fault where
  /-- The text ends where a value is due, or inside one. -/
  | endInValue
  | endInList
  | endInObject
  | endInText
  | expectedValue
  | expectedColon
  /-- There is neither a comma nor the end of a list. -/
  | expectedListEnd
  /-- There is neither a comma nor the end of an object. -/
  | expectedObjectEnd
  /-- A word breaks off that begins like one. -/
  | expectedWord
  | invalidEscape
  | invalidNumber
  /-- A number is too large for a floating point number. -/
  | numberRange
  /-- Bytes are part of no character. -/
  | invalidCharacter
  | controlCharacter
  | keyNotText
  /-- Half a surrogate pair has no other half. -/
  | loneSurrogate
  /-- Half a surrogate pair is not followed by an escape. -/
  | unfinishedSurrogate
  | trailingComma
  | trailingText
  /-- Containers are nested too deeply. -/
  | tooDeep
  deriving DecidableEq, Repr

namespace Fault

/-- Whether the text ends too early. -/
def isTruncation : Fault → Bool
  | endInValue | endInList | endInObject | endInText => true
  | _ => false

/-- The wording of a fault. -/
def message : Fault → String
  | endInValue => "EOF while parsing a value"
  | endInList => "EOF while parsing a list"
  | endInObject => "EOF while parsing an object"
  | endInText => "EOF while parsing a string"
  | expectedValue => "expected value"
  | expectedColon => "expected `:`"
  | expectedListEnd => "expected `,` or `]`"
  | expectedObjectEnd => "expected `,` or `\x7d`"
  | expectedWord => "expected ident"
  | invalidEscape => "invalid escape"
  | invalidNumber => "invalid number"
  | numberRange => "number out of range"
  | invalidCharacter => "invalid unicode code point"
  | controlCharacter => "control character (\\u0000-\\u001F) found while parsing a string"
  | keyNotText => "key must be a string"
  | loneSurrogate => "lone leading surrogate in hex escape"
  | unfinishedSurrogate => "unexpected end of hex escape"
  | trailingComma => "trailing comma"
  | trailingText => "trailing characters"
  | tooDeep => "recursion limit exceeded"

end Fault

end ApiOutline.Json
