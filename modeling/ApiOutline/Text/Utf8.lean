/-!
# Symbols of byte texts

A byte text is read one symbol at a time.  A symbol is a character in its UTF-8 form, or a byte
that is part of no character.
-/

namespace ApiOutline.Text

/-- A character, or a byte that is part of none. -/
abbrev Symbol := Option Char

/-- The number of bytes of a symbol. -/
def Symbol.width : Symbol → Nat
  | some c => c.utf8Size
  | none => 1

/-- The symbols of `bytes` from byte `i` on. -/
def symbolsFrom (bytes : ByteArray) (i : Nat) : List Symbol :=
  if i < bytes.size then
    match bytes.utf8DecodeChar? i with
    | some c => some c :: symbolsFrom bytes (i + c.utf8Size)
    | none => none :: symbolsFrom bytes (i + 1)
  else
    []
termination_by bytes.size - i
decreasing_by
  · have := c.utf8Size_pos
    omega
  · omega

/-- The symbols of a byte text. -/
def symbolsOfBytes (bytes : ByteArray) : List Symbol :=
  symbolsFrom bytes 0

/-- A byte text as a text; U+FFFD stands for a byte that is part of no character. -/
def textOfBytes (bytes : ByteArray) : String :=
  String.ofList ((symbolsOfBytes bytes).map fun x => x.getD '\uFFFD')

/-- A text without a mark of its byte order. -/
def withoutMark : List Char → List Char
  | '\uFEFF' :: rest => rest
  | text => text

/-- The symbols of a text. -/
def symbolsOfText (s : String) : List Symbol :=
  s.toList.map some

end ApiOutline.Text
