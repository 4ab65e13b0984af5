import ApiOutline.Decimal.Shortest

/-!
# Reading decimals

A decimal stands for the floating point number nearest to it.  One beyond the range of such numbers
stands for an infinity, one too close to zero for zero.

* `nearest`: the number of given digits and exponent.
* `parse?`: the number of a text.
-/

namespace ApiOutline.Decimal

/-- The natural number that decimal digits write. -/
def valueOf (digits : List Char) : Nat :=
  digits.foldl (fun n c => 10 * n + (c.toNat - '0'.toNat)) 0

/-- The number nearest to `digits · 10 ^ exponent`. -/
def nearest (digits : Nat) (exponent : Int) : Float :=
  let place := exponent + (digitsOf digits).length
  if digits = 0 ∨ place < -400 then 0.0
  else if 400 < place then 1.0 / 0.0
  else Float.ofScientific digits (decide (exponent < 0)) exponent.natAbs

/-- The number nearest to a decimal given by the digits before its point, those after it, and its
exponent. -/
def ofParts (whole fraction : List Char) (exponent : Int) : Float :=
  nearest (valueOf (whole ++ fraction)) (exponent - fraction.length)

/-- A text without its sign, and whether the sign is a minus. -/
def splitSign : List Char → Bool × List Char
  | '-' :: rest => (true, rest)
  | '+' :: rest => (false, rest)
  | text => (false, text)

/-- The text before the first character with `p`, and the text after that character. -/
def splitAt (p : Char → Bool) (text : List Char) : List Char × Option (List Char) :=
  match text.dropWhile fun c => !p c with
  | [] => (text, none)
  | _ :: rest => (text.takeWhile fun c => !p c, some rest)

/-- An exponent: digits after an optional sign. -/
def exponent? (text : List Char) : Option Int :=
  let (down, digits) := splitSign text
  if !digits.isEmpty && digits.all Char.isDigit then
    some (if down then -(valueOf digits) else valueOf digits)
  else
    none

/-- The magnitude of a number written with digits. -/
def magnitude? (text : List Char) : Option Float :=
  let (mantissa, mark) := splitAt (fun c => c = 'e' || c = 'E') text
  let (whole, point) := splitAt (· = '.') mantissa
  let fraction := point.getD []
  if (whole ++ fraction).isEmpty || !(whole ++ fraction).all Char.isDigit then none
  else
    match mark with
    | none => some (ofParts whole fraction 0)
    | some e => (exponent? e).map (ofParts whole fraction)

/-- The number of a text: an optional sign, and digits with at most one point and at most one
exponent, or the name of an infinity or of what is no number. -/
def parse? (text : List Char) : Option Float :=
  let (negative, body) := splitSign text
  let magnitude :=
    match String.ofList (body.map Char.toLower) with
    | "inf" | "infinity" => some (1.0 / 0.0)
    | "nan" => some (0.0 / 0.0)
    | _ => magnitude? body
  magnitude.map fun x => if negative then -x else x

end ApiOutline.Decimal
