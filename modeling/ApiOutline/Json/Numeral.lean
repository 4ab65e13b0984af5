import ApiOutline.Decimal.Shortest

/-!
# JSON numbers

A number as it is written, and the value it stands for: a natural number or a negative integer of
64 bits where it has no fraction and no exponent, a floating point number elsewhere.  A number too
large for a floating point number has no value.

* `Numeral.value`: the value of a written number.
* `Quantity.describe`: a value as it is named in a message.
-/

namespace ApiOutline.Json

/-- A number as it is written. -/
structure Numeral where
  negative : Bool
  whole : List Char
  /-- The digits after the point; empty where there is no point. -/
  fraction : List Char
  /-- The exponent: whether it is negative, and its digits. -/
  exponent : Option (Bool × List Char)
  deriving DecidableEq, Repr

/-- The value of a number. -/
inductive Quantity where
  | natural (n : Nat)
  | negative (i : Int)
  | floating (x : Float)
  | tooLarge

/-- The value of a digit. -/
def digitValue (c : Char) : Nat :=
  c.toNat - '0'.toNat

/-- The natural number that a list of digits writes. -/
def naturalOf (digits : List Char) : Nat :=
  digits.foldl (fun n c => 10 * n + digitValue c) 0

namespace Numeral

/-- The greatest 64-bit natural number. -/
def wordMax : Nat := Nat.pow 2 64 - 1

/-- Reads digits into a 64-bit significand as long as it can hold them; with it come the digits
that are left. -/
def fill (significand : Nat) : List Char → Nat × List Char
  | [] => (significand, [])
  | c :: rest =>
    let next := 10 * significand + digitValue c
    if next ≤ wordMax then fill next rest else (significand, c :: rest)

/-- `x · 10 ^ exponent`, in steps of at most 308 places, or `none` beyond the range. -/
def scale : Nat → Float → Int → Option Float
  | 0, x, _ => some x
  | fuel + 1, x, exponent =>
    if exponent.natAbs ≤ 308 then
      let power := Float.ofScientific 1 false exponent.natAbs
      if 0 ≤ exponent then
        let y := x * power
        if y.isInf then none else some y
      else
        some (x / power)
    else if x == 0.0 then some x
    else if 0 ≤ exponent then none
    else scale fuel (x / 1e308) (exponent + 308)

/-- The floating point value of a number.  Its significand holds the leading digits that fit into 64
bits; further whole digits count as places, and further decimals are left out. -/
def floatingValue (n : Numeral) : Quantity :=
  let (head, further) := fill 0 n.whole
  let (significand, unread) := fill head n.fraction
  let places : Int := (further.length : Int) - ((n.fraction.length - unread.length : Nat) : Int)
  let exponent : Option Int :=
    match n.exponent with
    | none => some places
    | some (down, digits) =>
      let e := naturalOf digits
      if e < Nat.pow 2 31 then some (if down then places - e else places + e)
      else if significand ≠ 0 ∧ !down then none
      else some (-100000)
  match exponent.bind (scale 8 significand.toUInt64.toFloat) with
  | some x => .floating (if n.negative then -x else x)
  | none => .tooLarge

/-- The value of a number. -/
def value (n : Numeral) : Quantity :=
  if n.fraction.isEmpty && n.exponent.isNone then
    let m := naturalOf n.whole
    if !n.negative && m ≤ wordMax then .natural m
    else if n.negative && 0 < m && m ≤ Nat.pow 2 63 then .negative (-m)
    else floatingValue n
  else
    floatingValue n

end Numeral

/-- A value as it is named in a message. -/
def Quantity.describe : Quantity → String
  | natural n => "integer `" ++ toString n ++ "`"
  | negative i => "integer `" ++ toString i ++ "`"
  | floating x => "floating point `" ++ Decimal.pointed x ++ "`"
  | tooLarge => "number"

end ApiOutline.Json
