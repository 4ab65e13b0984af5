import ApiOutline.Toml.Basic
import ApiOutline.Toml.Moment

/-!
# Words as values

A word in the place of a value is a truth value, an integer, a floating point number, a date or a
time.  Single underscores may stand between the digits of a number.

* `integer?`, `floating?`: numbers.
* `Value.ofWord?`: the value of a word.
-/

namespace ApiOutline.Toml

open Decimal

/-- The digits of a number, without the underscores between them. -/
def ungroup? (isDigit : Char → Bool) : List Char → Option (List Char)
  | [] => none
  | [c] => if isDigit c then some [c] else none
  | c :: '_' :: rest => if isDigit c then (ungroup? isDigit rest).map (c :: ·) else none
  | c :: rest => if isDigit c then (ungroup? isDigit rest).map (c :: ·) else none

/-- Decimal digits that do not begin with a zero, or one zero. -/
def whole? (text : List Char) : Option (List Char) :=
  match ungroup? Char.isDigit text with
  | some ('0' :: _ :: _) => none
  | digits => digits

/-- The value of a digit in any base up to sixteen. -/
def digitValue (c : Char) : Nat :=
  if c.isDigit then c.toNat - 48 else c.toLower.toNat - 87

/-- Whether `c` is a digit in a base up to sixteen. -/
def isDigitOf (base : Nat) (c : Char) : Bool :=
  (c.isDigit || ('a' ≤ c.toLower && c.toLower ≤ 'f')) && digitValue c < base

/-- The natural number that digits of a base write. -/
def naturalIn? (base : Nat) (text : List Char) : Option Nat :=
  (ungroup? (isDigitOf base) text).map fun digits =>
    digits.foldl (fun n c => base * n + digitValue c) 0

/-- The natural number of a word without a sign. -/
def natural? : List Char → Option Nat
  | '0' :: 'x' :: rest => naturalIn? 16 rest
  | '0' :: 'o' :: rest => naturalIn? 8 rest
  | '0' :: 'b' :: rest => naturalIn? 2 rest
  | text => (whole? text).map valueOf

/-- The integer of a word.  Only decimal digits take a sign. -/
def integer? (word : List Char) : Option Int :=
  match word with
  | '-' :: rest => ((whole? rest).map valueOf).map fun n => -(n : Int)
  | '+' :: rest => ((whole? rest).map valueOf).map Int.ofNat
  | _ => (natural? word).map Int.ofNat

/-- The magnitude of a number with a point, an exponent or both. -/
def floatingMagnitude? (text : List Char) : Option Float := do
  let (mantissa, mark) := splitAt (fun c => c = 'e' || c = 'E') text
  let (before, point) := splitAt (· = '.') mantissa
  if mark.isNone && point.isNone then none
  else
    let whole ← whole? before
    let fraction ← match point with
      | none => some []
      | some digits => ungroup? Char.isDigit digits
    let exponent ← match mark with
      | none => some 0
      | some text =>
        let (down, digits) := splitSign text
        (ungroup? Char.isDigit digits).map fun digits =>
          if down then -(valueOf digits : Int) else valueOf digits
    return ofParts whole fraction exponent

/-- The floating point number of a word.  A positive one has to be in the range of such numbers. -/
def floating? (word : List Char) : Option Float :=
  let (negative, body) := splitSign word
  let signed (x : Float) : Float := if negative then -x else x
  if body = ['i', 'n', 'f'] then some (signed (1.0 / 0.0))
  else if body = ['n', 'a', 'n'] then some (signed (0.0 / 0.0))
  else (floatingMagnitude? body).bind fun x => if x.isInf && !negative then none else some (signed x)

/-- The value of a word; an integer has to be one of 64 bits. -/
def Value.ofWord? (word : List Char) : Option Value :=
  if word = ['t', 'r', 'u', 'e'] then some (.bool true)
  else if word = ['f', 'a', 'l', 's', 'e'] then some (.bool false)
  else
    match integer? word with
    | some i => if -(integerMax : Int) - 1 ≤ i ∧ i ≤ integerMax then some (.integer i) else none
    | none =>
      match floating? word with
      | some x => some (.floating x)
      | none => (Moment.ofWord? word).map .moment

end ApiOutline.Toml
