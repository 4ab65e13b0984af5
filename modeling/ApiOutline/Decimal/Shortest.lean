/-!
# Shortest decimals of binary numbers

A positive binary number stands for every real that rounds to it.  Its shortest decimal is the one
with the fewest digits among those reals, and the nearest to the number among several.

The search goes through the decimal grids from coarse to fine.  On each it looks at the two grid
points around the number, in exact arithmetic on naturals.

* `Binary.ofBits`: significand and exponent of a 64-bit word.
* `Binary.admits`: whether a decimal rounds to the number.
* `Binary.shortest`: the shortest decimal.
-/

namespace ApiOutline.Decimal

/-- The number `digits · 10 ^ exponent`. -/
structure Scaled where
  digits : Nat
  exponent : Int
  deriving DecidableEq, Repr

/-- The number `significand · 2 ^ exponent`. -/
structure Binary where
  significand : Nat
  exponent : Int
  /-- Whether the next number below is half as far away as the next one above. -/
  narrowBelow : Bool
  deriving DecidableEq, Repr

/-- The magnitude of a finite 64-bit number. -/
def Binary.ofBits (bits : UInt64) : Binary :=
  let biased := ((bits >>> 52) &&& 0x7ff).toNat
  let fraction := (bits &&& 0xfffffffffffff).toNat
  if biased = 0 then ⟨fraction, -1074, false⟩
  else ⟨Nat.pow 2 52 + fraction, (biased : Int) - 1075, fraction == 0 && biased > 1⟩

/-- What to do when two decimals of one length are equally near. -/
inductive Tie where
  | toEven
  | up
  deriving DecidableEq, Repr

/-- The sign of `a · 10 ^ i - b · 2 ^ j`. -/
def compareScaled (a : Nat) (i : Int) (b : Nat) (j : Int) : Ordering :=
  compare (a * Nat.pow 10 i.toNat * Nat.pow 2 (-j).toNat)
    (b * Nat.pow 2 j.toNat * Nat.pow 10 (-i).toNat)

/-- Whether the decimal `d` rounds to `x`.  The middle between two neighbours rounds to the one with
the even significand. -/
def Binary.admits (x : Binary) (d : Scaled) : Bool :=
  let below := if x.narrowBelow then 4 * x.significand - 1 else 4 * x.significand - 2
  let above := 4 * x.significand + 2
  let even := x.significand % 2 == 0
  let low := compareScaled d.digits d.exponent below (x.exponent - 2)
  let high := compareScaled d.digits d.exponent above (x.exponent - 2)
  (low == .gt || (even && low == .eq)) && (high == .lt || (even && high == .eq))

/-- The grid point at or below `x` on the grid with step `10 ^ step`. -/
def Binary.floorOn (x : Binary) (step : Int) : Nat :=
  (x.significand * Nat.pow 2 x.exponent.toNat * Nat.pow 10 (-step).toNat)
    / (Nat.pow 2 (-x.exponent).toNat * Nat.pow 10 step.toNat)

/-- The shortest decimal on the grid with step `10 ^ step`, if one there rounds to `x`. -/
def Binary.onGrid? (x : Binary) (tie : Tie) (step : Int) : Option Scaled :=
  let low := x.floorOn step
  let down : Scaled := ⟨low, step⟩
  let up : Scaled := ⟨low + 1, step⟩
  match x.admits down, x.admits up with
  | true, true =>
    match compareScaled (2 * low + 1) step (2 * x.significand) x.exponent, tie with
    | .gt, _ => some down
    | .lt, _ => some up
    | .eq, .up => some up
    | .eq, .toEven => some (if low % 2 = 0 then down else up)
  | true, false => some down
  | false, true => some up
  | false, false => none

/-- The exponent of the leading decimal digit of `x`, searched downwards from `start`. -/
def Binary.leading (x : Binary) : Nat → Int → Int
  | 0, start => start
  | fuel + 1, start => if x.floorOn start = 0 then x.leading fuel (start - 1) else start

/-- A decimal without zeros at the end of its digits. -/
def Scaled.strip : Nat → Scaled → Scaled
  | 0, d => d
  | fuel + 1, d =>
    if d.digits ≠ 0 ∧ d.digits % 10 = 0 then strip fuel ⟨d.digits / 10, d.exponent + 1⟩ else d

/-- The shortest decimal that rounds to `x`; seventeen digits always suffice. -/
def Binary.shortest (x : Binary) (tie : Tie) : Scaled :=
  let top := x.leading 640 309
  let found := (List.range 17).findSome? fun (n : Nat) => x.onGrid? tie (top - n)
  (found.getD ⟨x.floorOn (top - 16), top - 16⟩).strip 20

/-! ## Layout -/

/-- The digits of a natural number, most significant first. -/
def digitsOf (n : Nat) : List Char :=
  Nat.toDigits 10 n

/-- A decimal in positional notation; `wholeMark` is appended to a whole number. -/
def Scaled.positional (d : Scaled) (wholeMark : String) : String :=
  let ds := digitsOf d.digits
  if 0 ≤ d.exponent then
    String.ofList (ds ++ List.replicate d.exponent.toNat '0') ++ wholeMark
  else
    let places := (-d.exponent).toNat
    let ds := List.replicate (places + 1 - ds.length) '0' ++ ds
    String.ofList (ds.take (ds.length - places)) ++ "."
      ++ String.ofList (ds.drop (ds.length - places))

/-- A decimal with one digit before the point and an exponent, which has a sign. -/
def Scaled.scientific (d : Scaled) : String :=
  let ds := digitsOf d.digits
  let exponent := d.exponent + (ds.length : Int) - 1
  let tail := ds.drop 1
  String.ofList (ds.take 1) ++ (if tail.isEmpty then "" else "." ++ String.ofList tail)
    ++ (if 0 ≤ exponent then "e+" else "e") ++ toString exponent

/-- A finite number with a point at all times: positional where the leading digit stands at places
-5 to 15, scientific elsewhere. -/
def pointed (x : Float) : String :=
  let sign := if x.toBits >>> 63 = 1 then "-" else ""
  let b := Binary.ofBits x.toBits
  if b.significand = 0 then sign ++ "0.0"
  else
    let d := b.shortest .toEven
    let place := d.exponent + ((digitsOf d.digits).length : Int) - 1
    if -5 ≤ place ∧ place < 16 then sign ++ d.positional ".0" else sign ++ d.scientific

/-- A number in positional notation at all times, whole numbers without a point. -/
def plain (x : Float) : String :=
  if x.isNaN then "NaN"
  else
    let sign := if x.toBits >>> 63 = 1 then "-" else ""
    if x.isInf then sign ++ "inf"
    else
      let b := Binary.ofBits x.toBits
      if b.significand = 0 then sign ++ "0" else sign ++ (b.shortest .up).positional ""

end ApiOutline.Decimal
