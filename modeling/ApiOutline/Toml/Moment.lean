import ApiOutline.Decimal.Reading

/-!
# Dates and times

A date has the form `1979-05-27`, a time the form `07:32:00.5`.  A date may be followed by a time, and
then by the distance from universal time.  Dates have to be in the calendar, and a minute may have a
leap second.  The one written form kept of each has a `T` between date and time, a `Z` for universal
time, and no zeros at the end of a fraction of at most nine digits.

* `ofWord?`: a date or a time written as one word.
* `ofWords?`: a date and a time written as two words.
* `ofText?`: a date or a time given as a text.
-/

namespace ApiOutline.Toml.Moment

open Decimal

/-- The value of digits, if all of them are. -/
def number? (digits : List Char) : Option Nat :=
  if digits.all Char.isDigit then some (valueOf digits) else none

/-- The number of days of a month. -/
def daysOf (year month : Nat) : Nat :=
  if month = 2 then
    if (year % 4 = 0 ∧ year % 100 ≠ 0) ∨ year % 400 = 0 then 29 else 28
  else if month = 4 ∨ month = 6 ∨ month = 9 ∨ month = 11 then 30
  else 31

/-- Whether the text is a date of the calendar. -/
def isDate : List Char → Bool
  | [a, b, c, d, '-', e, f, '-', g, h] =>
    match number? [a, b, c, d], number? [e, f], number? [g, h] with
    | some year, some month, some day =>
      1 ≤ month && month ≤ 12 && 1 ≤ day && day ≤ daysOf year month
    | _, _, _ => false
  | _ => false

/-- Whether two digits write a number up to `limit`. -/
def upTo (limit : Nat) (a b : Char) : Bool :=
  (number? [a, b]).any (· ≤ limit)

/-- Digits without the zeros at their end. -/
def withoutLastZeros (digits : List Char) : List Char :=
  (digits.reverse.dropWhile (· = '0')).reverse

/-- A time of the day, and what follows it. -/
def time? : List Char → Option (List Char × List Char)
  | h :: h' :: ':' :: m :: m' :: ':' :: s :: s' :: rest =>
    if upTo 23 h h' && upTo 59 m m' && upTo 60 s s' then
      let clock := [h, h', ':', m, m', ':', s, s']
      match rest with
      | '.' :: rest =>
        let digits := rest.takeWhile Char.isDigit
        let kept := withoutLastZeros (digits.take 9)
        if digits.isEmpty then none
        else
          some (clock ++ (if kept.isEmpty then [] else '.' :: kept), rest.dropWhile Char.isDigit)
      | _ => some (clock, rest)
    else
      none
  | _ => none

/-- The distance from universal time; there may be none. -/
def offset? : List Char → Option (List Char)
  | [] => some []
  | ['Z'] | ['z'] => some ['Z']
  | [sign, h, h', ':', m, m'] =>
    if (sign = '+' || sign = '-') && upTo 23 h h' && upTo 59 m m' then
      let isZero := [h, h', m, m'].all (· = '0')
      some [if isZero then '+' else sign, h, h', ':', m, m']
    else
      none
  | _ => none

/-- A time with the distance from universal time. -/
def timeAndOffset? (text : List Char) : Option (List Char) := do
  let (clock, rest) ← time? text
  let offset ← offset? rest
  return clock ++ offset

/-- A date and a time, written as two words. -/
def ofWords? (date time : List Char) : Option String :=
  if isDate date then
    (timeAndOffset? time).map fun t => String.ofList (date ++ 'T' :: t)
  else
    none

/-- A time without a date. -/
def timeOnly? (text : List Char) : Option String :=
  match time? text with
  | some (clock, []) => some (String.ofList clock)
  | _ => none

/-- A date or a time, or both, written as one word. -/
def ofWord? (word : List Char) : Option String :=
  if isDate word then some (String.ofList word)
  else
    match word.drop 10 with
    | 'T' :: time | 't' :: time => ofWords? (word.take 10) time
    | _ => timeOnly? word

/-- A date or a time, or both, given as a text, in which a blank may stand between them. -/
def ofText? (text : List Char) : Option String :=
  match text.drop 10 with
  | ' ' :: time => ofWords? (text.take 10) time
  | _ => ofWord? text

end ApiOutline.Toml.Moment
