import ApiOutline.Decimal.Reading
import ApiOutline.Text.Case
import ApiOutline.Text.Split
import ApiOutline.Toml.Basic

/-!
# Paths of keys

An outermost key may lead to a place deep inside the settings: its names stand between dots, and an
index in brackets leads to an item of a list, as in `codegen.naming.api_cut[0]`.  Keys are the same if
they agree in lower case, and a path is made of names in lower case.

* `foldKey`: a key in lower case.
* `Step`: the steps of a path.
* `stepsOf?`: the steps that a key is made of.
* `pathOf`: the path of a key, which may also be a plain name.
-/

namespace ApiOutline.Settings

open Toml (isBare isGap)

/-- A key in lower case. -/
def foldKey (key : String) : String :=
  String.ofList (Text.lowercase key.toList)

/-- A step from a value into it. -/
inductive Step where
  /-- To an entry of a table. -/
  | key (name : String)
  /-- To an item of a list, counted from the end if the index is negative. -/
  | item (index : Int)
  deriving DecidableEq, Repr

/-- Whether `c` may stand in a name of a path. -/
def isPathChar (c : Char) : Bool :=
  isBare c || c = ' '

/-- A text without the blanks around it. -/
def withoutBlanks (text : List Char) : List Char :=
  ((text.dropWhile isGap).reverse.dropWhile isGap).reverse

/-- An index: digits after an optional minus, with blanks around them.  It has to be of 64 bits. -/
def index? (text : List Char) : Option Int :=
  let (negative, digits) := match withoutBlanks text with
    | '-' :: digits => (true, digits)
    | digits => (false, digits)
  if digits.isEmpty || !digits.all Char.isDigit then none
  else
    let i : Int := if negative then -(Decimal.valueOf digits) else Decimal.valueOf digits
    if -(Toml.integerMax : Int) - 1 ≤ i ∧ i ≤ Toml.integerMax then some i else none

/-- The steps that stretches of a text stand for, each of them but the empty last one ended by a
closing bracket. -/
def items? : List (List Char) → Option (List Step)
  | [[]] => some []
  | ('[' :: text) :: rest => do
    let i ← index? text
    let steps ← items? rest
    return .item i :: steps
  | _ => none

/-- The steps of what stands between two dots: a name, and indices in brackets. -/
def partSteps? (part : List Char) : Option (List Step) :=
  let name := part.takeWhile isPathChar
  if name.isEmpty then none
  else
    (items? (Text.splitOn ']' (part.dropWhile isPathChar))).map (.key (String.ofList name) :: ·)

/-- The steps that a key is made of, if all of it is made of steps. -/
def stepsOf? (key : String) : Option (List Step) :=
  ((Text.splitOn '.' key.toList).mapM partSteps?).map List.flatten

/-- The path of an outermost key: the steps it is made of, else the one to the key itself. -/
def pathOf (key : String) : List Step :=
  let key := foldKey key
  (stepsOf? key).getD [.key key]

end ApiOutline.Settings
