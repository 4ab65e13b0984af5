/-!
# TOML documents

A document is a list of sections.  A section has a heading, which is the path of a table, and pairs of
keys and values; the first section has none and belongs to the document itself.

* `Value`: the values.
* `Pair`, `Section`: what a document is made of.
-/

namespace ApiOutline.Toml

/-- A value. -/
inductive Value where
  | text (s : String)
  /-- A date or a time in its one written form. -/
  | moment (s : String)
  | integer (i : Int)
  | floating (x : Float)
  | bool (b : Bool)
  | array (items : List Value)
  | table (entries : List (String × Value))
  deriving Repr, Inhabited

/-- The entries of a table; any other value has none. -/
def Value.entries : Value → List (String × Value)
  | table entries => entries
  | _ => []

/-- A value under a dotted key. -/
structure Pair where
  key : List String
  value : Value
  deriving Repr, Inhabited

/-- A heading with the pairs below it. -/
structure Section where
  /-- The path of the table; empty before the first heading. -/
  path : List String
  /-- Whether the heading adds one more table to a list of tables. -/
  repeated : Bool
  pairs : List Pair
  deriving Repr, Inhabited

/-- Whether `c` is a blank. -/
def isGap (c : Char) : Bool :=
  c = ' ' || c = '\t'

/-- Whether `c` may stand in a key without quotation marks. -/
def isBare (c : Char) : Bool :=
  c.isAlphanum || c = '_' || c = '-'

/-- Whether `c` may stand for itself in a text or a comment: every character but the control
characters, of which only the tabulator may. -/
def isPlain (c : Char) : Bool :=
  c = '\t' || (32 ≤ c.toNat && c.toNat != 127)

/-- The greatest integer. -/
def integerMax : Nat := Nat.pow 2 63 - 1

end ApiOutline.Toml
