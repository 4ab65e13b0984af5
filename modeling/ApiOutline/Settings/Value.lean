import ApiOutline.Toml.Basic
import ApiOutline.Toml.Moment

/-!
# Values of settings

The value of a setting comes from a document or from a variable.  It is like a value of a document,
but a date or a time is a text, and a list may have gaps: items that are not set, before one that is.

* `Value`: the values.
* `Value.ofToml?`, `ofDocument?`: values and tables of documents.
-/

namespace ApiOutline.Settings

open Toml (Moment.ofText?)

/-- A value of a setting, or of several in a list or a table. -/
inductive Value where
  /-- An item of a list that is not set. -/
  | gap
  | text (s : String)
  | integer (i : Int)
  | floating (x : Float)
  | bool (b : Bool)
  | list (items : List Value)
  | table (entries : List (String × Value))
  deriving Repr, Inhabited

namespace Value

/-- The entries of a table; any other value has none. -/
def entries : Value → List (String × Value)
  | table entries => entries
  | _ => []

/-- The items of a list; any other value has none. -/
def items : Value → List Value
  | list items => items
  | _ => []

/-! ## Values of documents -/

/-- The first key of a table that stands for a date or a time. -/
def momentKey : String := "$__toml_private_datetime"

/-- The date or the time that a text gives; any other value gives none. -/
def momentOf? : Toml.Value → Option Value
  | .text s => (Moment.ofText? s.toList).map text
  | _ => none

mutual

/-- A value of a document.  A table under whose first key a date or a time is given stands for it, and
has to give one. -/
def ofToml? : Toml.Value → Option Value
  | .text s | .moment s => some (text s)
  | .integer i => some (integer i)
  | .floating x => some (floating x)
  | .bool b => some (bool b)
  | .array items => (ofItems? items).map list
  | .table [] => some (table [])
  | .table ((key, v) :: rest) =>
    if key = momentKey then momentOf? v
    else do
      let v ← ofToml? v
      let rest ← ofEntries? rest
      return table ((key, v) :: rest)

/-- The items of an array of a document. -/
def ofItems? : List Toml.Value → Option (List Value)
  | [] => some []
  | v :: rest => do
    let v ← ofToml? v
    let rest ← ofItems? rest
    return v :: rest

/-- The entries of a table of a document. -/
def ofEntries? : List (String × Toml.Value) → Option (List (String × Value))
  | [] => some []
  | (key, v) :: rest => do
    let v ← ofToml? v
    let rest ← ofEntries? rest
    return (key, v) :: rest

end

end Value

/-- The entries of a document, which must not stand for a date or a time as a whole. -/
def ofDocument? (entries : List (String × Toml.Value)) : Option (List (String × Value)) :=
  match Value.ofToml? (.table entries) with
  | some (.table entries) => some entries
  | _ => none

end ApiOutline.Settings
