import ApiOutline.Decimal.Reading
import ApiOutline.Dict
import ApiOutline.Settings.KeyPath
import ApiOutline.Settings.Value
import ApiOutline.Text.Case
import ApiOutline.Text.Split

/-!
# Layers of settings

Settings come from several files and from the environment, one layer over the other.  Tables are
merged, and any other value of a later layer takes the place of the earlier one.  Keys are the same if
they agree in lower case, and are kept in lower case; only those inside the items of a list are kept as
they are.

* `overlay`: a table with one more value over it.
* `putAlong`, `overlayAll`: a value with one more put inside it, and a table with a layer over it.
* `environmentLayer`: the layer of the environment.
-/

namespace ApiOutline.Settings

/-! ## Merging -/

/-- The entries of the table that a key has. -/
def entriesAt (key : String) (entries : List (String × Value)) : List (String × Value) :=
  ((entries.lookup key).map Value.entries).getD []

mutual

/-- A table with a value over it.  A table without entries changes nothing where there is a value. -/
def overlay (key : String) : Value → List (String × Value) → List (String × Value)
  | .table [], entries =>
    let key := foldKey key
    if (entries.lookup key).isSome then entries else upsert key (.table []) entries
  | .table (e :: rest), entries =>
    let key := foldKey key
    upsert key (.table (overlayEntries (e :: rest) (entriesAt key entries))) entries
  | v, entries => upsert (foldKey key) v entries

/-- A table with several values over it. -/
def overlayEntries : List (String × Value) → List (String × Value) → List (String × Value)
  | [], entries => entries
  | (key, v) :: rest, entries => overlayEntries rest (overlay key v entries)

end

/-! ## Setting values along paths -/

/-- The place of the item that an index leads to in a list of `n` items. -/
def placeOf (index : Int) (n : Nat) : Nat :=
  if 0 ≤ index then index.toNat else n - index.natAbs

/-- A list with gaps at its end, as many as it takes to have an item at a place. -/
def padTo (place : Nat) (items : List Value) : List Value :=
  items ++ List.replicate (place + 1 - items.length) .gap

/-- The value `here` with the value `v` put where a path leads.  Where a step leads to a table or a list
there will be one, in the place of anything else; an entry is laid over, and an item is replaced. -/
def putAlong (v : Value) : List Step → Value → Value
  | [], _ => v
  | [.key name], here => .table (overlay name v here.entries)
  | .key name :: next :: rest, here =>
    let inner := (here.entries.lookup name).getD .gap
    .table (upsert name (putAlong v (next :: rest) inner) here.entries)
  | .item index :: rest, here =>
    let place := placeOf index here.items.length
    let inner := (here.items[place]?).getD .gap
    .list ((padTo place here.items).set place (putAlong v rest inner))

/-- A table with a layer over it, whose keys may be paths. -/
def overlayAll (layer entries : List (String × Value)) : List (String × Value) :=
  layer.foldl (fun entries e => (putAlong e.2 (pathOf e.1) (.table entries)).entries) entries

/-! ## The environment -/

/-- What the names of all variables that count begin with, in lower case. -/
def variableHead : List Char :=
  "swagger_codegen__".toList

/-- The keys whose values are lists. -/
def listKeys : List String :=
  ["codegen.methods", "codegen.naming.api_cut", "codegen.filter.paths",
    "codegen.filter.exclude_paths"]

/-- A name with dots for double underscores. -/
def dotted : List Char → List Char
  | '_' :: '_' :: rest => '.' :: dotted rest
  | c :: rest => c :: dotted rest
  | [] => []

/-- The key that a variable sets, if its name counts. -/
def variableKey? (name : String) : Option String :=
  (variableHead.isPrefixOf? (Text.lowercase name.toList)).map fun rest =>
    String.ofList (dotted rest)

/-- An integer: digits after an optional sign. -/
def variableInteger? (text : List Char) : Option Int :=
  let (negative, digits) := Decimal.splitSign text
  if digits.isEmpty || !digits.all Char.isDigit then none
  else
    let i : Int := if negative then -(Decimal.valueOf digits) else Decimal.valueOf digits
    if -(Toml.integerMax : Int) - 1 ≤ i ∧ i ≤ Toml.integerMax then some i else none

/-- The value of a variable: a truth value, an integer, a floating point number, or else a text, which
is a list with commas in it where the key wants one. -/
def variableValue (key text : String) : Value :=
  match String.ofList (Text.lowercase text.toList) with
  | "true" => .bool true
  | "false" => .bool false
  | _ =>
    match variableInteger? text.toList, Decimal.parse? text.toList with
    | some i, _ => .integer i
    | none, some x => .floating x
    | none, none =>
      if listKeys.contains key then
        .list ((Text.splitOn ',' text.toList).map fun part => .text (String.ofList part))
      else
        .text text

/-- The layer of the environment, which pairs the names of variables with their texts. -/
def environmentLayer (environment : List (String × String)) : List (String × Value) :=
  environment.filterMap fun (name, text) =>
    (variableKey? name).map fun key => (key, variableValue key text)

end ApiOutline.Settings
