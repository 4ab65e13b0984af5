import ApiOutline.Dict
import ApiOutline.Toml.Basic

/-!
# Tables

The sections of a document describe one table.  Its parts come about in several ways: a heading
declares a table and implies those on the way to it, dotted keys make tables as they go, and a value in
braces is a table that is complete.  What may be added later to a table depends on how it came about.

* `Item`: the parts of a table that is being built.
* `insertPair`: a table with one more pair.
* `ofSections?`, `ofPairs?`: the table of a document, and the one of a value in braces.
-/

namespace ApiOutline.Toml

/-- How a table came about. -/
inductive Origin where
  /-- A heading has its path. -/
  | declared
  /-- Headings have longer paths. -/
  | implied
  /-- By dotted keys. -/
  | dotted
  deriving DecidableEq, Repr

/-- A part of a table that is being built. -/
inductive Item where
  /-- A value, to which nothing can be added. -/
  | value (v : Value)
  | table (origin : Origin) (entries : List (String × Item))
  /-- Tables under repeated headings, last one first: to the first of these more can be added. -/
  | tables (latest : List (String × Item)) (earlier : List (List (String × Item)))
  deriving Inhabited

/-- The entries of a table that is being built. -/
abbrev Items := List (String × Item)

/-! ## Pairs -/

/-- A table with one more pair, unless its key is taken.  A dotted key leads through tables that
headings imply, but the pair itself goes into one that dotted keys made. -/
def insertPair (value : Value) : List String → Items → Option Items
  | [], _ => none
  | [key], items =>
    if (items.lookup key).isSome then none else some (items ++ [(key, .value value)])
  | key :: next :: rest, items =>
    let into (inner : Items) : Option Items := insertPair value (next :: rest) inner
    match items.lookup key with
    | none => (into []).map fun inner => items ++ [(key, .table .dotted inner)]
    | some (.table .dotted inner) =>
      (into inner).map fun inner => upsert key (.table .dotted inner) items
    | some (.table .implied inner) =>
      if rest.isEmpty then none
      else (into inner).map fun inner => upsert key (.table .implied inner) items
    | some (.tables latest earlier) =>
      if rest.isEmpty then none
      else (into latest).map fun latest => upsert key (.tables latest earlier) items
    | some (.table .declared _) | some (.value _) => none

/-- A table with further pairs. -/
def insertPairs (pairs : List Pair) (items : Items) : Option Items :=
  pairs.foldlM (fun items p => insertPair p.value p.key items) items

/-! ## Sections -/

/-- What the last part of the path of a heading leads to, with the pairs below the heading. -/
def declare (s : Section) : Option Item → Option Item
  | none =>
    (insertPairs s.pairs []).map fun items =>
      if s.repeated then .tables items [] else .table .declared items
  | some (.table .implied items) =>
    if s.repeated then none else (insertPairs s.pairs items).map (.table .declared)
  | some (.tables latest earlier) =>
    if s.repeated then (insertPairs s.pairs []).map fun items => .tables items (latest :: earlier)
    else none
  | some _ => none

/-- A table with a part at its end; any part under the same key is left out. -/
def putLast (key : String) (item : Item) (items : Items) : Items :=
  items.filter (fun e => e.1 != key) ++ [(key, item)]

/-- A table with one more section, for which the path `path` is still to be followed.  A table that
headings implied before moves to the place where its own heading declares it. -/
def insertSection (s : Section) : List String → Items → Option Items
  | [], items => insertPairs s.pairs items
  | [key], items => (declare s (items.lookup key)).map fun item =>
    if s.repeated then upsert key item items else putLast key item items
  | key :: next :: rest, items =>
    let into (inner : Items) : Option Items := insertSection s (next :: rest) inner
    match items.lookup key with
    | none => (into []).map fun inner => items ++ [(key, .table .implied inner)]
    | some (.table origin inner) =>
      (into inner).map fun inner => upsert key (.table origin inner) items
    | some (.tables latest earlier) =>
      (into latest).map fun latest => upsert key (.tables latest earlier) items
    | some (.value _) => none

/-! ## Finished tables -/

mutual

/-- The value of a finished part. -/
def Item.toValue : Item → Value
  | .value v => v
  | .table _ items => .table (valuesOf items)
  | .tables latest earlier => .array (tablesOf earlier [.table (valuesOf latest)])

/-- The entries of a finished table. -/
def valuesOf : Items → List (String × Value)
  | [] => []
  | (key, item) :: rest => (key, item.toValue) :: valuesOf rest

/-- The tables under repeated headings in their order, before the tables `later`. -/
def tablesOf : List (List (String × Item)) → List Value → List Value
  | [], later => later
  | items :: rest, later => tablesOf rest (.table (valuesOf items) :: later)

end

/-- The table of a document, unless its sections contradict each other. -/
def ofSections? (sections : List Section) : Option (List (String × Value)) :=
  (sections.foldlM (fun items s => insertSection s s.path items) []).map valuesOf

/-- The table of a value in braces, unless its pairs contradict each other. -/
def ofPairs? (pairs : List Pair) : Option (List (String × Value)) :=
  (insertPairs pairs []).map valuesOf

end ApiOutline.Toml
