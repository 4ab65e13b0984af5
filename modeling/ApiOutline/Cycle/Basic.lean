import ApiOutline.Cycle.Reach
import ApiOutline.Document.Basic

/-!
# Reference cycles

Definitions point at each other by the references in their properties, at any depth.  Definitions
that point at each other in a circle form a cycle group: each of them is reached from each.

* `Schema.links`: the references in a schema.
* `Document.targets`: the definitions that a definition points at.
* `Document.cycles`: the cycle groups.
-/

namespace ApiOutline

/-- How a schema points at a definition. -/
inductive LinkKind where
  | property
  | items
  | mapValue
  deriving DecidableEq, Repr, Inhabited

/-- The kinds of links with their names. -/
def LinkKind.variants : List (String × LinkKind) :=
  [("Property", property), ("Items", items), ("MapValue", mapValue)]

namespace Schema

mutual

/-- The references in a schema, each with the way it is made; one of the schema itself is of the
given kind. -/
def links (kind : LinkKind) : Schema → List (String × LinkKind)
  | ⟨reference, _, _, _, items, additional, properties, _⟩ =>
    reference.toList.map (·, kind) ++ linksOfItems items ++ linksOfValues additional
      ++ linksOfProperties kind properties

/-- The references in the schema of items. -/
def linksOfItems : Option Schema → List (String × LinkKind)
  | none => []
  | some s => links .items s

/-- The references in the schema of the values of a map. -/
def linksOfValues : Option (Additional Schema) → List (String × LinkKind)
  | none => []
  | some (.allowed _) => []
  | some (.schema s) => links .mapValue s

/-- The references in the schemas of properties. -/
def linksOfProperties (kind : LinkKind) : List (String × Schema) → List (String × LinkKind)
  | [] => []
  | (_, s) :: rest => links kind s ++ linksOfProperties kind rest

end

end Schema

/-- Definitions that reach each other. -/
structure CycleGroup where
  /-- Their keys, ascending. -/
  members : List String
  /-- Whether it is one definition that points at itself. -/
  isSelfReferential : Bool
  deriving DecidableEq, Repr, Inhabited

/-- The names of a list, ascending and each once. -/
def ascendingNames (names : List String) : List String :=
  (names.mergeSort fun a b => decide (a ≤ b)).eraseDups

namespace Document

/-- The links from a definition to definitions that are there. -/
def linksFrom (d : Document) (key : String) : List (String × LinkKind) :=
  match d.definitions.get? key with
  | none => []
  | some definition =>
    ((Schema.linksOfProperties .property definition.properties).map fun l => (refKey l.1, l.2)).filter
      fun l => (d.definitions.get? l.1).isSome

/-- The number of links in a document. -/
def linkCount (d : Document) : Nat :=
  d.definitions.keys.foldr (fun key count => (d.linksFrom key).length + count) 0

/-- The definitions that a definition points at, ascending. -/
def targets (d : Document) (key : String) : List String :=
  ascendingNames ((d.linksFrom key).map Prod.fst)

/-- The definitions reached from a definition by one link or more. -/
def reachableFrom (d : Document) (key : String) : List String :=
  Cycle.reachable d.definitions.keys (fun k => (d.linksFrom k).map Prod.fst) key

/-- The cycle groups, each at its first member: `reached` pairs keys, ascending, with what is reached
from them. -/
def cyclesAmong (reached : List (String × List String)) : List CycleGroup :=
  reached.filterMap fun (key, fromKey) =>
    let members := (reached.filter fun (other, fromOther) =>
      fromKey.contains other && fromOther.contains key).map Prod.fst
    if members.head? = some key then some ⟨members, members.length == 1⟩ else none

/-- The cycle groups of a document, ascending. -/
def cycles (d : Document) : List CycleGroup :=
  cyclesAmong ((ascendingNames d.definitions.keys).map fun key => (key, d.reachableFrom key))

end Document

end ApiOutline
