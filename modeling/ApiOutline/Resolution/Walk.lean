import ApiOutline.Resolution.Run

/-!
# Walks

A walk finds a type and changes the state of a run on its way: wherever a reference stands, the
definition it names is walked at once, before anything that stands behind the reference.  A definition
that has been met before is not walked again; its key alone gives the type.

A walk through a schema comes to references only, and what following one means is left open in it
(`follow`).  `Scope.walkReference` says it, by means of itself: the references inside the definition are
followed in the same way.  `Scope.follow` closes the circle.  It counts the definitions that have not been
met, since no more of them than that can be open inside each other.

* `Walk`: the walks.
* `walkItems`, `walkObject`, `walkSchema`, `walkProperty`: walks through schemas.
* `Scope.walkModel`, `Scope.walkDefinition`: walks through definitions.
* `Scope.walkReference`, `Scope.follow`: the walk along a reference.
* `Lookup`: the walks that a caller may ask for.
-/

namespace ApiOutline

/-- A walk: from a state to a value and the state afterwards. -/
abbrev Walk := StateM Progress

namespace Progress

/-- The state when the properties of the innermost definition, with this key, have been walked. -/
def leave (s : Progress) (key : String) : Progress :=
  { s with inProgress := s.inProgress.dropLast, resolved := key :: s.resolved }

end Progress

section Schemas

variable (follow : String → Walk TypeExpr)

/-! ## Schemas -/

/-- The walk to the type of items before the items inside are looked at: a builtin, else the reference. -/
def walkHead (type format reference : Option String) : Walk TypeExpr :=
  match Builtin.ofDeclared? type format with
  | some b => pure (.ofBuiltin b)
  | none =>
    match reference with
    | some r => follow r
    | none => pure .any

mutual

/-- The walk through items, and through the items inside. -/
def walkItems : Schema → Walk TypeExpr
  | ⟨reference, type, format, _, items, _, _, _⟩ => do
    let head ← walkHead follow type format reference
    walkInner head items

/-- The walk through the items inside, if there are any, which become the element type of `e`. -/
def walkInner (e : TypeExpr) : Option Schema → Walk TypeExpr
  | none => pure e
  | some inner => do
    let item ← walkItems inner
    return e.withItems item

end

/-- The walk through a declared type, if it is a builtin. -/
def walkObject (s : Schema) : Walk (Option TypeExpr) :=
  match s.type with
  | none => pure none
  | some type =>
    match Builtin.ofDeclared? (some type) s.format with
    | none => pure none
    | some b => some <$> walkInner follow (.ofBuiltin b) s.items

/-- The walk through a schema: along its reference, or through the declared type. -/
def walkSchema (s : Schema) : Walk (Option TypeExpr) :=
  match s.reference with
  | some r => some <$> follow r
  | none => walkObject follow s

/-! ## Properties -/

/-- The walk through the type a property declares; one that declares none may be anything. -/
def walkDeclared (property : Schema) : Walk TypeExpr :=
  (·.getD .any) <$> walkObject follow property

/-- The walk through the values of a map in the definition `owner`.  Their type is of no use, but
the definition they lead to is. -/
def walkValues (owner : String) : Additional Schema → Walk Unit
  | .allowed _ => pure ()
  | .schema values =>
    match (values.items.bind Schema.reference).or values.reference with
    | some r => if refKey r = owner then pure () else discard (follow r)
    | none => pure ()

/-- What a property says about properties it does not name, unless it forbids them. -/
def permitted? (property : Schema) : Option (Additional Schema) :=
  match property.additional with
  | some (.allowed false) => none
  | other => other

/-- The walk through a property of the definition `owner`, which `generic` describes if its key is
generic. -/
def walkProperty (owner : String) (generic : Option GenericKey) (property : Schema) :
    Walk TypeExpr :=
  match property.type, property.reference with
  | none, some r =>
    if refKey r = owner then pure .placeholder else abstractIn generic <$> follow r
  | _, _ =>
    match permitted? property with
    | some additional => do
      walkValues follow owner additional
      if generic.isSome then return .placeholder else walkDeclared follow property
    | none =>
      match property.items with
      | none => walkDeclared follow property
      | some items =>
        match items.reference with
        | some r => (fun e => abstractIn generic (.array e)) <$> follow r
        | none =>
          if generic.isSome && items.type == some "any" then pure .placeholder
          else walkDeclared follow property

end Schemas

namespace Scope

/-! ## Definitions -/

/-- The walk through the properties of a definition, one after the other; it gives the model that
the definition becomes. -/
def walkModel (scope : Scope) (follow : String → Walk TypeExpr) (key : String)
    (definition : Schema) : Walk Model := do
  let properties ← definition.properties.mapM fun (name, property) => do
    let type ← walkProperty follow key (GenericKey.ofKey? key) property
    return {
      name := name
      description := property.description
      type := if scope.wrappers.get? (className key) = some name then .placeholder else type
      required := definition.isRequired name : Property }
  return ⟨modelName key, className key, definition.description, properties⟩

/-- The walk through a definition that has not been met.  Its model is registered, unless it is named
like a builtin, and the definitions named as type arguments in its key are followed. -/
def walkDefinition (scope : Scope) (follow : String → Walk TypeExpr) (key : String)
    (definition : Schema) : Walk Unit := do
  modify (·.enter key)
  let model ← scope.walkModel follow key definition
  modify (·.leave key)
  unless Builtin.isName model.name do
    modify (·.register model)
  (scope.document.argumentKeys key).forM fun name => discard (follow (definitionsHead ++ name))

/-- The walk along a reference.  That there is no definition is recorded, and one that has been met is
passed by. -/
def walkReference (scope : Scope) (follow : String → Walk TypeExpr) (reference : String) :
    Walk TypeExpr :=
  match scope.document.definition? reference with
  | none => do
    modify fun s => s.note (.unresolvedReference (s.subject reference) reference)
    return .unresolved reference
  | some definition => do
    unless (← get).met (refKey reference) do
      scope.walkDefinition follow (refKey reference) definition
    return TypeExpr.parse none (refKey reference)

/-! ## Following references -/

/-- The number of definitions that have not been met. -/
def unmet (scope : Scope) (s : Progress) : Nat :=
  scope.document.definitions.keys.countP fun key => !s.met key

/-- Follows a reference as long as fewer than `depth` walks along references are open inside each
other; deeper inside, references stay unresolved. -/
def followWithin (scope : Scope) : Nat → String → Walk TypeExpr
  | 0, reference => pure (.unresolved reference)
  | depth + 1, reference => scope.walkReference (scope.followWithin depth) reference

/-- Follows a reference. -/
def follow (scope : Scope) (reference : String) : Walk TypeExpr := do
  scope.followWithin (scope.unmet (← get) + 1) reference

end Scope

/-! ## Lookups -/

/-- A question about the type of a reference or of a schema. -/
inductive Lookup where
  | reference (target : String)
  | items (s : Schema)
  | object (s : Schema)
  | schema (s : Schema)

namespace Lookup

/-- The walk that answers a lookup. -/
def walk (scope : Scope) : Lookup → Walk (Option TypeExpr)
  | reference target => some <$> scope.follow target
  | items s => some <$> walkItems scope.follow s
  | object s => walkObject scope.follow s
  | schema s => walkSchema scope.follow s

/-- The type that a lookup finds. -/
def type? (d : Document) : Lookup → Option TypeExpr
  | reference target => some (d.referenceType target)
  | items s => some (d.itemsType s)
  | object s => d.objectType? s
  | schema s => d.schemaType? s

/-- The references that a lookup follows itself, not from inside a definition. -/
def references : Lookup → List String
  | reference target => [target]
  | items s => itemsReferences s
  | object s => objectReferences s
  | schema s => schemaReferences s

end Lookup

end ApiOutline
