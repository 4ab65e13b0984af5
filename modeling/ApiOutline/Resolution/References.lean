import ApiOutline.Resolution.Types

/-!
# The references that schemas follow

Finding the type of a schema leads to definitions, which become models.  Which references are
followed, and in which order, depends on the schema alone.

* `itemsReferences`, `objectReferences`, `schemaReferences`: the references of a schema.
* `propertyReferences`: the references of a property of a definition.
* `memberReferences`: the references of all properties of a definition.
* `Document.argumentKeys`: the definitions named as type arguments in a key.
-/

namespace ApiOutline

/-! ## Schemas -/

mutual

/-- The references followed for the type of items: the one that gives the type, then those of the
items inside. -/
def itemsReferences : Schema → List String
  | ⟨reference, type, format, _, items, _, _, _⟩ =>
    (if (Builtin.ofDeclared? type format).isNone then reference.toList else [])
      ++ innerReferences items

/-- The references followed for the items inside, if there are any. -/
def innerReferences : Option Schema → List String
  | none => []
  | some inner => itemsReferences inner

end

/-- The references followed for a declared type. -/
def objectReferences (s : Schema) : List String :=
  if s.type.isSome && (Builtin.ofDeclared? s.type s.format).isSome then innerReferences s.items
  else []

/-- The references followed for a schema. -/
def schemaReferences (s : Schema) : List String :=
  match s.reference with
  | some r => [r]
  | none => objectReferences s

/-! ## Definitions -/

/-- The reference followed for the values of a map: the one of their items, else their own, unless it
leads back to `owner`. -/
def valueReferences (owner : String) (values : Schema) : List String :=
  match (values.items.bind Schema.reference).or values.reference with
  | some r => if refKey r = owner then [] else [r]
  | none => []

/-- The references followed for a property of the definition `owner`, whose key is generic or
not. -/
def propertyReferences (owner : String) (isGeneric : Bool) (property : Schema) : List String :=
  match PropertyShape.of owner property with
  | .self => []
  | .reference r => [r]
  | .map additional =>
    ((additional.schema?.map (valueReferences owner)).getD [])
      ++ if isGeneric then [] else objectReferences property
  | .arrayOf r => [r]
  | .arrayOfAny => if isGeneric then [] else objectReferences property
  | .declared => objectReferences property

/-- The references followed for all properties of a definition. -/
def memberReferences (key : String) (definition : Schema) : List String :=
  definition.properties.flatMap fun p => propertyReferences key (isGenericKey key) p.2

/-- The definitions named as type arguments in a key. -/
def Document.argumentKeys (d : Document) (key : String) : List String :=
  (TypeExpr.parse none key).modelNames.filter fun name =>
    name != modelName key && (d.definitions.get? name).isSome

end ApiOutline
