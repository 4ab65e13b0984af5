import ApiOutline.Document.Basic
import ApiOutline.Model.Basic
import ApiOutline.NameMap
import ApiOutline.TypeExpr.GenericKey

/-!
# The types of schemas

The type that a schema describes depends on the document and on nothing else: a reference to a
definition has the type that its key spells, whatever has become of the definition.

* `Document.referenceType`: the type of a reference.
* `Document.itemsType`, `Document.objectType?`, `Document.schemaType?`: the types of schemas.
* `Document.propertyType`: the type of a property of a definition.
* `Scope.model`: the model that a definition becomes.
-/

namespace ApiOutline

namespace Document

/-- The type of a reference: the one its key spells, if the definition is there. -/
def referenceType (d : Document) (reference : String) : TypeExpr :=
  match d.definition? reference with
  | some _ => TypeExpr.parse none (refKey reference)
  | none => .unresolved reference

/-- The type of items before the items inside them are looked at: a builtin, else what they refer
to, else anything. -/
def itemsHead (d : Document) (type format reference : Option String) : TypeExpr :=
  match Builtin.ofDeclared? type format with
  | some b => .ofBuiltin b
  | none =>
    match reference with
    | some r => d.referenceType r
    | none => .any

mutual

/-- The type of the items of an array. -/
def itemsType (d : Document) : Schema → TypeExpr
  | ⟨reference, type, format, _, items, _, _, _⟩ =>
    withInnerItems d (d.itemsHead type format reference) items

/-- A type with the type of the items inside, if there are any, as its element type. -/
def withInnerItems (d : Document) (e : TypeExpr) : Option Schema → TypeExpr
  | none => e
  | some inner => e.withItems (itemsType d inner)

end

/-- The type that a schema declares, if it is a builtin. -/
def objectType? (d : Document) (s : Schema) : Option TypeExpr :=
  match s.type with
  | none => none
  | some _ => (Builtin.ofDeclared? s.type s.format).map fun b => d.withInnerItems (.ofBuiltin b) s.items

/-- The type of a schema: of its reference, or the declared one. -/
def schemaType? (d : Document) (s : Schema) : Option TypeExpr :=
  match s.reference with
  | some r => some (d.referenceType r)
  | none => d.objectType? s

/-- The type that a property declares, or else anything. -/
def declaredType (d : Document) (property : Schema) : TypeExpr :=
  (d.objectType? property).getD .any

end Document

/-! ## Properties of definitions -/

/-- What of a property decides its type. -/
inductive PropertyShape where
  /-- It is a reference to the definition it belongs to. -/
  | self
  /-- It is a reference. -/
  | reference (target : String)
  /-- It is a map. -/
  | map (additional : Additional Schema)
  /-- It is an array of references. -/
  | arrayOf (target : String)
  /-- Its items may be anything. -/
  | arrayOfAny
  /-- It declares its type itself. -/
  | declared

/-- The shape of a property of the definition `owner`.  A declared type wins over a reference, and a
map over an array. -/
def PropertyShape.of (owner : String) (property : Schema) : PropertyShape :=
  match property.type, property.reference with
  | none, some r => if refKey r = owner then self else reference r
  | _, _ =>
    match property.additional with
    | some (.schema s) => map (.schema s)
    | some (.allowed true) => map (.allowed true)
    | _ =>
      match property.items with
      | none => declared
      | some items =>
        match items.reference with
        | some r => arrayOf r
        | none => if items.type = some "any" then arrayOfAny else declared

/-- A type inside a definition: with the arguments of a generic key replaced by the placeholder. -/
def abstractIn (generic : Option GenericKey) (e : TypeExpr) : TypeExpr :=
  match generic with
  | some g => g.abstract e
  | none => e

/-- The type of a property of the definition `owner`, which `generic` describes if its key is
generic. -/
def Document.propertyType (d : Document) (owner : String) (generic : Option GenericKey)
    (property : Schema) : TypeExpr :=
  match PropertyShape.of owner property with
  | .self => .placeholder
  | .reference r => abstractIn generic (d.referenceType r)
  | .map _ => if generic.isSome then .placeholder else d.declaredType property
  | .arrayOf r => abstractIn generic (.array (d.referenceType r))
  | .arrayOfAny => if generic.isSome then .placeholder else d.declaredType property
  | .declared => d.declaredType property

/-! ## Models of definitions -/

/-- What the models of definitions depend on. -/
structure Scope where
  document : Document
  /-- The property of a generic class that holds its type argument. -/
  wrappers : NameMap String

/-- The property `name` of the definition with the key `key`. -/
def Scope.property (s : Scope) (key : String) (definition : Schema) (name : String)
    (property : Schema) : Property where
  name := name
  description := property.description
  type :=
    if s.wrappers.get? (className key) = some name then .placeholder
    else s.document.propertyType key (GenericKey.ofKey? key) property
  required := definition.isRequired name

/-- The model that the definition with the key `key` becomes. -/
def Scope.model (s : Scope) (key : String) (definition : Schema) : Model where
  name := modelName key
  className := className key
  description := definition.description
  properties := definition.properties.map fun p => s.property key definition p.1 p.2

end ApiOutline
