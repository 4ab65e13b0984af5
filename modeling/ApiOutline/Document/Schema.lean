/-!
# Schemas

A schema describes a value: by a reference to a definition, by a type, or by the properties of an
object.  Arrays have an item schema, maps may have a schema for their values.

* `Schema`: the schemas.
* `Additional`: what an object says about properties that it does not name.
-/

namespace ApiOutline

/-- What an object says about properties it does not name. -/
inductive Additional (σ : Type) where
  /-- Whether there may be any. -/
  | allowed (b : Bool)
  /-- The schema of their values. -/
  | schema (s : σ)
  deriving Repr

/-- The schema of the values, if there is one. -/
def Additional.schema? {σ : Type} : Additional σ → Option σ
  | allowed _ => none
  | schema s => some s

/-- A description of a value. -/
structure Schema where
  /-- A reference to a definition that describes the value. -/
  reference : Option String
  type : Option String
  format : Option String
  description : Option String
  /-- The schema of the items of an array. -/
  items : Option Schema
  additional : Option (Additional Schema)
  /-- The properties of an object, in the order of the document. -/
  properties : List (String × Schema)
  /-- The names of the properties that are always there. -/
  required : List String
  deriving Repr

namespace Schema

/-- The schema that says nothing. -/
def blank : Schema := ⟨none, none, none, none, none, none, [], []⟩

instance : Inhabited Schema := ⟨blank⟩

/-- Whether the property with this name is always there. -/
def isRequired (s : Schema) (property : String) : Bool :=
  s.required.contains property

end Schema

end ApiOutline
