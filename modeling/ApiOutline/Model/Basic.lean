import ApiOutline.TypeExpr.Spelling

/-!
# Models

A model is a type with named properties.  Generated code declares it under its class name, which
differs from its name when it has a type parameter.
-/

namespace ApiOutline

/-- A property of a model. -/
structure Property where
  name : String
  description : Option String
  type : TypeExpr
  /-- Whether the property is always there. -/
  required : Bool
  deriving DecidableEq, Repr, Inhabited

/-- A model. -/
structure Model where
  name : String
  className : String
  description : Option String
  properties : List Property
  deriving DecidableEq, Repr, Inhabited

namespace Model

/-- Whether the model has a type parameter. -/
def isGeneric (m : Model) : Bool :=
  m.className != m.name

/-- The first property with a name. -/
def property? (m : Model) (name : String) : Option Property :=
  m.properties.find? fun p => p.name == name

end Model

end ApiOutline
