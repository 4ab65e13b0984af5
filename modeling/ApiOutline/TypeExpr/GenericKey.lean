import ApiOutline.TypeExpr.Spelling

/-!
# Generic definition keys

A definition key such as `Page«List«Order»»` names a model and the type arguments it was
instantiated with.  The model is shared by all its instantiations, so inside its properties the
arguments are replaced by the placeholder `T`.

* `isGenericKey`: whether a key has an argument list.
* `keyNames`: the names in a key.
* `GenericKey.ofKey?`: the parts of a generic key.
* `modelName`, `className`: the model a key defines and the name it is declared under.
-/

namespace ApiOutline

/-- Whether a key holds an opener and the closer of the same kind. -/
def isGenericKey (key : String) : Bool :=
  let cs := key.toList
  (cs.contains '«' && cs.contains '»') || (cs.contains '<' && cs.contains '>')

/-- The names in a key, each once, in the order of their first occurrence. -/
def keyNames (key : String) : List String :=
  ((TypeExpr.Token.scan key).filterMap TypeExpr.Token.name?).eraseDups

/-- The type arguments of a tree that is a model applied to some. -/
def TypeExpr.typeArgs : TypeExpr → List TypeExpr
  | generic _ args => args
  | _ => []

/-- The text before the first opener of a key, without white space at its ends. -/
def headName (key : String) : String :=
  String.ofList (Text.trimChars (key.toList.takeWhile fun c => c != '«' && c != '<'))

/-- The parts of a generic key. -/
structure GenericKey where
  /-- The model the key is an instance of. -/
  model : String
  /-- Its type arguments in this instance. -/
  args : List TypeExpr
  /-- Every other name in the key. -/
  names : List String
  deriving DecidableEq, Repr

namespace GenericKey

/-- The parts of a key that has an argument list. -/
def ofKey? (key : String) : Option GenericKey :=
  if isGenericKey key then
    let model := headName key
    some ⟨model, (TypeExpr.parse none key).typeArgs, (keyNames key).filter (· != model)⟩
  else
    none

/-- A type with the arguments of this instance replaced by the placeholder. -/
def abstract (g : GenericKey) (e : TypeExpr) : TypeExpr :=
  e.abstractArgs g.args g.names

end GenericKey

/-- The name of the model that the definition with this key becomes. -/
def modelName (key : String) : String :=
  if isGenericKey key then headName key else key

/-- The name under which that model is declared: one type parameter if its key is generic. -/
def className (key : String) : String :=
  if isGenericKey key then headName key ++ "<T>" else key

end ApiOutline
