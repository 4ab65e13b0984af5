import ApiOutline.TypeExpr.Builtin

/-!
# Type expressions

The types of a generated client as trees: builtins, arrays, maps, models, and models applied to
type arguments.  A reference without a target stays in the tree as `unresolved`.

* `TypeExpr.withItems`: putting an element type into a collection or a model.
* `TypeExpr.modelNames`: the models a tree mentions.
* `TypeExpr.abstractArgs`: type arguments replaced by the placeholder `T`.
-/

namespace ApiOutline

/-- The type of a value in a generated client. -/
inductive TypeExpr where
  /-- A builtin that takes no arguments. -/
  | scalar (builtin : Builtin)
  /-- A list of items of one type. -/
  | array (item : TypeExpr)
  /-- A map from keys to values. -/
  | map (key value : TypeExpr)
  /-- A model applied to type arguments. -/
  | generic (base : String) (args : List TypeExpr)
  /-- A model. -/
  | model (name : String)
  /-- A reference whose target is missing. -/
  | unresolved (reference : String)
  deriving Repr, Inhabited

namespace TypeExpr

/-! ## Equality -/

mutual

/-- Whether two trees are equal. -/
def same : TypeExpr → TypeExpr → Bool
  | scalar a, scalar b => a == b
  | array a, array b => same a b
  | map j a, map k b => same j k && same a b
  | generic a as, generic b bs => a == b && sameAll as bs
  | model a, model b => a == b
  | unresolved a, unresolved b => a == b
  | _, _ => false

/-- Whether two lists of trees are equal. -/
def sameAll : List TypeExpr → List TypeExpr → Bool
  | [], [] => true
  | a :: as, b :: bs => same a b && sameAll as bs
  | _, _ => false

end

mutual

theorem same_iff : ∀ a b : TypeExpr, same a b = true ↔ a = b
  | scalar _, b => by cases b <;> simp [same]
  | array a, b => by cases b <;> simp [same, same_iff a]
  | map j a, b => by cases b <;> simp [same, same_iff j, same_iff a]
  | generic _ as, b => by cases b <;> simp [same, sameAll_iff as]
  | model _, b => by cases b <;> simp [same]
  | unresolved _, b => by cases b <;> simp [same]

theorem sameAll_iff : ∀ as bs : List TypeExpr, sameAll as bs = true ↔ as = bs
  | [], bs => by cases bs <;> simp [sameAll]
  | a :: as, bs => by cases bs <;> simp [sameAll, same_iff a, sameAll_iff as]

end

instance : DecidableEq TypeExpr := fun a b => decidable_of_iff _ (same_iff a b)

/-! ## Builders -/

/-- The placeholder `T`. -/
def placeholder : TypeExpr := scalar .t

/-- The type of every value. -/
def any : TypeExpr := scalar .any

/-- The type of no value. -/
def void : TypeExpr := scalar .void

/-- The expression for a builtin on its own: the items of a collection may be anything. -/
def ofBuiltin : Builtin → TypeExpr
  | .array => array any
  | .record => map (scalar .string) any
  | b => scalar b

/-- The expression `e` with `items` as its element type.  Collections take it in the place of the
one they have, models as a further argument; other types have no place for it. -/
def withItems (e items : TypeExpr) : TypeExpr :=
  match e with
  | array _ => array items
  | map key _ => map key items
  | model base => generic base [items]
  | generic base args => generic base (args ++ [items])
  | scalar b => scalar b
  | unresolved reference => unresolved reference

/-! ## Questions -/

/-- Whether the type is `void`. -/
def isVoid (e : TypeExpr) : Bool := e == void

/-- Whether the type is a placeholder on its own. -/
def isPlaceholder : TypeExpr → Bool
  | scalar b => b.isPlaceholder
  | _ => false

mutual

/-- Whether a reference without a target occurs in the tree. -/
def isUnresolved : TypeExpr → Bool
  | scalar _ => false
  | array item => isUnresolved item
  | map key value => isUnresolved key || isUnresolved value
  | generic _ args => isUnresolvedAny args
  | model _ => false
  | unresolved _ => true

/-- Whether a reference without a target occurs in one of the trees. -/
def isUnresolvedAny : List TypeExpr → Bool
  | [] => false
  | e :: es => isUnresolved e || isUnresolvedAny es

end

mutual

/-- The names of the models in the tree, from left to right. -/
def modelNames : TypeExpr → List String
  | scalar _ => []
  | array item => modelNames item
  | map key value => modelNames key ++ modelNames value
  | generic base args => base :: modelNamesAll args
  | model name => [name]
  | unresolved _ => []

/-- The names of the models in the trees, from left to right. -/
def modelNamesAll : List TypeExpr → List String
  | [] => []
  | e :: es => modelNames e ++ modelNamesAll es

end

/-! ## Abstraction of type arguments -/

mutual

/-- The tree with type arguments replaced by the placeholder: a subtree equal to one of `args`, and
a model named in `names`, becomes `T`. -/
def abstractArgs (args : List TypeExpr) (names : List String) : TypeExpr → TypeExpr
  | scalar b =>
    if args.contains (scalar b) then placeholder else scalar b
  | array item =>
    if args.contains (array item) then placeholder else array (abstractArgs args names item)
  | map key value =>
    if args.contains (map key value) then placeholder
    else map (abstractArgs args names key) (abstractArgs args names value)
  | generic base params =>
    if args.contains (generic base params) then placeholder
    else generic base (abstractArgsAll args names params)
  | model name =>
    if args.contains (model name) || names.contains name then placeholder else model name
  | unresolved reference =>
    if args.contains (unresolved reference) then placeholder else unresolved reference

/-- The trees with type arguments replaced by the placeholder. -/
def abstractArgsAll (args : List TypeExpr) (names : List String) : List TypeExpr → List TypeExpr
  | [] => []
  | e :: es => abstractArgs args names e :: abstractArgsAll args names es

end

theorem abstractArgsAll_eq_map (args : List TypeExpr) (names : List String) :
    ∀ es, abstractArgsAll args names es = es.map (abstractArgs args names)
  | [] => rfl
  | e :: es => by simp [abstractArgsAll, abstractArgsAll_eq_map args names es]

theorem modelNamesAll_eq_flatMap : ∀ es, modelNamesAll es = es.flatMap modelNames
  | [] => rfl
  | e :: es => by simp [modelNamesAll, modelNamesAll_eq_flatMap es]

end TypeExpr

end ApiOutline
