/-!
# Builtin types

The types a generated client has without any model: scalars, two collections and four placeholders
for type arguments.  Documents write them under many keys (`int64`, `List`, `date-time`); each key
stands for one builtin, and each builtin has one canonical name.

* `Builtin.table`: the keys a document may write.
* `Builtin.ofKey?`, `Builtin.ofCanonical?`: reading a key, reading a canonical name.
* `Builtin.ofName?`: reading either, which is how a type name is told from a model name.
* `Builtin.ofDeclared?`: the builtin of a declared `type` and `format`.
-/

namespace ApiOutline

/-- A type that is not a model. -/
inductive Builtin where
  | void | boolean | string | number | array | record | any | t | t1 | t2 | t3
  deriving DecidableEq, Repr

namespace Builtin

/-- Every builtin, in the order of its definition. -/
def all : List Builtin :=
  [void, boolean, string, number, array, record, any, t, t1, t2, t3]

/-- The name under which generated code knows the type. -/
def canonical : Builtin → String
  | void => "void"
  | boolean => "boolean"
  | string => "string"
  | number => "number"
  | array => "Array"
  | record => "Record"
  | any => "any"
  | t => "T"
  | t1 => "T1"
  | t2 => "T2"
  | t3 => "T3"

/-- The keys a document may write, each with the builtin it stands for. -/
def table : List (String × Builtin) :=
  [("void", void), ("boolean", boolean), ("string", string), ("byte", number),
   ("integer", number), ("int", number), ("int32", number), ("int64", number),
   ("number", number), ("Number", number), ("date-time", number), ("Date", number),
   ("array", array), ("Array", array), ("List", array), ("Set", array), ("Map", record),
   ("any", any), ("object", any), ("Object", any), ("T", t), ("T1", t1), ("T2", t2), ("T3", t3)]

/-- The builtin a document key stands for. -/
def ofKey? (key : String) : Option Builtin :=
  table.lookup key

/-- The builtin with a canonical name. -/
def ofCanonical? (name : String) : Option Builtin :=
  all.find? fun b => b.canonical == name

/-- The builtin a type name stands for, be it a document key or a canonical name. -/
def ofName? (name : String) : Option Builtin :=
  (ofKey? name).or (ofCanonical? name)

/-- Whether `name` stands for a builtin wherever a type name may appear. -/
def isName (name : String) : Bool :=
  (ofName? name).isSome

/-- Whether the builtin is a placeholder for a type argument. -/
def isPlaceholder : Builtin → Bool
  | t | t1 | t2 | t3 => true
  | _ => false

/-- Whether the builtin takes type arguments. -/
def isCollection : Builtin → Bool
  | array | record => true
  | _ => false

/-- The builtin of a declared `type` and `format`.  A format that is a document key wins over the
type: a `string` with the format `date-time` is a number. -/
def ofDeclared? (type format : Option String) : Option Builtin :=
  (format.bind ofKey?).or (type.bind ofKey?)

/-! ## The two readings agree -/

theorem ofCanonical?_canonical (b : Builtin) : ofCanonical? b.canonical = some b := by
  cases b <;> decide

theorem ofName?_canonical (b : Builtin) : ofName? b.canonical = some b := by
  cases b <;> decide

end Builtin

end ApiOutline
