/-!
# Verbs

The request verbs that a path of a document may declare.
-/

namespace ApiOutline

/-- A request verb. -/
inductive Verb where
  | get | put | post | delete | options | head | patch
  deriving DecidableEq, Repr, Inhabited

namespace Verb

/-- Every verb, in the order of its definition. -/
def all : List Verb :=
  [get, put, post, delete, options, head, patch]

/-- The name of a verb. -/
def name : Verb → String
  | get => "get"
  | put => "put"
  | post => "post"
  | delete => "delete"
  | options => "options"
  | head => "head"
  | patch => "patch"

/-- Whether requests with the verb never carry a body. -/
def isReadOnly : Verb → Bool
  | get | head | options => true
  | _ => false

/-- The verbs with their names. -/
def variants : List (String × Verb) :=
  all.map fun v => (v.name, v)

end Verb

end ApiOutline
