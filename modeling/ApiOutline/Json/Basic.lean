/-!
# JSON values

A JSON value as a program builds it: numbers are natural, and the members of an object keep their
order.
-/

namespace ApiOutline

/-- A JSON value. -/
inductive Json where
  | null
  | bool (b : Bool)
  | nat (n : Nat)
  | str (s : String)
  | arr (items : List Json)
  | obj (members : List (String × Json))
  deriving Repr, Inhabited

namespace Json

/-- The member a field writes. -/
def field (name : String) (value : Json) : List (String × Json) :=
  [(name, value)]

/-- The member a field writes when it has a value, and nothing otherwise. -/
def fieldIfSome {α : Type} (name : String) (encode : α → Json) : Option α → List (String × Json)
  | none => []
  | some a => [(name, encode a)]

/-- The member a field writes when its list has entries, and nothing otherwise. -/
def fieldIfAny {α : Type} (name : String) (encode : List α → Json) : List α → List (String × Json)
  | [] => []
  | a :: as => [(name, encode (a :: as))]

/-- A value, or `null` in its absence. -/
def orNull {α : Type} (encode : α → Json) : Option α → Json
  | none => null
  | some a => encode a

/-- A list of texts. -/
def strs (texts : List String) : Json :=
  arr (texts.map str)

end Json

end ApiOutline
