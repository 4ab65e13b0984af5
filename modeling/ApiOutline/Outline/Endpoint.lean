import ApiOutline.Document.Verb
import ApiOutline.TypeExpr.Basic

/-!
# Endpoints

An endpoint is what generated code knows of one verb on one path: its names, the types of what is
sent and received, and the style in which it is called.
-/

namespace ApiOutline

/-- The style in which an endpoint is called. -/
inductive CallStyle where
  /-- As a request with a verb and a typed response. -/
  | verb (v : Verb)
  /-- As a download of a file, since no type is known for the response. -/
  | download
  deriving DecidableEq, Repr, Inhabited

namespace CallStyle

/-- The name of a style. -/
def name : CallStyle → String
  | verb v => v.name
  | download => "download"

/-- The styles with their names. -/
def variants : List (String × CallStyle) :=
  (Verb.all.map verb ++ [download]).map fun s => (s.name, s)

end CallStyle

/-- What generated code knows of one verb on one path. -/
structure Endpoint where
  /-- The group it belongs to. -/
  group : String
  path : String
  style : CallStyle
  name : String
  fullName : String
  summary : Option String
  /-- The type of the query parameters. -/
  paramsType : Option TypeExpr
  paramsRequired : Option Bool
  /-- The type of the body. -/
  dataType : Option TypeExpr
  dataRequired : Option Bool
  returnType : TypeExpr
  hasBody : Bool
  hasArgs : Bool
  hasReturn : Bool
  deriving DecidableEq, Repr, Inhabited

end ApiOutline
