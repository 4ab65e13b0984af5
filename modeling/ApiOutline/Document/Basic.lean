import ApiOutline.Dict
import ApiOutline.Digest.Checksum
import ApiOutline.Document.Schema
import ApiOutline.Document.Verb

/-!
# API documents

A document describes an API: the paths with the operations on them, the definitions that schemas
refer to, and the parameters that operations share.

* `Document`: the documents.
* `Document.definition?`, `Document.parameter?`: following references.
* `Document.unsupported?`: the version of a document that is not described in this form.
-/

namespace ApiOutline

/-! ## Operations -/

/-- Where a parameter travels. -/
inductive Location where
  | query | body | path | header | formData
  deriving DecidableEq, Repr, Inhabited

/-- The name of a location. -/
def Location.name : Location → String
  | query => "query"
  | body => "body"
  | path => "path"
  | header => "header"
  | formData => "formData"

/-- The locations with their names. -/
def Location.variants : List (String × Location) :=
  [query, body, path, header, formData].map fun l => (l.name, l)

/-- A parameter of an operation.  A body parameter has a schema, every other one says its type
itself. -/
structure Parameter where
  name : String
  location : Location
  description : Option String
  required : Bool
  type : Option String
  format : Option String
  items : Option Schema
  schema : Option Schema
  deriving Repr, Inhabited

/-- What a parameter says about its type, as a schema. -/
def Parameter.toSchema (p : Parameter) : Schema :=
  { Schema.blank with type := p.type, format := p.format, items := p.items }

/-- A parameter in place, or a reference to one that operations share. -/
inductive ParameterEntry where
  | reference (target : String)
  | inline (p : Parameter)
  deriving Repr, Inhabited

/-- A response: the type it has by reference, or what it says itself. -/
inductive Response where
  | reference (target : String)
  | inline (description : Option String) (schema : Option Schema)
  deriving Repr, Inhabited

/-- What can be requested with one verb on one path. -/
structure Operation where
  summary : Option String
  description : Option String
  operationId : Option String
  tags : List String
  parameters : List ParameterEntry
  /-- The responses by status. -/
  responses : Dict Response
  deriving Repr, Inhabited

/-- The response to a request that succeeds. -/
def Operation.success? (o : Operation) : Option Response :=
  o.responses.get? "200"

/-- The operations on one path. -/
structure PathItem where
  get : Option Operation
  put : Option Operation
  post : Option Operation
  delete : Option Operation
  options : Option Operation
  head : Option Operation
  patch : Option Operation
  deriving Repr, Inhabited

/-- The operation for a verb. -/
def PathItem.operation? (p : PathItem) : Verb → Option Operation
  | .get => p.get
  | .put => p.put
  | .post => p.post
  | .delete => p.delete
  | .options => p.options
  | .head => p.head
  | .patch => p.patch

/-! ## Documents -/

/-- What a document says about itself. -/
structure Info where
  title : Option String
  version : Option String
  description : Option String
  deriving Repr, Inhabited

/-- The description of an API. -/
structure Document where
  /-- The version of the form it is written in. -/
  swagger : Option String
  /-- The version of the later form, if it is written in that one. -/
  openapi : Option String
  info : Option Info
  basePath : Option String
  paths : Dict PathItem
  definitions : Dict Schema
  /-- The parameters that operations share. -/
  parameters : Dict Parameter
  /-- The fingerprint of the text it was read from. -/
  checksum : Option Checksum
  deriving Repr, Inhabited

/-- A text without a beginning, if it has it. -/
def dropHead? (head text : String) : Option String :=
  (head.toList.isPrefixOf? text.toList).map String.ofList

/-- The beginning of every reference to a definition of the same document. -/
def definitionsHead : String := "#/definitions/"

/-- The beginning of every reference to a shared parameter of the same document. -/
def parametersHead : String := "#/parameters/"

/-- The key of the definition that a reference names. -/
def refKey (reference : String) : String :=
  (dropHead? definitionsHead reference).getD reference

namespace Document

/-- The definition that a reference names. -/
def definition? (d : Document) (reference : String) : Option Schema :=
  d.definitions.get? (refKey reference)

/-- The parameter of an entry: itself, or the shared one it refers to. -/
def parameter? (d : Document) : ParameterEntry → Option Parameter
  | .inline p => some p
  | .reference target => (dropHead? parametersHead target).bind d.parameters.get?

/-- The version of a document in another form than the one whose references are followed here.  A
document without a version is taken to be in this form. -/
def unsupported? (d : Document) : Option String :=
  match d.openapi, d.swagger with
  | some v, _ => some ("openapi " ++ v)
  | none, some v =>
    if v == "2" || (dropHead? "2." v).isSome then none else some ("swagger " ++ v)
  | none, none => none

end Document

end ApiOutline
