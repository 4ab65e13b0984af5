import ApiOutline.Naming.Path
import ApiOutline.Outline.Endpoint
import ApiOutline.Resolution.Run

/-!
# Requests

What an operation of a document becomes.  The endpoint depends on the document, the path, the verb and
the operation alone; what a run does for it is a list of tasks.

The query parameters of an operation are the properties of a model of their own.  The first body
parameter gives the type of what is sent, the response to a request that succeeds the type of what is
received.

* `Operation.endpoint`: the endpoint of an operation.
* `Operation.tasks`: what a run does for it.
-/

namespace ApiOutline

/-- The type of something that is sent. -/
structure Argument (τ : Type) where
  type : τ
  /-- Whether it has to be sent. -/
  required : Bool
  deriving DecidableEq, Repr

namespace Operation

/-! ## Parameters -/

/-- The parameters of an operation, references to shared ones followed. -/
def parametersIn (d : Document) (o : Operation) : List Parameter :=
  o.parameters.filterMap d.parameter?

/-- The references of an operation that name no shared parameter. -/
def missingParameters (d : Document) (o : Operation) : List String :=
  o.parameters.filterMap fun
    | .inline _ => none
    | .reference target => if (d.parameter? (.reference target)).isNone then some target else none

/-- What a run does for the parameters. -/
def parameterTasks (d : Document) (path : String) (o : Operation) : List Task :=
  (o.missingParameters d).map fun target => .note (.unresolvedReference path target)

/-! ## Query parameters -/

/-- The parameters that travel in the query. -/
def queryParameters (ps : List Parameter) : List Parameter :=
  ps.filter fun p => p.location == .query

/-- A query parameter as a property. -/
def queryProperty (d : Document) (p : Parameter) : Property :=
  ⟨p.name, p.description, d.itemsType p.toSchema, p.required⟩

/-- The name of the model of the query parameters of an operation. -/
def paramsName (operationName : String) : String :=
  Naming.capitalizeFirst operationName ++ "Params"

/-- The model of the query parameters, if there are any. -/
def paramsModel? (d : Document) (operationName : String) (o : Operation) (ps : List Parameter) :
    Option Model :=
  match queryParameters ps with
  | [] => none
  | query =>
    let name := paramsName operationName
    some ⟨name, name, o.summary, query.map (queryProperty d)⟩

/-- The type of the query parameters, which are required as soon as one of them is. -/
def paramsArgument? (d : Document) (operationName : String) (o : Operation) (ps : List Parameter) :
    Option (Argument TypeExpr) :=
  (o.paramsModel? d operationName ps).map fun m =>
    ⟨.model m.name, m.properties.any Property.required⟩

/-- What a run does for the query parameters. -/
def paramsTasks (d : Document) (path operationName : String) (o : Operation) (ps : List Parameter) :
    List Task :=
  followAll ((queryParameters ps).flatMap fun p => itemsReferences p.toSchema)
    ++ (o.paramsModel? d operationName ps).toList.map (.offer path)

/-! ## Bodies -/

/-- The parameters that travel in the body. -/
def bodyParameters (ps : List Parameter) : List Parameter :=
  ps.filter fun p => p.location == .body

/-- The type of the body: of the first body parameter, as far as its schema has a type. -/
def dataArgument? (d : Document) (ps : List Parameter) : Option (Argument (Option TypeExpr)) :=
  (bodyParameters ps).head?.map fun p => ⟨p.schema.bind d.schemaType?, p.required⟩

/-- What a run does for the body. -/
def dataTasks (path : String) (ps : List Parameter) : List Task :=
  let bodies := bodyParameters ps
  (if 1 < bodies.length then [.note (.severalBodies path bodies.length)] else [])
    ++ followAll ((bodies.head?.bind Parameter.schema).toList.flatMap schemaReferences)

/-! ## Responses -/

/-- The type that a response declares. -/
def declaredResponse? (d : Document) : Option Response → Option TypeExpr
  | some (.reference target) => some (d.referenceType target)
  | some (.inline _ schema) => schema.bind d.schemaType?
  | none => none

/-- A type that is not a reference without a target. -/
def resolved? : TypeExpr → Option TypeExpr
  | .unresolved _ => none
  | e => some e

/-- The type of the response to a request that succeeds, if it has one. -/
def responseType? (d : Document) (o : Operation) : Option TypeExpr :=
  (declaredResponse? d o.success?).bind resolved?

/-- The references followed for the response. -/
def responseReferences (o : Operation) : List String :=
  match o.success? with
  | some (.reference target) => [target]
  | some (.inline _ schema) => schema.toList.flatMap schemaReferences
  | none => []

/-- The type that an operation returns. -/
def returnType (d : Document) (o : Operation) : TypeExpr :=
  (o.responseType? d).getD .void

/-- What a run does for the response. -/
def returnTasks (d : Document) (path : String) (o : Operation) : List Task :=
  followAll o.responseReferences
    ++ if (o.responseType? d).isNone then [.note (.missingResponse path)] else []

/-! ## Operations -/

/-- The endpoint of an operation with the given types of what is sent and received. -/
def endpointWith (rules : NamingRules) (path : String) (verb : Verb) (o : Operation)
    (params : Option (Argument TypeExpr)) (data : Option (Argument (Option TypeExpr)))
    (returned : TypeExpr) : Endpoint :=
  { group := rules.groupName path
    path := (rules.baseUrl.bind NamingRules.unlessEmpty).getD "" ++ path
    style := if returned.isVoid then .download else .verb verb
    name := Naming.operationName path
    fullName := rules.fullName path
    summary := o.summary
    paramsType := params.map Argument.type
    paramsRequired := params.map Argument.required
    dataType := data.bind Argument.type
    dataRequired := data.map Argument.required
    returnType := returned
    hasBody := !verb.isReadOnly
    hasArgs := params.isSome || (data.bind Argument.type).isSome
    hasReturn := !returned.isVoid }

/-- The endpoint of an operation. -/
def endpoint (d : Document) (rules : NamingRules) (path : String) (verb : Verb) (o : Operation) :
    Endpoint :=
  let ps := o.parametersIn d
  o.endpointWith rules path verb (o.paramsArgument? d (Naming.operationName path) ps)
    (dataArgument? d ps) (o.returnType d)

/-- What a run does for an operation. -/
def tasks (d : Document) (path : String) (o : Operation) : List Task :=
  let ps := o.parametersIn d
  o.parameterTasks d path ++ o.paramsTasks d path (Naming.operationName path) ps
    ++ dataTasks path ps ++ o.returnTasks d path

end Operation

end ApiOutline
