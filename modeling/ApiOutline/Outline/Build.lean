import ApiOutline.Outline.Request
import ApiOutline.Resolution.Walk

/-!
# Building endpoints

The walk through an operation: its parameters, the query parameters among them, the first body
parameter and the response, in this order.  It gives the endpoint of the operation and leaves behind the
models and the diagnostics it has come across.

* `Operation.walkParameters`, `walkParams`, `walkData`, `walkReturn`: the parts.
* `Operation.build`: the whole.
* `Call`: what a caller may ask for, lookups included.
-/

namespace ApiOutline

namespace Operation

/-! ## Parts of an operation -/

/-- The walk through the parameters.  One that refers to no shared parameter is left out, and the loss
is recorded. -/
def walkParameters (d : Document) (path : String) (o : Operation) : Walk (List Parameter) :=
  o.parameters.filterMapM fun entry =>
    match d.parameter? entry, entry with
    | some p, _ => pure (some p)
    | none, .reference target => do
      modify (·.note (.unresolvedReference path target))
      return none
    | none, .inline _ => pure none

/-- The walk through a query parameter. -/
def walkQuery (scope : Scope) (p : Parameter) : Walk Property := do
  let type ← walkItems scope.follow p.toSchema
  return ⟨p.name, p.description, type, p.required⟩

/-- The walk through the query parameters.  They become the properties of a model, which is registered
unless its name is taken. -/
def walkParams (scope : Scope) (path operationName : String) (o : Operation)
    (ps : List Parameter) : Walk (Option (Argument TypeExpr)) := do
  let properties ← (queryParameters ps).mapM (walkQuery scope)
  if properties.isEmpty then
    return none
  let name := paramsName operationName
  modify fun s => Scope.offer s path ⟨name, name, o.summary, properties⟩
  return some ⟨.model name, properties.any Property.required⟩

/-- The walk through a schema that may be missing. -/
def walkSchema? (scope : Scope) : Option Schema → Walk (Option TypeExpr)
  | none => pure none
  | some schema => walkSchema scope.follow schema

/-- Records how many body parameters there are, if there are several. -/
def noteBodies (path : String) (count : Nat) : Walk Unit :=
  if 1 < count then modify (·.note (.severalBodies path count)) else pure ()

/-- The walk through the first body parameter.  Further ones are ignored, and that there are any is
recorded. -/
def walkData (scope : Scope) (path : String) (ps : List Parameter) :
    Walk (Option (Argument (Option TypeExpr))) :=
  let bodies := bodyParameters ps
  match bodies.head? with
  | none => pure none
  | some body => do
    noteBodies path bodies.length
    let type? ← walkSchema? scope body.schema
    return some ⟨type?, body.required⟩

/-- The walk to the type that a response declares. -/
def walkResponse (scope : Scope) : Option Response → Walk (Option TypeExpr)
  | some (.reference target) => some <$> scope.follow target
  | some (.inline _ schema) => walkSchema? scope schema
  | none => pure none

/-- The walk through the response to a request that succeeds.  If it has no type, nothing is taken to
be returned, and that is recorded. -/
def walkReturn (scope : Scope) (path : String) (o : Operation) : Walk TypeExpr := do
  match ← walkResponse scope o.success? with
  | some (.unresolved _) | none =>
    modify (·.note (.missingResponse path))
    return .void
  | some e => return e

/-! ## The whole operation -/

/-- The walk through an operation; it gives the endpoint. -/
def build (scope : Scope) (rules : NamingRules) (path : String) (verb : Verb) (o : Operation) :
    Walk Endpoint := do
  let ps ← o.walkParameters scope.document path
  let params ← o.walkParams scope path (Naming.operationName path) ps
  let data ← walkData scope path ps
  let returned ← o.walkReturn scope path
  return o.endpointWith rules path verb params data returned

end Operation

/-! ## Calls -/

/-- Something that a caller may ask for. -/
inductive Call where
  | lookup (l : Lookup)
  | parameters (path : String) (o : Operation)
  | params (path operationName : String) (o : Operation) (ps : List Parameter)
  | data (path : String) (ps : List Parameter)
  | returned (path : String) (o : Operation)
  | build (path : String) (verb : Verb) (o : Operation)

namespace Call

/-- The walk that answers a call, without its answer. -/
def walk (scope : Scope) (rules : NamingRules) : Call → Walk Unit
  | lookup l => discard (l.walk scope)
  | parameters path o => discard (o.walkParameters scope.document path)
  | params path operationName o ps => discard (o.walkParams scope path operationName ps)
  | data path ps => discard (Operation.walkData scope path ps)
  | returned path o => discard (o.walkReturn scope path)
  | build path verb o => discard (o.build scope rules path verb)

/-- What a run does for a call. -/
def tasks (d : Document) : Call → List Task
  | lookup l => followAll l.references
  | parameters path o => o.parameterTasks d path
  | params path operationName o ps => o.paramsTasks d path operationName ps
  | data path ps => Operation.dataTasks path ps
  | returned path o => o.returnTasks d path
  | build path _ o => o.tasks d path

end Call

end ApiOutline
