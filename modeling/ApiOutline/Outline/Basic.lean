import ApiOutline.Cycle.Basic
import ApiOutline.Outline.Request
import ApiOutline.Settings.Basic

/-!
# Outlines

The outline of an API is what generated code is made of: the endpoints by groups, the models they use,
and the diagnostics of the run that found them.

* `Outline.ofDocument`: the outline of a document.
* `Outline.endpointsOf`, `Outline.grouped`: the endpoints of one group and of all groups.
-/

namespace ApiOutline

/-- The outline of an API. -/
structure Outline where
  /-- The fingerprint of the document. -/
  documentHash : Option Checksum
  /-- The name of the service. -/
  baseName : Option String
  /-- The names of the groups. -/
  groups : NameSet
  /-- The endpoints, ordered by their groups. -/
  endpoints : List Endpoint
  /-- The models, ordered by their names. -/
  models : List Model
  diagnostics : List Diagnostic
  deriving DecidableEq, Repr, Inhabited

namespace Outline

/-! ## Looking things up -/

/-- The endpoints of a group. -/
def endpointsOf (o : Outline) (group : String) : List Endpoint :=
  o.endpoints.filter fun e => e.group == group

/-- The groups with their endpoints. -/
def grouped (o : Outline) : List (String × List Endpoint) :=
  o.groups.names.map fun group => (group, o.endpointsOf group)

/-- The first model with a name. -/
def model? (o : Outline) (name : String) : Option Model :=
  o.models.find? fun m => m.name == name

/-- The first endpoint on a path. -/
def endpoint? (o : Outline) (path : String) : Option Endpoint :=
  o.endpoints.find? fun e => e.path == path

/-! ## The outline of a document -/

/-- An operation with its path and its verb. -/
structure Request where
  path : String
  verb : Verb
  operation : Operation

/-- The operations that the settings take from a document, in the order of its paths. -/
def requests (c : OutlineSettings) (d : Document) : List Request :=
  (d.paths.entries.filter fun p => c.filter.allows p.1).flatMap fun p =>
    c.verbs.filterMap fun verb => (p.2.operation? verb).map fun o => ⟨p.1, verb, o⟩

/-- The endpoint of a request. -/
def Request.endpoint (c : OutlineSettings) (d : Document) (r : Request) : Endpoint :=
  r.operation.endpoint d c.naming r.path r.verb

/-- What a run does for a request. -/
def Request.tasks (d : Document) (r : Request) : List Task :=
  r.operation.tasks d r.path

/-- The state before the first request: the cycles of the document are known. -/
def opening (d : Document) : Progress :=
  { Progress.start with
    diagnostics := d.cycles.map fun g => Diagnostic.referenceCycle g.members }

/-- The state after all requests. -/
def progress (c : OutlineSettings) (d : Document) : Progress :=
  Scope.run ⟨d, c.wrappers⟩ (opening d) ((requests c d).flatMap (Request.tasks d))

/-- The outline of a document. -/
def ofDocument (c : OutlineSettings) (d : Document) : Outline :=
  let endpoints := (requests c d).map (Request.endpoint c d)
  let final := progress c d
  { documentHash := d.checksum
    baseName := c.naming.serviceName?
    groups := NameSet.ofNames (endpoints.map Endpoint.group)
    endpoints := endpoints.mergeSort fun a b => decide (a.group ≤ b.group)
    models := final.registry.sorted
    diagnostics := final.diagnostics }

end Outline

end ApiOutline
