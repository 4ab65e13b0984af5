/-!
# Diagnostics

Things that a run comes across and works around.  A warning says that something of the document is
missing or ambiguous, an information that something is worth knowing.

* `Diagnostic`: a subject, a code and a message, and one builder for each code.
* `Diagnostic.line`, `Diagnostic.report`: one diagnostic and several, as they are shown.
-/

namespace ApiOutline

/-- How serious a diagnostic is. -/
inductive Severity where
  | info
  | warning
  deriving DecidableEq, Repr, Inhabited

/-- The name of a severity. -/
def Severity.name : Severity → String
  | info => "info"
  | warning => "warning"

/-- The severities with their names. -/
def Severity.variants : List (String × Severity) :=
  [info, warning].map fun s => (s.name, s)

/-- What a diagnostic is about. -/
inductive DiagnosticCode where
  /-- A reference has no target. -/
  | unresolvedReference
  /-- An operation has several body parameters. -/
  | severalBodies
  /-- An operation has no type for the response to a request that succeeds. -/
  | missingResponse
  /-- Two different models want one name. -/
  | nameCollision
  /-- Definitions refer to each other in a circle. -/
  | referenceCycle
  deriving DecidableEq, Repr, Inhabited

namespace DiagnosticCode

/-- Every code, in the order of its definition. -/
def all : List DiagnosticCode :=
  [unresolvedReference, severalBodies, missingResponse, nameCollision, referenceCycle]

/-- The name of a code in written diagnostics. -/
def name : DiagnosticCode → String
  | unresolvedReference => "UnresolvedRef"
  | severalBodies => "MultipleBodyParams"
  | missingResponse => "MissingResponseSchema"
  | nameCollision => "ModelNameCollision"
  | referenceCycle => "ReferenceCycle"

/-- The short form of a code in shown diagnostics. -/
def label : DiagnosticCode → String
  | unresolvedReference => "W001"
  | severalBodies => "W002"
  | missingResponse => "W003"
  | nameCollision => "W004"
  | referenceCycle => "I001"

/-- How serious a diagnostic with the code is. -/
def severity : DiagnosticCode → Severity
  | referenceCycle => .info
  | _ => .warning

/-- The codes with their names. -/
def variants : List (String × DiagnosticCode) :=
  all.map fun c => (c.name, c)

end DiagnosticCode

/-- Something a run has come across. -/
structure Diagnostic where
  /-- What it is about: a path, a definition key or a reference. -/
  subject : String
  code : DiagnosticCode
  message : String
  deriving DecidableEq, Repr, Inhabited

namespace Diagnostic

/-- How serious the diagnostic is. -/
def severity (d : Diagnostic) : Severity :=
  d.code.severity

/-- Whether the diagnostic is a warning. -/
def isWarning (d : Diagnostic) : Bool :=
  d.severity == .warning

/-- A reference has no target. -/
def unresolvedReference (subject reference : String) : Diagnostic :=
  ⟨subject, .unresolvedReference, "$ref target '" ++ reference ++ "' not found"⟩

/-- The operations on a path have `count` body parameters. -/
def severalBodies (path : String) (count : Nat) : Diagnostic :=
  ⟨path, .severalBodies, toString count ++ " body parameters declared, using the first"⟩

/-- An operation on a path has no type for its response. -/
def missingResponse (path : String) : Diagnostic :=
  ⟨path, .missingResponse, "success response has no resolvable type, treating as download"⟩

/-- The name of a model is taken by a different one. -/
def nameCollision (path model : String) : Diagnostic :=
  ⟨path, .nameCollision,
    "model '" ++ model ++ "' already registered with different properties, keeping the first"⟩

/-- The definitions `members` refer to each other. -/
def referenceCycle (members : List String) : Diagnostic :=
  ⟨members.headD "", .referenceCycle,
    "definitions reference each other: " ++ " -> ".intercalate members⟩

/-! ## Showing diagnostics -/

/-- A diagnostic on one line. -/
def line (d : Diagnostic) : String :=
  "[" ++ d.code.label ++ "] " ++ d.severity.name ++ ": " ++ d.message ++ " (" ++ d.subject ++ ")"

/-- The number of warnings. -/
def warningCount (ds : List Diagnostic) : Nat :=
  ds.countP isWarning

/-- Diagnostics line by line with the number of warnings after them; nothing if there are none. -/
def report (ds : List Diagnostic) : String :=
  if ds.isEmpty then ""
  else
    String.join (ds.map fun d => d.line ++ "\n")
      ++ "\n" ++ toString (warningCount ds) ++ " warning(s)\n"

end Diagnostic

end ApiOutline
