import ApiOutline.CommandLine.Options
import ApiOutline.Settings.Basic

/-!
# Invocations

What the arguments of the program ask for: one of two commands, and a file with settings for either.

* `Invocation.ofArguments`: reading the arguments.
* `Choices.apply`: settings with what is chosen on the command line.
-/

namespace ApiOutline.CommandLine

/-- What is chosen on the command line for making an outline. -/
structure Choices where
  document : Option String
  output : Option String
  paths : List String
  excluded : List String
  baseUrl : Option String
  view : Bool
  compact : Bool
  /-- Whether warnings make the run fail. -/
  denyWarnings : Bool
  deriving DecidableEq, Repr

/-- A command. -/
inductive Command where
  /-- Write the outline of a document. -/
  | generate (c : Choices)
  /-- Show the settings, or write them to a file. -/
  | config (save : Option String)
  deriving DecidableEq, Repr

/-- What the arguments ask for. -/
structure Invocation where
  /-- A file with settings. -/
  settings : Option String
  command : Command
  deriving DecidableEq, Repr

/-- The option for a file with settings. -/
def settingsForm : OptionForm := ⟨"config", some 'c', .value false⟩

/-- The options of the command that writes an outline. -/
def generateForms : List OptionForm :=
  [settingsForm, ⟨"document", some 'd', .value false⟩, ⟨"output", some 'o', .value false⟩,
    ⟨"path", some 'p', .values⟩, ⟨"exclude", some 'x', .values⟩,
    ⟨"base-url", some 'b', .value true⟩, ⟨"view", none, .nothing⟩, ⟨"compact", none, .nothing⟩,
    ⟨"deny-warnings", none, .nothing⟩]

/-- The options of the command that shows settings. -/
def configForms : List OptionForm :=
  [settingsForm, ⟨"save", none, .value false⟩]

/-- The choices that options make. -/
def Choices.ofReading (r : Reading) : Choices where
  document := r.value? "document"
  output := r.value? "output"
  paths := r.values "path"
  excluded := r.values "exclude"
  baseUrl := r.value? "base-url"
  view := r.has "view"
  compact := r.has "compact"
  denyWarnings := r.has "deny-warnings"

/-- The options of a command, which end with the arguments. -/
def readCommand (forms : List OptionForm) (arguments : List String) : Except Stop Reading := do
  let r ← readOptions forms arguments
  if r.rest.isEmpty then .ok r else .error .misuse

namespace Invocation

/-- Whether help is asked for with a command: about the program, or about one of its commands. -/
def isHelp : List String → Bool
  | [] => true
  | [name] => name == "generate" || name == "config" || name == "help"
  | _ => false

/-- What the arguments ask for.  A file with settings may be given before the command or after it; the
latter wins. -/
def ofArguments (arguments : List String) : Except Stop Invocation := do
  let before ← readOptions [settingsForm] arguments
  let settings (r : Reading) : Option String := (r.value? "config").or (before.value? "config")
  match before.rest with
  | "generate" :: rest =>
    let r ← readCommand generateForms rest
    return ⟨settings r, .generate (.ofReading r)⟩
  | "config" :: rest =>
    let r ← readCommand configForms rest
    return ⟨settings r, .config (r.value? "save")⟩
  | "help" :: rest => .error (if isHelp rest then .help else .misuse)
  | _ => .error .misuse

end Invocation

/-- A list, or another one if it is empty. -/
def orIfEmpty (chosen other : List String) : List String :=
  if chosen.isEmpty then other else chosen

/-- Settings with what is chosen on the command line. -/
def Choices.apply (c : Choices) (s : Settings) : Settings :=
  let o := s.outline
  { document := c.document.or s.document
    output :=
      { dir := c.output.getD s.output.dir
        layout := if c.compact then .compact else s.output.layout
        view := s.output.view || c.view }
    outline :=
      { o with
        filter := ⟨orIfEmpty c.paths o.filter.paths, orIfEmpty c.excluded o.filter.excluded⟩
        naming := { o.naming with baseUrl := c.baseUrl.or o.naming.baseUrl } } }

end ApiOutline.CommandLine
