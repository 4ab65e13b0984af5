import ApiOutline.CommandLine.Host
import ApiOutline.CommandLine.Invocation
import ApiOutline.Document.Codec
import ApiOutline.Outline.Codec
import ApiOutline.Outline.Listing
import ApiOutline.Settings.Load
import ApiOutline.Settings.Save

/-!
# Runs of the program

What the program does on a host: it loads settings, and then writes the outline of a document or the
settings themselves.

* `RunError`: what can go wrong, with its wording in `RunError.message`.
* `loadSettings`: the settings on a host.
* `execute`: a run, which comes to an exit code.
-/

namespace ApiOutline.CommandLine

/-! ## Errors -/

/-- What can go wrong in a run. -/
inductive RunError where
  | settings (e : Settings.LoadError)
  /-- No document is named. -/
  | noDocument
  /-- A document cannot be read. -/
  | document (path : String) (e : Document.ReadError)
  /-- A document is not there. -/
  | documentFile (path : String) (f : FileFault)
  /-- The folder for the results cannot be made. -/
  | outputFolder (path : String) (f : FileFault)
  /-- A result cannot be written. -/
  | result (f : FileFault)
  /-- The settings cannot be shown. -/
  | show_ (e : Settings.TooLarge)
  /-- The settings cannot be put into the form of a file. -/
  | save (e : Settings.TooLarge)
  /-- The settings cannot be written to a file. -/
  | saveFile (f : FileFault)
  /-- There are warnings, and they are not accepted. -/
  | warnings (n : Nat)

/-- An error with its cause, where the error is worded by its cause. -/
def withCause (error cause : String) : String :=
  error ++ cause ++ ": " ++ cause

/-- The wording of why a document cannot be read, with its cause. -/
def readMessage : Document.ReadError → String
  | .json f => (Document.ReadError.json f).message ++ ": " ++ f.message
  | .version v => (Document.ReadError.version v).message

/-- The wording of an error, followed by those of its causes. -/
def RunError.message : RunError → String
  | settings e => "failed to load configuration: " ++ e.message
  | noDocument => "no source document: pass --document or set [source] document"
  | document path e => "failed to load " ++ path ++ ": " ++ readMessage e
  | documentFile path f => "failed to load " ++ path ++ ": " ++ withCause "IO error: " f.message
  | outputFolder path f => "failed to create " ++ path ++ ": " ++ f.message
  | result f => f.message
  | show_ e => e.message
  | save e => withCause "TOML error: " e.message
  | saveFile f => withCause "IO error: " f.message
  | warnings n => toString n ++ " warning(s) recorded"

/-- A result, or an error of a run. -/
def orFail {α ε : Type} (error : ε → RunError) (a : Except ε α) : Except RunError α :=
  a.mapError error

section

variable {m : Type → Type} [Monad m]

/-! ## Settings -/

/-- The files with settings that are read if they are there. -/
def usualFiles : List String :=
  ["codegen.toml", ".codegen.toml", "config/codegen.toml"]

/-- The file with the settings of the user. -/
def userFile? (environment : List (String × String)) : Option String :=
  let folder :=
    match (environment.lookup "XDG_CONFIG_HOME").filter isAbsolute with
    | some folder => some folder
    | none => ((environment.lookup "HOME").filter fun (h : String) => !h.isEmpty).map (join · ".config")
  folder.map fun f => join (join f "codegen") "codegen.toml"

/-- The text of a file that is known to be there; one that cannot be read counts as missing. -/
def textSource (host : Host m) (name path : String) : m Settings.Source := do
  match ← host.read path with
  | .ok bytes => return .text name (Text.textOfBytes bytes)
  | .error _ => return .missing name

/-- The file with settings under a name, which may be written without its extension. -/
def findSource (host : Host m) (name : String) : m Settings.Source := do
  let path := join (← host.currentFolder) name
  if ← host.isFile path then
    if extension? path = some "toml" then textSource host name path
    else return .unknownForm path
  else
    match withExtension? path "toml" with
    | some path => if ← host.isFile path then textSource host name path else return .missing name
    | none => return .missing name

/-- The file with settings under a name, if there is one that can be read. -/
def findUsual (host : Host m) (name : String) : m (List Settings.Source) := do
  match ← findSource host name with
  | .text name contents => return [.text name contents]
  | _ => return []

/-- The file with the settings of the user, if it is there under its full name. -/
def findUser (host : Host m) (environment : List (String × String)) : m (List Settings.Source) := do
  match userFile? environment with
  | some path => if ← host.isFile path then findUsual host path else return []
  | none => return []

/-- The settings on a host, with those of one more file if its name is given. -/
def loadSettings (host : Host m) (file : Option String) :
    m (Except Settings.LoadError Settings) := do
  let environment ← host.environment
  let usual ← usualFiles.mapM (findUsual host)
  let user ← findUser host environment
  let chosen ← file.toList.mapM (findSource host)
  return Settings.load (usual.flatten ++ user ++ chosen) environment

/-- The folder for the results. -/
def outputFolder (currentFolder : String) (c : Settings) : String :=
  join currentFolder c.output.dir

/-! ## Commands -/

/-- Saves settings to a file. -/
def saveSettings (host : Host m) (c : Settings) (path : String) : ExceptT RunError m Unit := do
  let text ← orFail .save c.save
  let written ← host.write path text
  orFail .saveFile written

/-- Shows settings, or saves them to a file. -/
def config (host : Host m) (c : Settings) : Option String → ExceptT RunError m Unit
  | some path => do
    saveSettings host c path
    host.print ("✅ Configuration written to " ++ path ++ "\n")
  | none => do
    let text ← orFail .show_ c.save
    host.print text

/-- Reads a document. -/
def readDocument (host : Host m) (path : String) : ExceptT RunError m Document := do
  let bytes ← orFail (.documentFile path) (← host.read path)
  orFail (.document path) (Document.ofBytes bytes)

/-- Writes a result into a folder, and says so. -/
def writeResult (host : Host m) (c : Settings) (label path : String) (v : Json) :
    ExceptT RunError m Unit := do
  let written ← host.write path (c.output.layout.print v)
  orFail .result written
  host.print ("  " ++ label ++ ": " ++ path ++ "\n")

/-- The line that counts what is in an outline. -/
def countLine (o : Outline) : String :=
  "✅ " ++ toString o.groups.names.length ++ " apis, " ++ toString o.endpoints.length
    ++ " operations, " ++ toString o.models.length ++ " models\n"

/-- Writes the outline of a document. -/
def generate (host : Host m) (c : Settings) (denyWarnings : Bool) : ExceptT RunError m Unit := do
  match c.document with
  | none => throw .noDocument
  | some path =>
    host.print ("📄 Swagger Codegen\n  Document: " ++ path ++ "\n")
    let d ← readDocument host path
    let o := Outline.ofDocument c.outline d
    let folder := outputFolder (← host.currentFolder) c
    let made ← host.makeFolders folder
    orFail (.outputFolder folder) made
    writeResult host c "IR" (join folder "ir.json") o.encode
    if c.output.view then
      writeResult host c "View" (join folder "view.json")
        (Listing.ofOutline c.outline.modelNamespace o).encode
    host.print ("\n" ++ countLine o)
    if !o.diagnostics.isEmpty then
      host.print ("\n" ++ Diagnostic.report o.diagnostics)
    let n := Diagnostic.warningCount o.diagnostics
    if denyWarnings && 0 < n then throw (.warnings n)

/-- Does what the arguments ask for. -/
def perform (host : Host m) (i : Invocation) : ExceptT RunError m Unit := do
  let loaded ← (loadSettings host i.settings : m _)
  let c ← orFail .settings loaded
  match i.command with
  | .generate choices => generate host (choices.apply c) choices.denyWarnings
  | .config path => config host c path

/-! ## The program -/

/-- What is shown to one who asks for help. -/
def usage : String :=
  "Usage: api-outline [--config FILE] generate [--document FILE] [--output FOLDER] [--path PART]...\n"
    ++ "         [--exclude PART]... [--base-url URL] [--view] [--compact] [--deny-warnings]\n"
    ++ "       api-outline [--config FILE] config [--save FILE]\n"

/-- A run of the program; it comes to an exit code. -/
def execute (host : Host m) (arguments : List String) : m UInt32 := do
  match Invocation.ofArguments arguments with
  | .error .help =>
    host.print usage
    return 0
  | .error .misuse =>
    host.printError usage
    return 2
  | .ok i =>
    match ← (perform host i).run with
    | .ok () => return 0
    | .error e =>
      host.printError ("Error: " ++ e.message ++ "\n")
      return 1

end

end ApiOutline.CommandLine
