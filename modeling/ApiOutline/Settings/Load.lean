import ApiOutline.Settings.Layer
import ApiOutline.Settings.Loose
import ApiOutline.Toml.Reading

/-!
# Loading settings

Settings are loaded from files and from the environment.  Each file lies as a layer over the ones
before it, the environment lies over all files, and what no layer sets has its default.

* `Source`: the files.
* `Settings.load`: the settings of files and environment.
* `LoadError`: what can be wrong with them.
-/

namespace ApiOutline.Settings

/-- A file with settings. -/
inductive Source where
  /-- A file with its text. -/
  | text (name contents : String)
  /-- A file that has to be there and is not. -/
  | missing (name : String)
  /-- A file in a form that is not known. -/
  | unknownForm (name : String)
  deriving DecidableEq, Repr

/-- What is wrong with the settings. -/
inductive LoadError where
  | missing (name : String)
  | unknownForm (name : String)
  /-- A file is no TOML document. -/
  | malformed (name : String)
  | misfit (m : Misfit)

/-- The wording of an error. -/
def LoadError.message : LoadError → String
  | missing name => "configuration file \"" ++ name ++ "\" not found"
  | unknownForm name => "configuration file \"" ++ name ++ "\" is not of a registered file format"
  | malformed name => "TOML parse error in " ++ name
  | misfit m => m.message

/-- The layer that a document makes. -/
def layerOf? (contents : String) : Option (List (String × Value)) :=
  (Toml.table? contents).bind ofDocument?

/-- The layer of a file. -/
def Source.layer : Source → Except LoadError (List (String × Value))
  | text name contents =>
    match layerOf? contents with
    | some entries => .ok entries
    | none => .error (.malformed name)
  | missing name => .error (.missing name)
  | unknownForm name => .error (.unknownForm name)

/-- The table of all files together. -/
def merged (sources : List Source) : Except LoadError (List (String × Value)) :=
  sources.foldlM (fun entries s => s.layer.map fun layer => overlayAll layer entries) []

/-- The settings of files and environment. -/
def load (sources : List Source) (environment : List (String × String)) :
    Except LoadError Settings := do
  let entries ← merged sources
  (ofEntries (overlayAll (environmentLayer environment) entries)).mapError .misfit

end ApiOutline.Settings
