import ApiOutline.Document.Verb
import ApiOutline.NameMap
import ApiOutline.Naming.Path

/-!
# Settings

What a user chooses about a run: how paths are named, which paths and verbs are taken, and how models
appear; where the document comes from, and where the results go.
-/

namespace ApiOutline

/-- Which paths are taken: those that hold one of `paths`, if there are any, and none of
`excluded`. -/
structure PathFilter where
  paths : List String
  excluded : List String
  deriving DecidableEq, Repr, Inhabited

/-- Whether `part` occurs in a text. -/
def occursIn (part : List Char) : List Char → Bool
  | [] => part.isEmpty
  | c :: rest => part.isPrefixOf (c :: rest) || occursIn part rest

/-- Whether a path is taken. -/
def PathFilter.allows (f : PathFilter) (path : String) : Bool :=
  (f.paths.isEmpty || f.paths.any fun p => occursIn p.toList path.toList)
    && !f.excluded.any fun p => occursIn p.toList path.toList

/-- What an outline depends on besides the document. -/
structure OutlineSettings where
  naming : NamingRules
  filter : PathFilter
  /-- The verbs taken from every path, in this order. -/
  verbs : List Verb
  /-- The namespace of models in shown types. -/
  modelNamespace : Option String
  /-- The property of a generic class that holds its type argument. -/
  wrappers : NameMap String
  deriving DecidableEq, Repr, Inhabited

/-- How results are written. -/
inductive Layout where
  | pretty
  | compact
  deriving DecidableEq, Repr, Inhabited

/-- Where results go. -/
structure OutputSettings where
  dir : String
  layout : Layout
  /-- Whether the listing for templates is written as well. -/
  view : Bool
  deriving DecidableEq, Repr, Inhabited

/-- Everything a user chooses. -/
structure Settings where
  /-- The file with the document. -/
  document : Option String
  output : OutputSettings
  outline : OutlineSettings
  deriving DecidableEq, Repr, Inhabited

/-! ## Defaults -/

/-- Names by the last two segments, nothing in front. -/
def NamingRules.default : NamingRules := ⟨none, [], none, none⟩

/-- Every path is taken. -/
def PathFilter.default : PathFilter := ⟨[], []⟩

/-- The property of the usual wrapper class that holds its type argument. -/
def defaultWrappers : NameMap String :=
  NameMap.empty.insert "Result<T>" "result"

/-- The verbs that are taken unless others are chosen. -/
def defaultVerbs : List Verb := [.get, .post]

/-- The namespace of models unless another one is chosen. -/
def defaultNamespace : Option String := some "models"

/-- The settings of an outline unless others are chosen. -/
def OutlineSettings.default : OutlineSettings :=
  ⟨.default, .default, defaultVerbs, defaultNamespace, defaultWrappers⟩

/-- The output settings unless others are chosen. -/
def OutputSettings.default : OutputSettings := ⟨"dist", .pretty, false⟩

/-- The settings unless others are chosen. -/
def Settings.default : Settings := ⟨none, .default, .default⟩

end ApiOutline
