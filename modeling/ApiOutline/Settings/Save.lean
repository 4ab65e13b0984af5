import ApiOutline.Settings.Codec
import ApiOutline.Toml.Printer

/-!
# Saving settings

Settings are saved as a TOML document.  What has no value is left out.

* `Settings.sections`: the sections of the document.
* `Settings.save`: the document, unless a number is too large for it.
-/

namespace ApiOutline.Settings

open Toml (Pair Section integerMax write)

/-- A pair with a key of one part. -/
def pair (key : String) (value : Toml.Value) : Pair :=
  ⟨[key], value⟩

/-- The pair of a setting with a value. -/
def pairIfSome {α : Type} (key : String) (value : α → Toml.Value) (a : Option α) : List Pair :=
  a.toList.map fun a => pair key (value a)

/-- A natural number as a value. -/
def numberValue (n : Nat) : Toml.Value :=
  .integer n

/-- Texts as a value. -/
def textsValue (texts : List String) : Toml.Value :=
  .array (texts.map .text)

/-- The sections of a document with the settings. -/
def sections (c : Settings) : List Section :=
  let o := c.outline
  [⟨["source"], false, pairIfSome "document" .text c.document⟩,
   ⟨["output"], false,
    [pair "dir" (.text c.output.dir), pair "format" (.text c.output.layout.name),
     pair "view" (.bool c.output.view)]⟩,
   ⟨["codegen"], false,
    pair "methods" (textsValue (o.verbs.map Verb.name))
      :: pairIfSome "model_namespace" .text o.modelNamespace⟩,
   ⟨["codegen", "naming"], false,
    pairIfSome "tag_index" numberValue o.naming.tagIndex
      ++ [pair "api_cut" (.array (o.naming.cut.map numberValue))]
      ++ pairIfSome "base_name" .text o.naming.baseName
      ++ pairIfSome "base_url" .text o.naming.baseUrl⟩,
   ⟨["codegen", "filter"], false,
    [pair "paths" (textsValue o.filter.paths), pair "exclude_paths" (textsValue o.filter.excluded)]⟩,
   ⟨["codegen", "generic_wrappers"], false, o.wrappers.entries.map fun w => pair w.1 (.text w.2)⟩]

/-- The numbers in the settings. -/
def numbers (c : Settings) : List Nat :=
  c.outline.naming.tagIndex.toList ++ c.outline.naming.cut

/-- A number is greater than the greatest integer of a document. -/
structure TooLarge where
  number : Nat
  deriving DecidableEq, Repr

/-- The wording of the error. -/
def TooLarge.message (_ : TooLarge) : String :=
  "out-of-range value for u64 type"

/-- The document with the settings, unless a number is too large for it. -/
def save (c : Settings) : Except TooLarge String :=
  match c.numbers.find? (integerMax < ·) with
  | some n => .error ⟨n⟩
  | none => .ok (write c.sections)

end ApiOutline.Settings
