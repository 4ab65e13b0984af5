import ApiOutline.Json.Basic
import ApiOutline.Json.Record
import ApiOutline.Settings.Basic

/-!
# The written form of settings

Every setting is written; in reading, one that is left out has its default.
-/

namespace ApiOutline

open Json

/-- The layouts with their names. -/
def Layout.variants : List (String × Layout) :=
  [("pretty", pretty), ("compact", compact)]

/-- The name of a layout. -/
def Layout.name : Layout → String
  | pretty => "pretty"
  | compact => "compact"

namespace NamingRules

/-- The written form of naming rules. -/
def encode (r : NamingRules) : Json :=
  .obj (field "tag_index" (orNull nat r.tagIndex) ++ field "api_cut" (.arr (r.cut.map nat))
    ++ field "base_name" (orNull str r.baseName) ++ field "base_url" (orNull str r.baseUrl))

/-- The fields of naming rules. -/
def record : Record NamingRules where
  name := "NamingConfig"
  blank := .default
  fields := [
    .optional "tag_index" .size fun v r => { r with tagIndex := v },
    .spare "api_cut" (.list .size) fun v r => { r with cut := v },
    .optional "base_name" .text fun v r => { r with baseName := v },
    .optional "base_url" .text fun v r => { r with baseUrl := v }]

/-- Decodes naming rules. -/
def decoder : Decoder NamingRules :=
  record.decoder

end NamingRules

namespace PathFilter

/-- The written form of a filter. -/
def encode (f : PathFilter) : Json :=
  .obj (field "paths" (strs f.paths) ++ field "exclude_paths" (strs f.excluded))

/-- The fields of a filter. -/
def record : Record PathFilter where
  name := "PathFilter"
  blank := .default
  fields := [
    .spare "paths" (.list .text) fun v f => { f with paths := v },
    .spare "exclude_paths" (.list .text) fun v f => { f with excluded := v }]

/-- Decodes a filter. -/
def decoder : Decoder PathFilter :=
  record.decoder

end PathFilter

namespace OutlineSettings

/-- The written form of the settings of an outline. -/
def encode (c : OutlineSettings) : Json :=
  .obj (field "naming" c.naming.encode ++ field "filter" c.filter.encode
    ++ field "methods" (strs (c.verbs.map Verb.name))
    ++ field "model_namespace" (orNull str c.modelNamespace)
    ++ field "generic_wrappers" (.obj (c.wrappers.entries.map fun w => (w.1, .str w.2))))

/-- The fields of the settings of an outline. -/
def record : Record OutlineSettings where
  name := "CodegenConfig"
  blank := .default
  fields := [
    .spare "naming" NamingRules.decoder fun v c => { c with naming := v },
    .spare "filter" PathFilter.decoder fun v c => { c with filter := v },
    .spare "methods" (.list (.variant Verb.variants)) fun v c => { c with verbs := v },
    .optional "model_namespace" .text fun v c => { c with modelNamespace := v },
    .spare "generic_wrappers" (.dict .text) fun v c => { c with wrappers := NameMap.ofList v.entries }]

/-- Decodes the settings of an outline. -/
def decoder : Decoder OutlineSettings :=
  record.decoder

end OutlineSettings

namespace OutputSettings

/-- The written form of output settings. -/
def encode (o : OutputSettings) : Json :=
  .obj (field "dir" (.str o.dir) ++ field "format" (.str o.layout.name)
    ++ field "view" (.bool o.view))

/-- The fields of output settings. -/
def record : Record OutputSettings where
  name := "OutputConfig"
  blank := .default
  fields := [
    .spare "dir" .path fun v o => { o with dir := v },
    .spare "format" (.variant Layout.variants) fun v o => { o with layout := v },
    .spare "view" .bool fun v o => { o with view := v }]

/-- Decodes output settings. -/
def decoder : Decoder OutputSettings :=
  record.decoder

end OutputSettings

/-- The written form of the place of a document. -/
def encodeSource (document : Option String) : Json :=
  .obj (field "document" (orNull str document))

/-- The fields of the place of a document. -/
def sourceRecord : Record (Option String) where
  name := "SourceConfig"
  blank := none
  fields := [.optional "document" .path fun v _ => v]

namespace Settings

/-- The written form of settings. -/
def encode (c : Settings) : Json :=
  .obj (field "source" (encodeSource c.document) ++ field "output" c.output.encode
    ++ field "codegen" c.outline.encode)

/-- The fields of settings. -/
def record : Record Settings where
  name := "GeneratorConfig"
  blank := .default
  fields := [
    .spare "source" sourceRecord.decoder fun v c => { c with document := v },
    .spare "output" OutputSettings.decoder fun v c => { c with output := v },
    .spare "codegen" OutlineSettings.decoder fun v c => { c with outline := v }]

/-- Decodes settings. -/
def decoder : Decoder Settings :=
  record.decoder

end Settings

end ApiOutline
