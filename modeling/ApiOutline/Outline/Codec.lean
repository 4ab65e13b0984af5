import ApiOutline.Json.Printer
import ApiOutline.Model.Codec
import ApiOutline.Outline.Basic

/-!
# The written form of outlines

* `Diagnostic`, `Endpoint`: the parts of an outline.
* `Outline.encode`, `Outline.decoder`: outlines.
* `Layout.print`: a written form in the layout that a user chooses.
-/

namespace ApiOutline

open Json

/-- A written form in a layout. -/
def Layout.print : Layout → Json → String
  | pretty, v => v.pretty
  | compact, v => v.compact

/-- The written form of a fingerprint. -/
def Checksum.encode (c : Checksum) : Json :=
  .str c.hex

/-- Decodes a fingerprint, which may be any text. -/
def Checksum.decoder : Decoder Checksum :=
  Decoder.text.map Checksum.mk

/-! ## Diagnostics and cycle groups -/

namespace Diagnostic

/-- The written form of a diagnostic. -/
def encode (d : Diagnostic) : Json :=
  .obj (field "subject" (.str d.subject) ++ field "code" (.str d.code.name)
    ++ field "message" (.str d.message))

/-- The fields of a diagnostic. -/
def record : Record Diagnostic where
  name := "DiagnosticItem"
  blank := ⟨"", .unresolvedReference, ""⟩
  fields := [
    .needed "subject" .text fun v d => { d with subject := v },
    .needed "code" (.variant DiagnosticCode.variants) fun v d => { d with code := v },
    .needed "message" .text fun v d => { d with message := v }]

/-- Decodes a diagnostic. -/
def decoder : Decoder Diagnostic :=
  record.decoder

end Diagnostic

namespace CycleGroup

/-- The written form of a cycle group. -/
def encode (g : CycleGroup) : Json :=
  .obj (field "members" (strs g.members)
    ++ field "is_self_referential" (.bool g.isSelfReferential))

/-- The fields of a cycle group. -/
def record : Record CycleGroup where
  name := "CycleGroup"
  blank := ⟨[], false⟩
  fields := [
    .needed "members" (.list .text) fun v g => { g with members := v },
    .needed "is_self_referential" .bool fun v g => { g with isSelfReferential := v }]

/-- Decodes a cycle group. -/
def decoder : Decoder CycleGroup :=
  record.decoder

end CycleGroup

/-! ## Endpoints -/

namespace Endpoint

/-- The written form of an endpoint. -/
def encode (e : Endpoint) : Json :=
  .obj (field "apiName" (.str e.group) ++ field "path" (.str e.path)
    ++ field "method" (.str e.style.name) ++ field "name" (.str e.name)
    ++ field "fullName" (.str e.fullName) ++ fieldIfSome "summary" str e.summary
    ++ fieldIfSome "paramsType" TypeExpr.encode e.paramsType
    ++ fieldIfSome "paramsRequired" bool e.paramsRequired
    ++ fieldIfSome "dataType" TypeExpr.encode e.dataType
    ++ fieldIfSome "dataRequired" bool e.dataRequired
    ++ field "returnType" e.returnType.encode ++ field "hasBody" (.bool e.hasBody)
    ++ field "hasArgs" (.bool e.hasArgs) ++ field "hasReturn" (.bool e.hasReturn))

/-- The fields of an endpoint. -/
def record : Record Endpoint where
  name := "OperationDefinition"
  blank := ⟨"", "", .download, "", "", none, none, none, none, none, .void, false, false, false⟩
  fields := [
    .needed "apiName" .text fun v e => { e with group := v },
    .needed "path" .text fun v e => { e with path := v },
    .needed "method" (.variant CallStyle.variants) fun v e => { e with style := v },
    .needed "name" .text fun v e => { e with name := v },
    .needed "fullName" .text fun v e => { e with fullName := v },
    .optional "summary" .text fun v e => { e with summary := v },
    .optional "paramsType" TypeExpr.decoder fun v e => { e with paramsType := v },
    .optional "paramsRequired" .bool fun v e => { e with paramsRequired := v },
    .optional "dataType" TypeExpr.decoder fun v e => { e with dataType := v },
    .optional "dataRequired" .bool fun v e => { e with dataRequired := v },
    .needed "returnType" TypeExpr.decoder fun v e => { e with returnType := v },
    .needed "hasBody" .bool fun v e => { e with hasBody := v },
    .needed "hasArgs" .bool fun v e => { e with hasArgs := v },
    .needed "hasReturn" .bool fun v e => { e with hasReturn := v }]

/-- Decodes an endpoint. -/
def decoder : Decoder Endpoint :=
  record.decoder

end Endpoint

/-! ## Outlines -/

namespace Outline

/-- The written form of an outline. -/
def encode (o : Outline) : Json :=
  .obj (fieldIfSome "documentHash" Checksum.encode o.documentHash
    ++ fieldIfSome "baseName" str o.baseName ++ field "apis" (strs o.groups.names)
    ++ field "operations" (.arr (o.endpoints.map Endpoint.encode))
    ++ field "models" (.arr (o.models.map Model.encode))
    ++ field "diagnostics" (.arr (o.diagnostics.map Diagnostic.encode)))

/-- The fields of an outline. -/
def record : Record Outline where
  name := "Ir"
  blank := ⟨none, none, .empty, [], [], []⟩
  fields := [
    .optional "documentHash" Checksum.decoder fun v o => { o with documentHash := v },
    .optional "baseName" .text fun v o => { o with baseName := v },
    .needed "apis" (.list .text) fun v o => { o with groups := NameSet.ofNames v },
    .needed "operations" (.list Endpoint.decoder) fun v o => { o with endpoints := v },
    .needed "models" (.list Model.decoder) fun v o => { o with models := v },
    .spare "diagnostics" (.list Diagnostic.decoder) fun v o => { o with diagnostics := v }]

/-- Decodes an outline. -/
def decoder : Decoder Outline :=
  record.decoder

end Outline

end ApiOutline
