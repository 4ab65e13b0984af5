import ApiOutline.Document.Basic
import ApiOutline.Json.Printer
import ApiOutline.Json.Record

/-!
# The written form of API documents

Each type of a document has an encoder to JSON and a decoder from it.  An encoder leaves out what
has no value; a decoder passes over members it does not know.

* `Schema.encode`, `Schema.decoder`: schemas, nested as deeply as a text may be.
* `Parameter`, `ParameterEntry`, `Response`, `Operation`, `PathItem`, `Info`: the parts of a document.
* `Document.encode`, `Document.decoder`: documents.
* `Document.ofBytes`: reading a document, which has to be of a version that is known here.
-/

namespace ApiOutline

open Json

/-! ## Schemas -/

namespace Schema

mutual

/-- The written form of a schema. -/
def encode : Schema → Json
  | ⟨reference, type, format, description, items, additional, properties, required⟩ =>
    .obj (fieldIfSome "$ref" str reference ++ fieldIfSome "type" str type
      ++ fieldIfSome "format" str format ++ fieldIfSome "description" str description
      ++ encodeItems items ++ encodeAdditional additional
      ++ (match properties with
          | [] => []
          | _ :: _ => field "properties" (.obj (encodeProperties properties)))
      ++ fieldIfAny "required" strs required)

/-- The member for the schema of items. -/
def encodeItems : Option Schema → List (String × Json)
  | none => []
  | some s => [("items", encode s)]

/-- The member for further properties. -/
def encodeAdditional : Option (Additional Schema) → List (String × Json)
  | none => []
  | some (.allowed b) => [("additionalProperties", .bool b)]
  | some (.schema s) => [("additionalProperties", encode s)]

/-- The members of named schemas. -/
def encodeProperties : List (String × Schema) → List (String × Json)
  | [] => []
  | (name, s) :: rest => (name, encode s) :: encodeProperties rest

end

/-- Decodes the names of required properties.  A property that says of itself whether it is required
names none. -/
def requiredDecoder : Decoder (List String) :=
  .oneOf "Required" [.list .text, Decoder.bool.map fun _ => []]

/-- Decodes what is said about further properties, when `schema` decodes schemas. -/
def additionalDecoder (schema : Decoder Schema) : Decoder (Additional Schema) :=
  .oneOf "AdditionalProperties" [Decoder.bool.map .allowed, schema.map .schema]

/-- The fields of a schema, when `schema` decodes the schemas inside it. -/
def record (schema : Decoder Schema) : Record Schema where
  name := "Schema"
  blank := blank
  fields := [
    .optional "$ref" .text fun v s => { s with reference := v },
    .optional "type" .text fun v s => { s with type := v },
    .optional "format" .text fun v s => { s with format := v },
    .optional "description" .text fun v s => { s with description := v },
    .optional "items" schema fun v s => { s with items := v },
    .optional "additionalProperties" (additionalDecoder schema) fun v s =>
      { s with additional := v },
    .spare "properties" (.dict schema) fun v s => { s with properties := v.entries },
    .spare "required" requiredDecoder fun v s => { s with required := v }]

/-- Decodes schemas that are nested fewer than `depth` times. -/
def decoderWithin : Nat → Decoder Schema
  | 0 => fun _ _ => failFault .tooDeep
  | depth + 1 => (record (decoderWithin depth)).decoder

/-- Decodes a schema.  Each schema inside another takes up a level of containers, so the levels
bound the nesting. -/
def decoder : Decoder Schema :=
  fun levels => decoderWithin (levels + 1) levels

end Schema

/-! ## Parameters -/

/-- Decodes a location. -/
def Location.decoder : Decoder Location :=
  .variant variants

namespace Parameter

/-- The written form of a parameter. -/
def encode (p : Parameter) : Json :=
  .obj (field "name" (.str p.name) ++ field "in" (.str p.location.name)
    ++ fieldIfSome "description" str p.description ++ field "required" (.bool p.required)
    ++ fieldIfSome "type" str p.type ++ fieldIfSome "format" str p.format
    ++ fieldIfSome "items" Schema.encode p.items ++ fieldIfSome "schema" Schema.encode p.schema)

/-- The fields of a parameter. -/
def record : Record Parameter where
  name := "Parameter"
  blank := ⟨"", .query, none, false, none, none, none, none⟩
  fields := [
    .needed "name" .text fun v p => { p with name := v },
    .needed "in" Location.decoder fun v p => { p with location := v },
    .optional "description" .text fun v p => { p with description := v },
    .spare "required" .bool fun v p => { p with required := v },
    .optional "type" .text fun v p => { p with type := v },
    .optional "format" .text fun v p => { p with format := v },
    .optional "items" Schema.decoder fun v p => { p with items := v },
    .optional "schema" Schema.decoder fun v p => { p with schema := v }]

/-- Decodes a parameter. -/
def decoder : Decoder Parameter :=
  record.decoder

end Parameter

/-- Decodes an object that refers to something. -/
def referenceDecoder (name : String) : Decoder String :=
  (⟨name, "", [.needed "$ref" .text fun v _ => v]⟩ : Record String).objectDecoder

namespace ParameterEntry

/-- The written form of a parameter entry. -/
def encode : ParameterEntry → Json
  | reference target => .obj (field "$ref" (.str target))
  | inline p => p.encode

/-- Decodes a parameter entry; an object with a reference is one whatever else it has. -/
def decoder : Decoder ParameterEntry :=
  .oneOf "ParameterOrRef"
    [(referenceDecoder "ParameterOrRef").map reference, Parameter.decoder.map inline]

end ParameterEntry

/-! ## Responses and operations -/

namespace Response

/-- The written form of a response. -/
def encode : Response → Json
  | reference target => .obj (field "$ref" (.str target))
  | inline description schema =>
    .obj (fieldIfSome "description" str description ++ fieldIfSome "schema" Schema.encode schema)

/-- Decodes a response without a reference. -/
def inlineDecoder : Decoder (Option String × Option Schema) :=
  Record.objectDecoder {
    name := "Response"
    blank := (none, none)
    fields := [
      .optional "description" .text fun v r => (v, r.2),
      .optional "schema" Schema.decoder fun v r => (r.1, v)] }

/-- Decodes a response; an object with a reference is one whatever else it has. -/
def decoder : Decoder Response :=
  .oneOf "Response"
    [(referenceDecoder "Response").map reference, inlineDecoder.map fun r => inline r.1 r.2]

end Response

namespace Operation

/-- The operation that says nothing. -/
def blank : Operation := ⟨none, none, none, [], [], .empty⟩

/-- The written form of an operation. -/
def encode (o : Operation) : Json :=
  .obj (fieldIfSome "summary" str o.summary ++ fieldIfSome "description" str o.description
    ++ fieldIfSome "operationId" str o.operationId ++ fieldIfAny "tags" strs o.tags
    ++ fieldIfAny "parameters" (fun ps => .arr (ps.map ParameterEntry.encode)) o.parameters
    ++ field "responses" (.obj (o.responses.entries.map fun r => (r.1, r.2.encode))))

/-- The fields of an operation. -/
def record : Record Operation where
  name := "Operation"
  blank := blank
  fields := [
    .optional "summary" .text fun v o => { o with summary := v },
    .optional "description" .text fun v o => { o with description := v },
    .optional "operationId" .text fun v o => { o with operationId := v },
    .spare "tags" (.list .text) fun v o => { o with tags := v },
    .spare "parameters" (.list ParameterEntry.decoder) fun v o => { o with parameters := v },
    .spare "responses" (.dict Response.decoder) fun v o => { o with responses := v }]

/-- Decodes an operation. -/
def decoder : Decoder Operation :=
  record.decoder

end Operation

namespace PathItem

/-- The written form of the operations on a path. -/
def encode (p : PathItem) : Json :=
  .obj (fieldIfSome "get" Operation.encode p.get ++ fieldIfSome "put" Operation.encode p.put
    ++ fieldIfSome "post" Operation.encode p.post
    ++ fieldIfSome "delete" Operation.encode p.delete
    ++ fieldIfSome "options" Operation.encode p.options
    ++ fieldIfSome "head" Operation.encode p.head
    ++ fieldIfSome "patch" Operation.encode p.patch)

/-- The fields of a path item. -/
def record : Record PathItem where
  name := "PathItem"
  blank := ⟨none, none, none, none, none, none, none⟩
  fields := [
    .optional "get" Operation.decoder fun v p => { p with get := v },
    .optional "put" Operation.decoder fun v p => { p with put := v },
    .optional "post" Operation.decoder fun v p => { p with post := v },
    .optional "delete" Operation.decoder fun v p => { p with delete := v },
    .optional "options" Operation.decoder fun v p => { p with options := v },
    .optional "head" Operation.decoder fun v p => { p with head := v },
    .optional "patch" Operation.decoder fun v p => { p with patch := v }]

/-- Decodes the operations on a path. -/
def decoder : Decoder PathItem :=
  record.decoder

end PathItem

/-! ## Documents -/

namespace Info

/-- The written form of what a document says about itself. -/
def encode (i : Info) : Json :=
  .obj (field "title" (orNull str i.title) ++ field "version" (orNull str i.version)
    ++ field "description" (orNull str i.description))

/-- The fields of what a document says about itself. -/
def record : Record Info where
  name := "Info"
  blank := ⟨none, none, none⟩
  fields := [
    .optional "title" .text fun v i => { i with title := v },
    .optional "version" .text fun v i => { i with version := v },
    .optional "description" .text fun v i => { i with description := v }]

/-- Decodes what a document says about itself. -/
def decoder : Decoder Info :=
  record.decoder

end Info

namespace Document

/-- The document that says nothing. -/
def blank : Document := ⟨none, none, none, none, .empty, .empty, .empty, none⟩

/-- The written form of a document; its fingerprint is no part of it. -/
def encode (d : Document) : Json :=
  .obj (fieldIfSome "swagger" str d.swagger ++ fieldIfSome "openapi" str d.openapi
    ++ fieldIfSome "info" Info.encode d.info ++ fieldIfSome "basePath" str d.basePath
    ++ field "paths" (.obj (d.paths.entries.map fun p => (p.1, p.2.encode)))
    ++ field "definitions" (.obj (d.definitions.entries.map fun p => (p.1, p.2.encode)))
    ++ fieldIfAny "parameters" (fun ps => .obj (ps.map fun p => (p.1, p.2.encode)))
        d.parameters.entries)

/-- The fields of a document. -/
def record : Record Document where
  name := "SwaggerDocument"
  blank := blank
  fields := [
    .optional "swagger" .text fun v d => { d with swagger := v },
    .optional "openapi" .text fun v d => { d with openapi := v },
    .optional "info" Info.decoder fun v d => { d with info := v },
    .optional "basePath" .text fun v d => { d with basePath := v },
    .spare "paths" (.dict PathItem.decoder) fun v d => { d with paths := v },
    .spare "definitions" (.dict Schema.decoder) fun v d => { d with definitions := v },
    .spare "parameters" (.dict Parameter.decoder) fun v d => { d with parameters := v }]

/-- Decodes a document of any version, without a fingerprint. -/
def decoder : Decoder Document :=
  record.decoder

/-- Why a text is not read as a document. -/
inductive ReadError where
  /-- It is not the written form of a document. -/
  | json (f : Failure)
  /-- It is of a version that is not known here. -/
  | version (v : String)

/-- The wording of an error. -/
def ReadError.message : ReadError → String
  | json f => "JSON error: " ++ f.message
  | version v => "Unsupported document version: " ++ v ++ " (only Swagger 2.x is resolved)"

/-- Reads a document from its bytes, and takes their fingerprint. -/
def ofBytes (bytes : ByteArray) : Except ReadError Document :=
  match decoder.decode (Text.symbolsOfBytes bytes) with
  | .error f => .error (.json f)
  | .ok d =>
    match d.unsupported? with
    | some v => .error (.version v)
    | none => .ok { d with checksum := some (.ofBytes bytes) }

end Document

end ApiOutline
