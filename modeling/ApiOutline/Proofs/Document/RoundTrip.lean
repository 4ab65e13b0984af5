import ApiOutline.Document.Codec
import ApiOutline.Proofs.Json.Stable
import ApiOutline.Proofs.Text.Utf8

/-!
# Reading documents back

Whatever text a document is read from, its own written form is read as the same document.  The text may say more than
the document keeps, and in other forms: records as lists, keys twice, members that nobody knows, a truth value for the
names of required properties.  None of this is left in the document, so what is said here is about decoded values:
each part of a document that is decoded, from any reading, is decoded again from its own written form, within the
levels of containers that were left for the first reading.

Four forms are found out by trying: the names of required properties, what is said about further properties, the
entries for parameters, and the responses.  A schema is written as an object, which is no truth value, and a parameter
or response that is no reference is written without the member of references.

* `Schema.stableAt_decoder`: schemas, by induction on how deeply they may be nested.
* `ParameterEntry.stableAt_decoder`, `Response.stableAt_decoder`: references, and what may stand in their place.
* `Operation.stableAt_decoder`, `PathItem.stableAt_decoder`: the operations on a path.
* `Document.ofBytes_encode`: the main statement.
-/

namespace ApiOutline

open Json Decoder

variable {levels : Nat}

/-! ## Schemas -/

namespace Schema

/-- The written form of what is said about further properties. -/
def encodeFurther : Additional Schema → Json
  | .allowed b => .bool b
  | .schema s => s.encode

theorem encodeProperties_eq_map : ∀ properties : List (String × Schema),
    encodeProperties properties = properties.map fun p => (p.1, p.2.encode)
  | [] => rfl
  | (name, s) :: rest => by rw [encodeProperties, encodeProperties_eq_map rest, List.map_cons]

/-- The written form of a schema, field by field. -/
theorem encode_eq (s : Schema) : s.encode =
    .obj (fieldIfSome "$ref" str s.reference ++ fieldIfSome "type" str s.type
      ++ fieldIfSome "format" str s.format ++ fieldIfSome "description" str s.description
      ++ fieldIfSome "items" encode s.items ++ fieldIfSome "additionalProperties" encodeFurther s.additional
      ++ fieldIfAny "properties" (fun ps => .obj (ps.map fun p => (p.1, p.2.encode))) s.properties
      ++ fieldIfAny "required" strs s.required) := by
  obtain ⟨reference, type, format, description, items, additional, properties, required⟩ := s
  have hitems : encodeItems items = fieldIfSome "items" encode items := by
    cases items <;> simp [encodeItems, fieldIfSome]
  have hadditional : encodeAdditional additional =
      fieldIfSome "additionalProperties" encodeFurther additional := by
    rcases additional with _ | _ | _ <;> simp [encodeAdditional, fieldIfSome, encodeFurther]
  cases properties with
  | nil => simp only [encode, hitems, hadditional, fieldIfAny]
  | cons p properties => simp only [encode, hitems, hadditional, fieldIfAny, field, encodeProperties_eq_map]

theorem encode_ne_null (s : Schema) : s.encode ≠ .null := by
  rw [encode_eq]
  exact Json.noConfusion

theorem encodeFurther_ne_null : ∀ further, encodeFurther further ≠ .null
  | .allowed _ => Json.noConfusion
  | .schema s => s.encode_ne_null

variable {d : Decoder Schema}

theorem stableAt_additional (h : StableAt levels d encode) : StableAt levels (additionalDecoder d) encodeFurther :=
  .alternatives (fun _ _ _ => accepts_bool) h fun s => by
    show (bool levels s.encode.toNode).toOption = none
    rw [encode_eq]
    rfl

/-- Names that were read are read back.  Where no names were read, none are written. -/
theorem accepts_required {node : Node} {names : List String} (h : requiredDecoder levels node = .ok names)
    (hnames : names ≠ []) : Accepts requiredDecoder levels (strs names) names := by
  rcases eq_ok_of_oneOf_pair h with h | h
  · obtain ⟨inner, rfl, -⟩ := forall_mem_of_list h
    exact Accepts.strs.oneOf_here _
  · obtain ⟨_, -, rfl⟩ := eq_ok_of_map h
    exact absurd rfl hnames

/-- What is inside the schema is read back, when `d` reads the schemas inside it. -/
structure IsStable (d : Decoder Schema) (levels : Nat) (s : Schema) : Prop where
  items : AcceptsSome d levels encode s.items
  additional : AcceptsSome (additionalDecoder d) levels encodeFurther s.additional
  /-- The properties are those of a dictionary: none is named twice. -/
  properties : ∃ named : Dict Schema, named.entries = s.properties ∧
    (s.properties ≠ [] →
      Accepts (.dict d) levels (.obj (s.properties.map fun p => (p.1, p.2.encode))) named)
  required : s.required ≠ [] → Accepts requiredDecoder levels (strs s.required) s.required

theorem keeps_isStable (h : ∀ levels, StableAt levels d encode) : (record d).Keeps levels (IsStable d levels) where
  blank := ⟨acceptsSome_none, acceptsSome_none, ⟨.empty, rfl, fun h => absurd rfl h⟩, fun h => absurd rfl h⟩
  fields := by
    simp only [record, List.forall_mem_cons]
    refine ⟨?_, ?_, ?_, ?_, ?_, ?_, ?_, ?_, fun _ h => absurd h List.not_mem_nil⟩
    · exact Field.keeps_optional fun _ _ _ hs => { hs with }
    · exact Field.keeps_optional fun _ _ _ hs => { hs with }
    · exact Field.keeps_optional fun _ _ _ hs => { hs with }
    · exact Field.keeps_optional fun _ _ _ hs => { hs with }
    · exact Field.keeps_optional fun _ ho _ hs => { hs with items := (h _).acceptsSome ho }
    · exact Field.keeps_optional fun _ ho _ hs =>
        { hs with additional := (stableAt_additional (h _)).acceptsSome ho }
    · exact Field.keeps_spare fun node named hnamed _ hs =>
        { hs with properties := ⟨named, rfl, fun _ => StableAt.dict (fun _ _ => h _) node named hnamed⟩ }
    · exact Field.keeps_spare fun _ _ hnames _ hs => { hs with required := accepts_required hnames }

theorem names_nodup : ((record d).fields.map Field.name).Nodup := by
  show ["$ref", "type", "format", "description", "items", "additionalProperties", "properties",
    "required"].Nodup
  decide

theorem IsStable.accepts_encode {s : Schema} (h : s.IsStable d levels) :
    Accepts (record d).decoder (levels + 1) s.encode s := by
  obtain ⟨reference, type, format, description, items, additional, properties, required⟩ := s
  obtain ⟨hitems, hadditional, ⟨named, hnamed, hproperties⟩, hrequired⟩ := h
  obtain rfl : named.entries = properties := hnamed
  rw [encode_eq]
  refine Written.accepts (.of_append_nil ?_) names_nodup
  simp only [List.append_assoc]
  exact .optionalText rfl <| .optionalText rfl <| .optionalText rfl <| .optionalText rfl <|
    .optional hitems encode_ne_null rfl <| .optional hadditional encodeFurther_ne_null rfl <|
    .spareIfAny hproperties (fun hnil => by rw [hnil]; rfl) <|
    .spareIfAny hrequired (fun hnil => by rw [hnil]; rfl) .nil

theorem stableAt_decoderWithin (depth : Nat) : ∀ levels, StableAt levels (decoderWithin depth) encode := by
  induction depth with
  | zero => exact fun _ _ _ h => absurd h (by simp [decoderWithin, failFault])
  | succ depth ih =>
    intro levels node s h
    obtain ⟨inner, rfl, hs⟩ := Record.of_decoder (fun inner _ => keeps_isStable ih) h
    exact hs.accepts_encode

/-- **Schemas that have been decoded are decoded from their written form**, however deeply they are nested. -/
theorem stableAt_decoder : StableAt levels decoder encode := fun node s h => by
  obtain ⟨hfits, hdecodes⟩ := stableAt_decoderWithin (levels + 1) levels node s h
  exact ⟨hfits, hdecodes⟩

end Schema

/-! ## References and what may stand in their place -/

theorem keysOf_field (name : String) (v : Json) : keysOf (field name v) = [name] := rfl

theorem notMem_keysOf_fieldIfSome {α : Type} {name key : String} {encode : α → Json} {o : Option α}
    (h : key ≠ name) : key ∉ keysOf (fieldIfSome name encode o) := by
  cases o with
  | none => exact List.not_mem_nil
  | some a => exact fun hmem => h (List.mem_singleton.mp hmem)

theorem stableAt_reference {name : String} :
    StableAt levels (referenceDecoder name) fun target => .obj (field "$ref" (.str target)) := by
  intro node target h
  have hkeeps : ∀ inner, levels = inner + 1 → Record.Keeps
      ⟨name, "", [.needed "$ref" .text fun v _ => v]⟩ inner fun _ => True :=
    fun _ _ => ⟨trivial, fun _ _ _ _ _ _ _ => trivial⟩
  obtain ⟨inner, rfl, -⟩ := Record.of_objectDecoder hkeeps h
  exact Written.accepts_object (.needed accepts_text .nil) (by simp)

/-- References, or what is written without the member of references. -/
theorem stableAt_referenceOr {α β : Type} {name : String} {encode : α → Json} {d : Decoder β}
    {reference : String → α} {inline : β → α} {members : β → List (String × Json)}
    (hreference : ∀ target, encode (reference target) = .obj (field "$ref" (.str target)))
    (hinline : ∀ b, encode (inline b) = .obj (members b)) (hmembers : ∀ b, "$ref" ∉ keysOf (members b))
    (h : StableAt levels d fun b => .obj (members b)) :
    StableAt levels (.oneOf name [(referenceDecoder name).map reference, d.map inline]) encode := by
  refine .alternatives ?_ ?_ fun b => ?_
  · simpa only [hreference] using stableAt_reference
  · simpa only [hinline] using h
  · rw [hinline]
    exact Record.toOption_objectDecoder_of_missing List.mem_cons_self rfl (hmembers b)

/-! ## Parameters -/

theorem Location.accepts_name (l : Location) : Accepts Location.decoder levels (.str l.name) l := by
  refine accepts_variant ?_
  cases l <;> decide

namespace Parameter

/-- The schemas of the parameter are read back. -/
structure IsStable (levels : Nat) (p : Parameter) : Prop where
  items : AcceptsSome Schema.decoder levels Schema.encode p.items
  schema : AcceptsSome Schema.decoder levels Schema.encode p.schema

theorem keeps_isStable : record.Keeps levels (IsStable levels) where
  blank := ⟨acceptsSome_none, acceptsSome_none⟩
  fields := by
    simp only [record, List.forall_mem_cons]
    refine ⟨?_, ?_, ?_, ?_, ?_, ?_, ?_, ?_, fun _ h => absurd h List.not_mem_nil⟩
    · exact Field.keeps_needed fun _ _ _ _ hp => { hp with }
    · exact Field.keeps_needed fun _ _ _ _ hp => { hp with }
    · exact Field.keeps_optional fun _ _ _ hp => { hp with }
    · exact Field.keeps_spare fun _ _ _ _ hp => { hp with }
    · exact Field.keeps_optional fun _ _ _ hp => { hp with }
    · exact Field.keeps_optional fun _ _ _ hp => { hp with }
    · exact Field.keeps_optional fun _ ho _ hp => { hp with items := Schema.stableAt_decoder.acceptsSome ho }
    · exact Field.keeps_optional fun _ ho _ hp => { hp with schema := Schema.stableAt_decoder.acceptsSome ho }

theorem stableAt_decoder : StableAt levels decoder encode := by
  intro node p h
  obtain ⟨inner, rfl, hp⟩ := Record.of_decoder (fun _ _ => keeps_isStable) h
  refine Written.accepts (.of_append_nil ?_) (by decide)
  simp only [List.append_assoc]
  exact .needed accepts_text <| .needed p.location.accepts_name <| .optionalText rfl <|
    .spare accepts_bool <| .optionalText rfl <| .optionalText rfl <|
    .optional hp.items Schema.encode_ne_null rfl <| .optional hp.schema Schema.encode_ne_null rfl .nil

end Parameter

theorem ParameterEntry.stableAt_decoder : StableAt levels decoder encode :=
  stableAt_referenceOr (fun _ => rfl) (fun _ => rfl)
    (fun p => by simp [keysOf_append, keysOf_field, notMem_keysOf_fieldIfSome]) Parameter.stableAt_decoder

/-! ## Responses and operations -/

namespace Response

/-- The members of a response that is no reference. -/
def inlineMembers (r : Option String × Option Schema) : List (String × Json) :=
  fieldIfSome "description" str r.1 ++ fieldIfSome "schema" Schema.encode r.2

/-- The schema of a response without a reference is read back. -/
theorem acceptsSome_of_inlineDecoder {node : Node} {r : Option String × Option Schema}
    (h : inlineDecoder levels node = .ok r) :
    ∃ inner, levels = inner + 1 ∧ AcceptsSome Schema.decoder inner Schema.encode r.2 := by
  refine Record.of_objectDecoder (P := fun inner r => AcceptsSome Schema.decoder inner Schema.encode r.2)
    (fun _ _ => ⟨acceptsSome_none, ?_⟩) h
  simp only [List.forall_mem_cons]
  refine ⟨?_, ?_, fun _ h => absurd h List.not_mem_nil⟩
  · exact Field.keeps_optional fun _ _ _ hr => hr
  · exact Field.keeps_optional fun _ ho _ _ => Schema.stableAt_decoder.acceptsSome ho

theorem stableAt_inlineDecoder : StableAt levels inlineDecoder fun r => .obj (inlineMembers r) := by
  intro node r h
  obtain ⟨inner, rfl, hr⟩ := acceptsSome_of_inlineDecoder h
  refine Written.accepts_object (.of_append_nil ?_) (by decide)
  simp only [inlineMembers, List.append_assoc]
  exact .optionalText rfl <| .optional hr Schema.encode_ne_null rfl .nil

theorem stableAt_decoder : StableAt levels decoder encode :=
  stableAt_referenceOr (fun _ => rfl) (fun _ => rfl)
    (fun _ => by simp [keysOf_append, notMem_keysOf_fieldIfSome]) stableAt_inlineDecoder

end Response

namespace Operation

/-- What is inside the operation is read back. -/
structure IsStable (levels : Nat) (o : Operation) : Prop where
  tags : o.tags ≠ [] → Accepts (.list .text) levels (strs o.tags) o.tags
  parameters : o.parameters ≠ [] →
    Accepts (.list ParameterEntry.decoder) levels (.arr (o.parameters.map ParameterEntry.encode)) o.parameters
  responses : Accepts (.dict Response.decoder) levels
    (.obj (o.responses.entries.map fun r => (r.1, r.2.encode))) o.responses

/-- The responses are written even if there are none, so a level has to be left for them. -/
theorem keeps_isStable : record.Keeps (levels + 1) (IsStable (levels + 1)) where
  blank := ⟨fun h => absurd rfl h, fun h => absurd rfl h,
    .dict (f := id) rfl fun _ h => absurd h List.not_mem_nil⟩
  fields := by
    simp only [record, List.forall_mem_cons]
    refine ⟨?_, ?_, ?_, ?_, ?_, ?_, fun _ h => absurd h List.not_mem_nil⟩
    · exact Field.keeps_optional fun _ _ _ ho => { ho with }
    · exact Field.keeps_optional fun _ _ _ ho => { ho with }
    · exact Field.keeps_optional fun _ _ _ ho => { ho with }
    · exact Field.keeps_spare fun _ _ _ _ ho => { ho with tags := fun _ => .strs }
    · exact Field.keeps_spare fun node ps hps _ ho =>
        { ho with parameters := fun _ =>
            StableAt.list (fun _ _ => ParameterEntry.stableAt_decoder) node ps hps }
    · exact Field.keeps_spare fun node rs hrs _ ho =>
        { ho with responses := StableAt.dict (fun _ _ => Response.stableAt_decoder) node rs hrs }

theorem stableAt_decoder : StableAt (levels + 2) decoder encode := by
  intro node o h
  have ho : IsStable (levels + 1) o := keeps_isStable.of_decoder_succ h
  refine Written.accepts (.of_append_nil ?_) (by decide)
  simp only [List.append_assoc]
  exact .optionalText rfl <| .optionalText rfl <| .optionalText rfl <|
    .spareIfAny ho.tags (fun hnil => by rw [hnil]; rfl) <|
    .spareIfAny ho.parameters (fun hnil => by rw [hnil]; rfl) <| .spare ho.responses .nil

end Operation

namespace PathItem

/-- The operations on the path are read back. -/
structure IsStable (levels : Nat) (p : PathItem) : Prop where
  get : AcceptsSome Operation.decoder levels Operation.encode p.get
  put : AcceptsSome Operation.decoder levels Operation.encode p.put
  post : AcceptsSome Operation.decoder levels Operation.encode p.post
  delete : AcceptsSome Operation.decoder levels Operation.encode p.delete
  options : AcceptsSome Operation.decoder levels Operation.encode p.options
  head : AcceptsSome Operation.decoder levels Operation.encode p.head
  patch : AcceptsSome Operation.decoder levels Operation.encode p.patch

theorem keeps_isStable : record.Keeps (levels + 2) (IsStable (levels + 2)) where
  blank := ⟨acceptsSome_none, acceptsSome_none, acceptsSome_none, acceptsSome_none, acceptsSome_none,
    acceptsSome_none, acceptsSome_none⟩
  fields := by
    simp only [record, List.forall_mem_cons]
    refine ⟨?_, ?_, ?_, ?_, ?_, ?_, ?_, fun _ h => absurd h List.not_mem_nil⟩
    · exact Field.keeps_optional fun _ ho _ hp => { hp with get := Operation.stableAt_decoder.acceptsSome ho }
    · exact Field.keeps_optional fun _ ho _ hp => { hp with put := Operation.stableAt_decoder.acceptsSome ho }
    · exact Field.keeps_optional fun _ ho _ hp => { hp with post := Operation.stableAt_decoder.acceptsSome ho }
    · exact Field.keeps_optional fun _ ho _ hp => { hp with delete := Operation.stableAt_decoder.acceptsSome ho }
    · exact Field.keeps_optional fun _ ho _ hp => { hp with options := Operation.stableAt_decoder.acceptsSome ho }
    · exact Field.keeps_optional fun _ ho _ hp => { hp with head := Operation.stableAt_decoder.acceptsSome ho }
    · exact Field.keeps_optional fun _ ho _ hp => { hp with patch := Operation.stableAt_decoder.acceptsSome ho }

theorem stableAt_decoder : StableAt (levels + 3) decoder encode := by
  intro node p h
  have hp : IsStable (levels + 2) p := keeps_isStable.of_decoder_succ h
  have hencode : ∀ o : Operation, o.encode ≠ .null := fun _ => Json.noConfusion
  refine Written.accepts (.of_append_nil ?_) (by decide)
  simp only [List.append_assoc]
  exact .optional hp.get hencode rfl <| .optional hp.put hencode rfl <| .optional hp.post hencode rfl <|
    .optional hp.delete hencode rfl <| .optional hp.options hencode rfl <|
    .optional hp.head hencode rfl <| .optional hp.patch hencode rfl .nil

end PathItem

/-! ## Documents -/

theorem Info.stableAt_decoder : StableAt levels decoder encode := by
  intro node i h
  have hkeeps : ∀ inner, levels = inner + 1 → record.Keeps inner fun _ => True :=
    fun _ _ => ⟨trivial, fun _ _ _ _ _ _ _ => trivial⟩
  obtain ⟨inner, rfl, -⟩ := Record.of_decoder hkeeps h
  refine Written.accepts (.of_append_nil ?_) (by decide)
  simp only [List.append_assoc]
  exact .optionalTextOrNull <| .optionalTextOrNull <| .optionalTextOrNull .nil

namespace Document

/-- What is inside the document is read back, and it has no fingerprint yet. -/
structure IsStable (levels : Nat) (d : Document) : Prop where
  info : AcceptsSome Info.decoder levels Info.encode d.info
  paths : Accepts (.dict PathItem.decoder) levels
    (.obj (d.paths.entries.map fun p => (p.1, p.2.encode))) d.paths
  definitions : Accepts (.dict Schema.decoder) levels
    (.obj (d.definitions.entries.map fun p => (p.1, p.2.encode))) d.definitions
  parameters : d.parameters.entries ≠ [] → Accepts (.dict Parameter.decoder) levels
    (.obj (d.parameters.entries.map fun p => (p.1, p.2.encode))) d.parameters
  checksum : d.checksum = none

/-- Paths, path items, operations and responses are one inside the other. -/
theorem keeps_isStable : record.Keeps (levels + 4) (IsStable (levels + 4)) where
  blank := ⟨acceptsSome_none, .dict (f := id) rfl fun _ h => absurd h List.not_mem_nil,
    .dict (f := id) rfl fun _ h => absurd h List.not_mem_nil, fun h => absurd rfl h, rfl⟩
  fields := by
    have hpath : ∀ inner, levels + 4 = inner + 1 → StableAt inner PathItem.decoder PathItem.encode :=
      fun _ hinner => Nat.succ.inj hinner ▸ PathItem.stableAt_decoder
    simp only [record, List.forall_mem_cons]
    refine ⟨?_, ?_, ?_, ?_, ?_, ?_, ?_, fun _ h => absurd h List.not_mem_nil⟩
    · exact Field.keeps_optional fun _ _ _ hd => { hd with }
    · exact Field.keeps_optional fun _ _ _ hd => { hd with }
    · exact Field.keeps_optional fun _ ho _ hd => { hd with info := Info.stableAt_decoder.acceptsSome ho }
    · exact Field.keeps_optional fun _ _ _ hd => { hd with }
    · exact Field.keeps_spare fun node ps hps _ hd => { hd with paths := StableAt.dict hpath node ps hps }
    · exact Field.keeps_spare fun node ss hss _ hd =>
        { hd with definitions := StableAt.dict (fun _ _ => Schema.stableAt_decoder) node ss hss }
    · exact Field.keeps_spare fun node ps hps _ hd =>
        { hd with parameters := fun _ => StableAt.dict (fun _ _ => Parameter.stableAt_decoder) node ps hps }

theorem IsStable.accepts_encode {d : Document} (h : d.IsStable levels) :
    Accepts decoder (levels + 1) d.encode d := by
  obtain ⟨swagger, openapi, info, basePath, paths, definitions, parameters, checksum⟩ := d
  obtain rfl : checksum = none := h.checksum
  have hinfo : ∀ i : Info, i.encode ≠ .null := fun _ => Json.noConfusion
  have hparameters : parameters.entries = [] → parameters = .empty := fun h => Dict.eq_of_entries h
  refine Written.accepts (.of_append_nil ?_) (by decide)
  simp only [List.append_assoc]
  exact .optionalText rfl <| .optionalText rfl <| .optional h.info hinfo rfl <| .optionalText rfl <|
    .spare h.paths <| .spare h.definitions <|
    .spareIfAny h.parameters (fun hnil => by rw [hparameters hnil]; rfl) .nil

/-- A document that was read from a text is accepted in its written form.  A text may open more levels than the empty
containers in a written form take. -/
theorem accepts_encode_of_decode {text : List Text.Symbol} {d : Document} (h : decoder.decode text = .ok d) :
    Accepts decoder levelLimit d.encode d := by
  obtain ⟨found, hfound, h⟩ := eq_ok_of_bind h
  have hd : IsStable 126 found := keeps_isStable.of_decoder_succ hfound
  split at h
  · exact absurd h (by simp [failFault])
  · exact Except.ok.inj h ▸ hd.accepts_encode

/-- The fingerprint of a document is not written. -/
theorem encode_fingerprint (d : Document) (c : Option Checksum) : encode { d with checksum := c } = d.encode := rfl

/-- **Documents are read back from what is written of them.**  Whatever bytes a document was read from, those of its
compact form are read as the same document, except that the fingerprint is theirs; so what is written of it then is
written once more without a change. -/
theorem ofBytes_encode {bytes : ByteArray} {d : Document} (h : ofBytes bytes = .ok d) :
    ∃ again : Document, ofBytes d.encode.compact.toUTF8 = .ok again ∧
      again = { d with checksum := some (.ofBytes d.encode.compact.toUTF8) } ∧
      again.encode.compact = d.encode.compact := by
  unfold ofBytes at h
  split at h
  · exact absurd h (by simp)
  next found hfound =>
  split at h
  · exact absurd h (by simp)
  next hsupported =>
  obtain rfl := Except.ok.inj h
  have hdecoded : decoder.decode (Text.symbolsOfBytes found.encode.compact.toUTF8) = .ok found := by
    rw [Text.symbolsOfBytes_toUTF8]
    exact (accepts_encode_of_decode hfound).decode_compact
  simp only [encode_fingerprint]
  refine ⟨{ found with checksum := some (.ofBytes found.encode.compact.toUTF8) }, ?_, rfl, rfl⟩
  simp only [ofBytes, hdecoded, hsupported]

/-- A text with a record as a list, a member that nobody knows, a definition twice, and a truth value for the names of
required properties. -/
def respelled : String :=
  "\x7b\"info\":[\"A\"],\"x\":\x7b\x7d,\"definitions\":\x7b" ++
    "\"A\":\x7b\"type\":\"string\"\x7d,\"A\":\x7b\"required\":true,\"additionalProperties\":\x7b\x7d\x7d\x7d\x7d"

theorem ofBytes_encode_respelled : ∃ d again : Document, ofBytes respelled.toUTF8 = .ok d ∧
    ofBytes d.encode.compact.toUTF8 = .ok again ∧ again.encode.compact =
      "\x7b\"info\":\x7b\"title\":\"A\",\"version\":null,\"description\":null\x7d,\"paths\":\x7b\x7d," ++
        "\"definitions\":\x7b\"A\":\x7b\"additionalProperties\":\x7b\x7d\x7d\x7d\x7d" := by
  have hread : ((ofBytes respelled.toUTF8).toOption.map fun d => d.encode.compact) =
      some ("\x7b\"info\":\x7b\"title\":\"A\",\"version\":null,\"description\":null\x7d,\"paths\":\x7b\x7d," ++
        "\"definitions\":\x7b\"A\":\x7b\"additionalProperties\":\x7b\x7d\x7d\x7d\x7d") := by
    rw [ofBytes, Text.symbolsOfBytes_toUTF8]
    decide +kernel
  obtain ⟨d, hd, htext⟩ := Option.map_eq_some_iff.mp hread
  obtain ⟨again, hagain, -, hsame⟩ := ofBytes_encode (eq_ok_of_toOption hd)
  exact ⟨d, again, eq_ok_of_toOption hd, hagain, hsame.trans htext⟩

end Document

end ApiOutline
