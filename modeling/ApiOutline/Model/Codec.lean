import ApiOutline.Json.Basic
import ApiOutline.Json.Record
import ApiOutline.Model.Basic

/-!
# The written form of models

A type is written as its text without qualifiers, and read back from any text.
-/

namespace ApiOutline

open Json

/-- The builtins with their names in written values. -/
def Builtin.variants : List (String × Builtin) :=
  [("Void", void), ("Boolean", boolean), ("String", string), ("Number", number), ("Array", array),
   ("Record", record), ("Any", any), ("T", t), ("T1", t1), ("T2", t2), ("T3", t3)]

/-- The name of a builtin in written values. -/
def Builtin.label (b : Builtin) : String :=
  ((variants.find? fun v => v.2 == b).map Prod.fst).getD ""

namespace TypeExpr

/-- The written form of a type. -/
def encode (e : TypeExpr) : Json :=
  .str e.toText

/-- Decodes a type. -/
def decoder : Decoder TypeExpr :=
  Decoder.text.map (parse none)

end TypeExpr

namespace Property

/-- The members of a property. -/
def members (p : Property) : List (String × Json) :=
  field "name" (.str p.name) ++ fieldIfSome "description" str p.description
    ++ field "type" p.type.encode ++ field "required" (.bool p.required)

/-- The written form of a property. -/
def encode (p : Property) : Json :=
  .obj p.members

/-- The fields of a property. -/
def record : Record Property where
  name := "PropertyDefinition"
  blank := ⟨"", none, .any, false⟩
  fields := [
    .needed "name" .text fun v p => { p with name := v },
    .optional "description" .text fun v p => { p with description := v },
    .needed "type" TypeExpr.decoder fun v p => { p with type := v },
    .spare "required" .bool fun v p => { p with required := v }]

/-- Decodes a property. -/
def decoder : Decoder Property :=
  record.decoder

end Property

namespace Model

/-- The members of a model; `properties` is the written form of its properties. -/
def membersWith (m : Model) (properties : Json) : List (String × Json) :=
  field "name" (.str m.name) ++ field "className" (.str m.className)
    ++ fieldIfSome "description" str m.description ++ field "properties" properties

/-- The written form of a model. -/
def encode (m : Model) : Json :=
  .obj (m.membersWith (.arr (m.properties.map Property.encode)))

/-- The fields of a model. -/
def record : Record Model where
  name := "ModelDefinition"
  blank := ⟨"", "", none, []⟩
  fields := [
    .needed "name" .text fun v m => { m with name := v },
    .needed "className" .text fun v m => { m with className := v },
    .optional "description" .text fun v m => { m with description := v },
    .needed "properties" (.list Property.decoder) fun v m => { m with properties := v }]

/-- Decodes a model. -/
def decoder : Decoder Model :=
  record.decoder

end Model

end ApiOutline
