import ApiOutline.Decimal.Reading
import ApiOutline.Json.Decoder
import ApiOutline.Settings.Codec
import ApiOutline.Settings.Value

/-!
# Settings taken loosely

Values that users write are taken for what they can mean: a number where a text is wanted, a text such
as `yes` where a truth value is wanted, a name in any case.

* `Misfit`: a value that cannot be taken for what is wanted.
* `textOf`, `boolOf`, `sizeOf`, `namedOf`, `listOf`: single settings.
* `Settings.ofEntries`: all settings.
-/

namespace ApiOutline.Settings

/-! ## Values that do not fit -/

/-- A value that cannot be taken for what is wanted. -/
inductive Misfit where
  /-- A value that has not the meaning wanted. -/
  | meaning (got : Value) (want : String)
  /-- A value that has not the form wanted. -/
  | form (got : Value) (want : String)
  /-- A name that is none of those of a type. -/
  | name (given type : String)
  /-- A value of a named type that is no name. -/
  | unnamed (type : String)

/-- A value as it is named in a message; `integer` names an integer. -/
def describe (integer : String) : Value → String
  | .gap => "unit value"
  | .text s => "string " ++ Text.quoted s
  | .integer i => integer ++ " `" ++ toString i ++ "`"
  | .floating x => "floating point `" ++ Decimal.plain x ++ "`"
  | .bool b => "boolean `" ++ (if b then "true" else "false") ++ "`"
  | .list _ => "sequence"
  | .table _ => "map"

/-- The wording of a misfit. -/
def Misfit.message : Misfit → String
  | meaning got want => "invalid type: " ++ describe "64-bit integer" got ++ ", expected " ++ want
  | form got want => "invalid type: " ++ describe "integer" got ++ ", expected " ++ want
  | name given type => "enum " ++ type ++ " does not have variant constructor " ++ given
  | unnamed type =>
    "value of enum " ++ type ++ " should be represented by either string or table with exactly one key"

/-! ## Single settings -/

/-- A text in lower case. -/
def lowered (s : String) : String :=
  String.ofList (Text.lowercase s.toList)

/-- A text; numbers and truth values are written out. -/
def textOf : Value → Except Misfit String
  | .text s => .ok s
  | .integer i => .ok (toString i)
  | .floating x => .ok (Decimal.plain x)
  | .bool b => .ok (if b then "true" else "false")
  | v => .error (.meaning v "a string")

/-- The truth value that a text means. -/
def meantBool? (s : String) : Option Bool :=
  match lowered s with
  | "1" | "true" | "on" | "yes" => some true
  | "0" | "false" | "off" | "no" => some false
  | _ => none

/-- A truth value; a number is true unless it is zero. -/
def boolOf : Value → Except Misfit Bool
  | .bool b => .ok b
  | .integer i => .ok (i != 0)
  | .floating x => .ok (x != 0.0)
  | .text s =>
    match meantBool? s with
    | some b => .ok b
    | none => .error (.meaning (.text (lowered s)) "a boolean")
  | v => .error (.meaning v "a boolean")

/-- The natural number that a text writes, if it has at most 64 bits. -/
def meantSize? (s : String) : Option Nat :=
  let digits := match s.toList with
    | '+' :: rest => rest
    | text => text
  if digits.isEmpty || !digits.all Char.isDigit then none
  else (some (Decimal.valueOf digits)).filter (· ≤ Json.Numeral.wordMax)

/-- A natural number; a fraction is rounded, and a truth value counts as one or zero. -/
def sizeOf : Value → Except Misfit Nat
  | .integer i =>
    if 0 ≤ i then .ok i.toNat
    else .error (.meaning (.integer i) "an unsigned 64 bit or less integer")
  | .floating x => .ok x.round.toUInt64.toNat
  | .bool b => .ok (if b then 1 else 0)
  | .text s =>
    match lowered s with
    | "true" | "on" | "yes" => .ok 1
    | "false" | "off" | "no" => .ok 0
    | _ =>
      match meantSize? s with
      | some n => .ok n
      | none => .error (.meaning (.text s) "an integer")
  | v => .error (.meaning v "an integer")

/-- The variant with a name, in any case. -/
def variantOf {α : Type} (type : String) (variants : List (String × α)) (given : String) :
    Except Misfit α :=
  match variants.find? fun v => lowered v.1 == lowered given with
  | some v => .ok v.2
  | none => .error (.name given type)

/-- A variant: its name, or a table with the name as its only key. -/
def namedOf {α : Type} (type : String) (variants : List (String × α)) : Value → Except Misfit α
  | .text s => variantOf type variants s
  | .table [(key, _)] => variantOf type variants key
  | _ => .error (.unnamed type)

/-- A list. -/
def listOf {α : Type} (item : Value → Except Misfit α) : Value → Except Misfit (List α)
  | .list items => items.mapM item
  | v => .error (.form v "a sequence")

/-- A map of texts. -/
def mapOf : Value → Except Misfit (NameMap String)
  | .table entries => do
    let pairs ← entries.mapM fun e => (textOf e.2).map (e.1, ·)
    return .ofList pairs
  | v => .error (.form v "a map")

/-! ## Records -/

/-- A field of settings of type `α`. -/
structure Setting (α : Type) where
  name : String
  /-- The change that a value makes. -/
  set : Value → Except Misfit (α → α)

/-- The field with a name whose values are taken by `take`. -/
def Setting.of {α β : Type} (name : String) (take : Value → Except Misfit β) (set : β → α → α) :
    Setting α :=
  ⟨name, fun v => (take v).map set⟩

/-- The field with a name that a gap leaves without a value. -/
def Setting.optional {α β : Type} (name : String) (take : Value → Except Misfit β)
    (set : Option β → α → α) : Setting α :=
  ⟨name, fun
    | .gap => .ok (set none)
    | v => (take v).map fun b => set (some b)⟩

/-- Settings of one kind: a table of fields, or the list of their values in order.  What is not written
stays as it is in `start`. -/
def recordOf {α : Type} (type : String) (start : α) (fields : List (Setting α)) :
    Value → Except Misfit α
  | .table entries =>
    fields.foldlM (fun a f =>
      match entries.lookup f.name with
      | none => .ok a
      | some v => (f.set v).map (· a)) start
  | .list items => (fields.zip items).foldlM (fun a p => (p.1.set p.2).map (· a)) start
  | v => .error (.form v ("struct " ++ type))

/-- The naming rules. -/
def namingOf : Value → Except Misfit NamingRules :=
  recordOf "NamingConfig" .default [
    .optional "tag_index" sizeOf fun v r => { r with tagIndex := v },
    .of "api_cut" (listOf sizeOf) fun v r => { r with cut := v },
    .optional "base_name" textOf fun v r => { r with baseName := v },
    .optional "base_url" textOf fun v r => { r with baseUrl := v }]

/-- The filter. -/
def filterOf : Value → Except Misfit PathFilter :=
  recordOf "PathFilter" .default [
    .of "paths" (listOf textOf) fun v f => { f with paths := v },
    .of "exclude_paths" (listOf textOf) fun v f => { f with excluded := v }]

/-- The settings of an outline. -/
def outlineOf : Value → Except Misfit OutlineSettings :=
  recordOf "CodegenConfig" .default [
    .of "naming" namingOf fun v c => { c with naming := v },
    .of "filter" filterOf fun v c => { c with filter := v },
    .of "methods" (listOf (namedOf "HttpMethod" Verb.variants)) fun v c => { c with verbs := v },
    .optional "model_namespace" textOf fun v c => { c with modelNamespace := v },
    .of "generic_wrappers" mapOf fun v c => { c with wrappers := v }]

/-- The output settings. -/
def outputOf : Value → Except Misfit OutputSettings :=
  recordOf "OutputConfig" .default [
    .of "dir" textOf fun v o => { o with dir := v },
    .of "format" (namedOf "OutputFormat" Layout.variants) fun v o => { o with layout := v },
    .of "view" boolOf fun v o => { o with view := v }]

/-- The place of the document. -/
def sourceOf : Value → Except Misfit (Option String) :=
  recordOf "SourceConfig" none [.optional "document" textOf fun v _ => v]

/-- All settings. -/
def ofEntries (entries : List (String × Value)) : Except Misfit Settings :=
  recordOf "GeneratorConfig" Settings.default [
    .of "source" sourceOf fun v c => { c with document := v },
    .of "output" outputOf fun v c => { c with output := v },
    .of "codegen" outlineOf fun v c => { c with outline := v }] (.table entries)

end ApiOutline.Settings
