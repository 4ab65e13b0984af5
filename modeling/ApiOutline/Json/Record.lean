import ApiOutline.Json.Decoder

/-!
# Decoding records

A record is written as an object.  Members with unknown names are passed over, a field may be left
out unless it is required, and no field may be written twice.  A record may also be written as the
list of its fields in their order; fields missing at the end are left out.

* `Field`, `Record`: the fields of a record type and what a record is before any field is read.
* `Record.ofMembers`, `Record.ofItems`: the two written forms.
* `Record.decoder`: decoding either form.
-/

namespace ApiOutline.Json

/-- A field of records of type `α`. -/
structure Field (α : Type) where
  name : String
  required : Bool
  /-- Decodes the field to the change it makes to a record. -/
  read : Decoder (α → α)

/-- A field that has to be written. -/
def Field.needed {α β : Type} (name : String) (d : Decoder β) (set : β → α → α) : Field α :=
  ⟨name, true, d.map set⟩

/-- A field that may be left out. -/
def Field.spare {α β : Type} (name : String) (d : Decoder β) (set : β → α → α) : Field α :=
  ⟨name, false, d.map set⟩

/-- A field that may be left out or `null`. -/
def Field.optional {α β : Type} (name : String) (d : Decoder β) (set : Option β → α → α) :
    Field α :=
  ⟨name, false, d.optional.map set⟩

/-- A record type. -/
structure Record (α : Type) where
  /-- The name that messages give it. -/
  name : String
  /-- The record before any field is read. -/
  blank : α
  /-- The fields, in order. -/
  fields : List (Field α)

namespace Record

variable {α : Type}

/-- Reads members one after the other into a record in which the fields `seen` have been set. -/
def readMembers (r : Record α) (levels : Nat) :
    α → List String → List (Except Fault String × Node) → Except Failure (α × List String)
  | a, seen, [] => .ok (a, seen)
  | _, _, (.error f, _) :: _ => failFault f
  | a, seen, (.ok key, n) :: ms =>
    match r.fields.find? fun f => f.name == key with
    | none => unlessFault n.skipFault? (readMembers r levels a seen ms)
    | some f =>
      if seen.contains key then failData (.duplicateField key)
      else do
        let set ← f.read levels n
        readMembers r levels (set a) (key :: seen) ms

/-- The record written by the members of an object. -/
def ofMembers (r : Record α) (levels : Nat) (ms : List (Except Fault String × Node)) (ending : Ending) :
    Except Failure α := do
  let (a, seen) ← r.readMembers levels r.blank [] ms
  unlessFault ending.fault? <|
    match r.fields.find? fun f => f.required && !seen.contains f.name with
    | some f => failData (.missingField f.name)
    | none => .ok a

/-- Reads items into the fields that are left, of which `n` have been read. -/
def readItems (r : Record α) (levels : Nat) (ending : Ending) :
    Nat → α → List (Field α) → List Node → Except Failure α
  | _, a, [], [] =>
    match ending with
    | .closed => .ok a
    | .cut f => failFault (if f.isTruncation then f else .trailingText)
    | .dangling _ | .keyless _ => failFault .trailingText
  | _, _, [], item :: _ =>
    failFault (match item with | .absent .trailingComma => .trailingComma | _ => .trailingText)
  | n, a, f :: fs, [] =>
    unlessFault ending.fault? <|
      match (f :: fs).findIdx? Field.required with
      | some i => failData (.wrongLength (n + i) r.name r.fields.length)
      | none => .ok a
  | n, a, f :: fs, item :: items => do
    let set ← f.read levels item
    readItems r levels ending (n + 1) (set a) fs items

/-- The record written by the items of a list. -/
def ofItems (r : Record α) (levels : Nat) (items : List Node) (ending : Ending) :
    Except Failure α :=
  r.readItems levels ending 0 r.blank r.fields items

/-- Decodes a record. -/
def decoder (r : Record α) : Decoder α
  | levels, .object ms ending =>
    if levels = 0 then failFault .tooDeep else r.ofMembers (levels - 1) ms ending
  | levels, .array items ending =>
    if levels = 0 then failFault .tooDeep else r.ofItems (levels - 1) items ending
  | _, node => mismatch (.record r.name) node

/-- Decodes a record that has to be written as an object. -/
def objectDecoder (r : Record α) : Decoder α
  | levels, .object ms ending =>
    if levels = 0 then failFault .tooDeep else r.ofMembers (levels - 1) ms ending
  | _, node => mismatch (.record r.name) node

end Record

end ApiOutline.Json
