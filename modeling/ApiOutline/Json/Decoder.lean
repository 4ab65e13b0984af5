import ApiOutline.Dict
import ApiOutline.Json.Node
import ApiOutline.Text.Quoted

/-!
# Decoding readings

A decoder turns a reading into a value of its own type, or names the first thing, in the order of
the text, that keeps it from doing so.  That is a fault of the text, or something the text says that
the type has no place for.

A decoder is told how many levels of containers it may still open; a container beyond them is a
fault.  What is passed over may be nested more deeply.

* `DataError`, `Failure`: what can go wrong, and its wording in `DataError.message`.
* `Decoder`: decoders for scalars, lists, dictionaries, named variants and alternatives.
* `Decoder.decode`: decoding a whole text.
-/

namespace ApiOutline.Json

/-! ## Failures -/

/-- What a text holds at some place, in the words of a message. -/
inductive Got where
  | null
  | bool (b : Bool)
  | number (q : Quantity)
  | text (s : String)
  | array
  | object

/-- What a type wants at some place. -/
inductive Want where
  | text
  | bool
  | size
  | path
  | unit
  | list
  | dict
  /-- A record, under the name that messages give it. -/
  | record (name : String)
  /-- The name of a variant. -/
  | variant
  deriving DecidableEq, Repr

/-- Something a text says that a type has no place for. -/
inductive DataError where
  | wrongType (got : Got) (want : Want)
  | wrongValue (got : Quantity) (want : Want)
  | missingField (name : String)
  | duplicateField (name : String)
  | unknownVariant (given : String) (known : List String)
  /-- None of the alternatives of `name` fits. -/
  | noAlternative (name : String)
  /-- A record written as a list has only `length` entries of `fields`. -/
  | wrongLength (length : Nat) (name : String) (fields : Nat)

/-- Why a text is not decoded. -/
inductive Failure where
  | fault (f : Fault)
  | data (e : DataError)

/-- What a text holds, as it is named in a message. -/
def Got.describe : Got → String
  | null => "null"
  | bool b => "boolean `" ++ (if b then "true" else "false") ++ "`"
  | number q => q.describe
  | text s => "string " ++ Text.quoted s
  | array => "sequence"
  | object => "map"

/-- What a type wants, as it is named in a message. -/
def Want.describe : Want → String
  | text => "a string"
  | bool => "a boolean"
  | size => "usize"
  | path => "path string"
  | unit => "unit"
  | list => "a sequence"
  | dict => "a map"
  | record name => "struct " ++ name
  | variant => "variant identifier"

/-- The names of variants, as a message lists them. -/
def describeVariants : List String → String
  | [] => "there are no variants"
  | [a] => "expected `" ++ a ++ "`"
  | [a, b] => "expected `" ++ a ++ "` or `" ++ b ++ "`"
  | names => "expected one of " ++ ", ".intercalate (names.map fun n => "`" ++ n ++ "`")

/-- The wording of an error of the data. -/
def DataError.message : DataError → String
  | wrongType got want => "invalid type: " ++ got.describe ++ ", expected " ++ want.describe
  | wrongValue got want => "invalid value: " ++ got.describe ++ ", expected " ++ want.describe
  | missingField name => "missing field `" ++ name ++ "`"
  | duplicateField name => "duplicate field `" ++ name ++ "`"
  | unknownVariant given known =>
    "unknown variant `" ++ given ++ "`, " ++ describeVariants known
  | noAlternative name => "data did not match any variant of untagged enum " ++ name
  | wrongLength length name fields =>
    "invalid length " ++ toString length ++ ", expected struct " ++ name ++ " with "
      ++ toString fields ++ (if fields = 1 then " element" else " elements")

/-- The wording of a failure. -/
def Failure.message : Failure → String
  | fault f => f.message
  | data e => e.message

/-! ## Decoders -/

/-- Decodes a reading, when so many further levels of containers may be opened. -/
abbrev Decoder (α : Type) := Nat → Node → Except Failure α

/-- Fails with a fault of the text. -/
def failFault {α : Type} (f : Fault) : Except Failure α :=
  .error (.fault f)

/-- Fails with an error of the data. -/
def failData {α : Type} (e : DataError) : Except Failure α :=
  .error (.data e)

/-- Goes on unless there is a fault. -/
def unlessFault {α : Type} (f : Option Fault) (next : Except Failure α) : Except Failure α :=
  match f with
  | some f => failFault f
  | none => next

/-- Fails because the reading is not what is wanted. -/
def mismatch {α : Type} (want : Want) : Node → Except Failure α
  | .null => failData (.wrongType .null want)
  | .bool b => failData (.wrongType (.bool b) want)
  | .number n => unlessFault n.fault? (failData (.wrongType (.number n.value) want))
  | .text s => failData (.wrongType (.text s) want)
  | .array _ _ => failData (.wrongType .array want)
  | .object _ _ => failData (.wrongType .object want)
  | .absent f => failFault f
  | .badText read _ => failFault read
  | .bad read _ => failFault read

namespace Decoder

variable {α β : Type}

/-- The decoder with its results mapped. -/
def map (f : α → β) (d : Decoder α) : Decoder β :=
  fun levels node => (d levels node).map f

/-- Decodes a text. -/
def text : Decoder String
  | _, .text s => .ok s
  | _, node => mismatch .text node

/-- Decodes a text that names a file or directory. -/
def path : Decoder String
  | _, .text s => .ok s
  | _, node => mismatch .path node

/-- Decodes a truth value. -/
def bool : Decoder Bool
  | _, .bool b => .ok b
  | _, node => mismatch .bool node

/-- Decodes a natural number of 64 bits. -/
def size : Decoder Nat
  | _, .number n =>
    match n.value with
    | .natural m => .ok m
    | .negative i => failData (.wrongValue (.negative i) .size)
    | _ => mismatch .size (.number n)
  | _, node => mismatch .size node

/-- Decodes a value that may be `null`. -/
def optional (d : Decoder α) : Decoder (Option α)
  | _, .null => .ok none
  | levels, node => (d levels node).map some

/-- Decodes items one after the other. -/
def items (d : Node → Except Failure α) : List Node → Except Failure (List α)
  | [] => .ok []
  | n :: ns => do
    let a ← d n
    let as ← items d ns
    pure (a :: as)

/-- Decodes a list. -/
def list (d : Decoder α) : Decoder (List α)
  | levels, .array ns ending =>
    if levels = 0 then failFault .tooDeep
    else do
      let as ← items (d (levels - 1)) ns
      unlessFault ending.fault? (.ok as)
  | _, node => mismatch .list node

/-- Decodes members one after the other into a dictionary. -/
def members (d : Node → Except Failure α) :
    Dict α → List (Except Fault String × Node) → Except Failure (Dict α)
  | dict, [] => .ok dict
  | _, (.error f, _) :: _ => failFault f
  | dict, (.ok key, n) :: ms => do
    let a ← d n
    members d (dict.insert key a) ms

/-- Decodes a dictionary: of two values for one key the later one holds. -/
def dict (d : Decoder α) : Decoder (Dict α)
  | levels, .object ms ending =>
    if levels = 0 then failFault .tooDeep
    else do
      let result ← members (d (levels - 1)) .empty ms
      unlessFault ending.fault? (.ok result)
  | _, node => mismatch .dict node

/-- Decodes `null` and nothing else. -/
def unit : Decoder Unit
  | _, .null => .ok ()
  | _, node => mismatch .unit node

/-- The variant with a name. -/
def named (variants : List (String × α)) (name : String) : Except Failure α :=
  match variants.lookup name with
  | some a => .ok a
  | none => failData (.unknownVariant name (variants.map Prod.fst))

/-- Fails because something else stands where the name of a variant is due. -/
def nameless {α : Type} : Token → Except Failure α
  | .openArray => mismatch .variant (.array [] .closed)
  | .openObject => mismatch .variant (.object [] .closed)
  | t =>
    match Reading.scalar? t with
    | some node => mismatch .variant node
    | none => failFault .expectedValue

/-- Decodes one of several named variants: its name, or an object with its name as the only key and
`null` as the value. -/
def variant (variants : List (String × α)) : Decoder α
  | _, .text s => named variants s
  | levels, .object ms ending =>
    if levels = 0 then failFault .tooDeep
    else
      match ms with
      | [] =>
        match ending with
        | .keyless found => nameless found
        | _ => failFault (ending.fault?.getD .expectedValue)
      | (.error f, _) :: _ => failFault f
      | (.ok key, n) :: rest => do
        let a ← named variants key
        unit (levels - 1) n
        match rest, ending with
        | [], .closed => .ok a
        | [], .cut f => failFault f
        | _, _ => failFault .expectedValue
  | _, .absent f => failFault f
  | _, .badText read _ => failFault read
  | _, _ => failFault .expectedValue

/-- Decodes by the first alternative that fits.  The reading is first looked through for faults. -/
def oneOf (name : String) (alternatives : List (Decoder α)) : Decoder α :=
  fun levels node =>
    unlessFault (node.readFault? levels) <|
      match alternatives.findSome? fun d => (d levels node).toOption with
      | some a => .ok a
      | none => failData (.noAlternative name)

/-- The number of levels that a text may open. -/
def levelLimit : Nat := 127

/-- Decodes a whole text: nothing but white space may follow the value. -/
def decode (d : Decoder α) (text : List Text.Symbol) : Except Failure α := do
  let reading := Reading.ofSymbols text
  let a ← d levelLimit reading.node
  if reading.trailing then failFault .trailingText else .ok a

end Decoder

end ApiOutline.Json
