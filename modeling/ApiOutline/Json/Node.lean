import ApiOutline.Json.Token

/-!
# Readings of JSON texts

A text is read into a tree even where it is no JSON text.  The tree holds everything up to the first
fault, and the fault itself at its place: as a value that cannot be read, or as the way a container
ends.  Whoever walks the tree from left to right so meets the faults of the text and the oddities of
its values in the order in which they are written.

* `Node`: the trees.
* `Reading.ofTokens`: the tree of a token list, by a machine that looks at each token once.
* `Node.readFault?`, `Node.skipFault?`: the first fault of a tree, for one who reads it and for one
  who passes over it.
-/

namespace ApiOutline.Json

/-- How the entries of a container end. -/
inductive Ending where
  /-- With its closing bracket. -/
  | closed
  /-- With a fault where a comma or the bracket is due. -/
  | cut (f : Fault)
  /-- With a fault after a comma. -/
  | dangling (f : Fault)
  /-- With something else where the first key of an object is due. -/
  | keyless (found : Token)
  deriving DecidableEq, Repr

/-- A value as it is read from a text. -/
inductive Node where
  | null
  | bool (b : Bool)
  | number (n : Numeral)
  | text (s : String)
  | array (items : List Node) (ending : Ending)
  /-- The members of an object; a key that cannot be read is a fault. -/
  | object (members : List (Except Fault String × Node)) (ending : Ending)
  /-- There is no value; a reader meets the fault before looking for one. -/
  | absent (f : Fault)
  /-- A string that cannot be read; `skip` is the fault met when it is passed over, if any. -/
  | badText (read : Fault) (skip : Option Fault)
  /-- Anything else that cannot be read. -/
  | bad (read skip : Fault)
  deriving Repr, Inhabited

/-! ## Assembly -/

/-- A container that is still open. -/
inductive Container where
  /-- An array with the items read so far, last one first. -/
  | array (items : List Node)
  /-- An object with the members read so far, last one first, inside the value of `key`. -/
  | object (members : List (Except Fault String × Node)) (key : Except Fault String)

/-- The container with `node` as its last entry. -/
def Container.close (node : Node) (ending : Ending) : Container → Node
  | array items => .array (node :: items).reverse ending
  | object members key => .object ((key, node) :: members).reverse ending

/-- What is wrong after a value inside a container. -/
def Container.separatorFault : Container → Fault
  | .array _ => .expectedListEnd
  | .object _ _ => .expectedObjectEnd

/-- What is wrong when the text ends after a value inside a container. -/
def Container.endFault : Container → Fault
  | .array _ => .endInList
  | .object _ _ => .endInObject

/-- What is due next. -/
inductive Due where
  /-- A value. -/
  | value
  /-- The first item of an array, or its end. -/
  | items
  /-- A key of an object, or its end when no comma has been read. -/
  | key (members : List (Except Fault String × Node)) (afterComma : Bool)
  /-- The colon after a key. -/
  | colon (members : List (Except Fault String × Node)) (key : Except Fault String)
  /-- A comma or a closing bracket, after a value. -/
  | separator (node : Node)

/-- A text as it is read: the value at its start, and whether anything follows it. -/
structure Reading where
  node : Node
  trailing : Bool

namespace Reading

/-- Ends the reading at the fault `f` inside `node`, which stands inside the open containers. -/
def stop (f : Fault) (node : Node) (open_ : List Container) : Reading :=
  ⟨open_.foldl (fun node c => c.close node (.cut f)) node, false⟩

/-- The value that a token is on its own. -/
def scalar? : Token → Option Node
  | .null => some .null
  | .bool b => some (.bool b)
  | .number n => some (.number n)
  | .text s => some (.text s)
  | .badText read skip => some (.badText read skip)
  | .bad read skip => some (.bad read skip)
  | _ => none

/-- How an object ends when `f` is met in the place of a key. -/
def keyEnding (afterComma : Bool) (f : Fault) : Ending :=
  if afterComma then .dangling f else .cut f

/-- What is wrong with a token in the place of a key after a comma. -/
def keyFault : Token → Fault
  | .closeObject => .trailingComma
  | _ => .keyNotText

/-- What stands for a value when a token is met that is none. -/
def noValue (t : Token) : List Container → Node
  | .array _ :: _ =>
    if t = .closeArray then .absent .trailingComma else .bad .expectedValue .expectedValue
  | _ => .bad .expectedValue .expectedValue

/-- Reads on, inside the open containers `open_`. -/
def assemble : List Container → Due → List Token → Reading
  -- the text has come to its end
  | open_, .value, [] => stop .endInValue (.absent .endInValue) open_
  | open_, .items, [] => stop .endInList (.array [] (.cut .endInList)) open_
  | open_, .key members afterComma, [] =>
    let f := if afterComma then .endInValue else .endInObject
    stop f (.object members.reverse (keyEnding afterComma f)) open_
  | open_, .colon members key, [] =>
    stop .endInObject
      (.object ((key, .absent .endInObject) :: members).reverse (.cut .endInObject)) open_
  | [], .separator node, [] => ⟨node, false⟩
  | c :: open_, .separator node, [] =>
    stop c.endFault (c.close node (.cut c.endFault)) open_
  -- a value
  | open_, .items, .closeArray :: rest => assemble open_ (.separator (.array [] .closed)) rest
  | open_, .items, .openArray :: rest => assemble (.array [] :: open_) .items rest
  | open_, .items, .openObject :: rest => assemble (.array [] :: open_) (.key [] false) rest
  | open_, .items, t :: rest =>
    match scalar? t with
    | some node => assemble (.array [] :: open_) (.separator node) rest
    | none =>
      stop .expectedValue
        (.array [.bad .expectedValue .expectedValue] (.cut .expectedValue)) open_
  | open_, .value, .openArray :: rest => assemble open_ .items rest
  | open_, .value, .openObject :: rest => assemble open_ (.key [] false) rest
  | open_, .value, t :: rest =>
    match scalar? t with
    | some node => assemble open_ (.separator node) rest
    | none => stop .expectedValue (noValue t open_) open_
  -- a member
  | open_, .key members _, .text s :: rest => assemble open_ (.colon members (.ok s)) rest
  | open_, .key members _, .badText read none :: rest =>
    assemble open_ (.colon members (.error read)) rest
  | open_, .key members afterComma, .badText read (some skip) :: _ =>
    if read = skip then stop read (.object members.reverse (keyEnding afterComma read)) open_
    else stop skip (.object ((.error read, .bad skip skip) :: members).reverse (.cut skip)) open_
  | open_, .key members false, .closeObject :: rest =>
    assemble open_ (.separator (.object members.reverse .closed)) rest
  | open_, .key members false, t :: _ =>
    stop .keyNotText (.object members.reverse (.keyless t)) open_
  | open_, .key members true, t :: _ =>
    stop (keyFault t) (.object members.reverse (.dangling (keyFault t))) open_
  | open_, .colon members key, .colon :: rest =>
    assemble (.object members key :: open_) .value rest
  | open_, .colon members key, _ :: _ =>
    stop .expectedColon
      (.object ((key, .absent .expectedColon) :: members).reverse (.cut .expectedColon)) open_
  -- what follows a value
  | [], .separator node, _ :: _ => ⟨node, true⟩
  | .array items :: open_, .separator node, .comma :: rest =>
    assemble (.array (node :: items) :: open_) .value rest
  | .object members key :: open_, .separator node, .comma :: rest =>
    assemble open_ (.key ((key, node) :: members) true) rest
  | .array items :: open_, .separator node, .closeArray :: rest =>
    assemble open_ (.separator (Container.close node .closed (.array items))) rest
  | .object members key :: open_, .separator node, .closeObject :: rest =>
    assemble open_ (.separator (Container.close node .closed (.object members key))) rest
  | c :: open_, .separator node, _ :: _ =>
    stop c.separatorFault (c.close node (.cut c.separatorFault)) open_

/-- The reading of a token list. -/
def ofTokens (tokens : List Token) : Reading :=
  assemble [] .value tokens

/-- The reading of a text. -/
def ofSymbols (text : List Text.Symbol) : Reading :=
  ofTokens (Token.scan text)

end Reading

/-! ## Faults -/

/-- The fault an ending comes to. -/
def Ending.fault? : Ending → Option Fault
  | closed => none
  | cut f => some f
  | dangling f => some f
  | keyless _ => some .keyNotText

mutual

/-- The first fault met by one who passes over the value. -/
def Node.skipFault? : Node → Option Fault
  | .array items ending => (skipFaultItems? items).or ending.fault?
  | .object members ending => (skipFaultMembers? members).or ending.fault?
  | .absent f => some f
  | .badText _ skip => skip
  | .bad _ skip => some skip
  | _ => none

/-- The first fault met by one who passes over the items. -/
def skipFaultItems? : List Node → Option Fault
  | [] => none
  | n :: ns => (Node.skipFault? n).or (skipFaultItems? ns)

/-- The first fault met by one who passes over the members. -/
def skipFaultMembers? : List (Except Fault String × Node) → Option Fault
  | [] => none
  | (_, n) :: ms => (Node.skipFault? n).or (skipFaultMembers? ms)

end

/-- The fault of reading a number. -/
def Numeral.fault? (n : Numeral) : Option Fault :=
  match n.value with
  | .tooLarge => some .numberRange
  | _ => none

mutual

/-- The first fault met by one who reads all of the value, when `levels` further levels of
containers may be opened. -/
def Node.readFault? (levels : Nat) : Node → Option Fault
  | .number n => n.fault?
  | .array items ending =>
    if levels = 0 then some .tooDeep
    else (readFaultItems? (levels - 1) items).or ending.fault?
  | .object members ending =>
    if levels = 0 then some .tooDeep
    else (readFaultMembers? (levels - 1) members).or ending.fault?
  | .absent f => some f
  | .badText read _ => some read
  | .bad read _ => some read
  | _ => none

/-- The first fault met by one who reads all of the items. -/
def readFaultItems? (levels : Nat) : List Node → Option Fault
  | [] => none
  | n :: ns => (Node.readFault? levels n).or (readFaultItems? levels ns)

/-- The first fault met by one who reads all of the members. -/
def readFaultMembers? (levels : Nat) : List (Except Fault String × Node) → Option Fault
  | [] => none
  | (.error f, _) :: _ => some f
  | (.ok _, n) :: ms => (Node.readFault? levels n).or (readFaultMembers? levels ms)

end

end ApiOutline.Json
