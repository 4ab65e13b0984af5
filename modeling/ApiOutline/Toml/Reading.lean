import ApiOutline.Text.Utf8
import ApiOutline.Toml.Scalar
import ApiOutline.Toml.Table
import ApiOutline.Toml.Token

/-!
# Reading TOML

The tokens of a text are put together by a machine that looks at each token once.  It keeps the
sections that are finished, the one it is in, and the values in brackets and braces that are still
open.

* `Due`: what is due next.
* `step`: one token.
* `sections?`: the sections of a text.
* `table?`: the table that a text describes.
-/

namespace ApiOutline.Toml

/-- Keys have fewer parts than this, and values are nested less deeply. -/
def depthLimit : Nat := 80

/-! ## Dotted keys -/

/-- A piece of a dotted key. -/
inductive Piece where
  | dot
  | name (chars : List Char)
  deriving DecidableEq, Repr

/-- The pieces of a word. -/
def piecesOf : List Char → List Piece
  | [] => []
  | '.' :: rest => .dot :: piecesOf rest
  | c :: rest =>
    match piecesOf rest with
    | .name chars :: pieces => .name (c :: chars) :: pieces
    | pieces => .name [c] :: pieces

/-- The pieces of a word in the place of a key, which holds nothing but bare characters and dots. -/
def piecesOf? (word : List Char) : Option (List Piece) :=
  if word.all fun c => isBare c || c = '.' then some (piecesOf word) else none

/-- The pieces that a token adds to a key. -/
def Token.pieces? : Token → Option (List Piece)
  | word chars => piecesOf? chars
  | text s false => some [.name s.toList]
  | _ => none

/-- The parts of a key: names with dots between them. -/
def partsOf? : List Piece → Option (List String)
  | [.name chars] => some [String.ofList chars]
  | .name chars :: .dot :: rest => (partsOf? rest).map (String.ofList chars :: ·)
  | _ => none

/-- The key that pieces make up, unless it has too many parts. -/
def keyOf? (pieces : List Piece) : Option (List String) :=
  (partsOf? pieces).filter fun parts => parts.length < depthLimit

/-! ## The machine -/

/-- A value that is still open. -/
inductive Frame where
  /-- An array with the items read so far, last one first. -/
  | array (items : List Value)
  /-- A table in braces with the pairs read so far, last one first, inside the value of `key`. -/
  | table (pairs : List Pair) (key : List String)

/-- What is due next. -/
inductive Due where
  /-- A section heading, a pair, or the end of the line. -/
  | line
  /-- The rest of a heading. -/
  | heading (repeated : Bool) (pieces : List Piece)
  /-- The second bracket at the end of a repeated heading. -/
  | bracket (pieces : List Piece)
  /-- The end of the line. -/
  | lineEnd
  /-- The rest of the key of a pair, or the equals sign. -/
  | key (pieces : List Piece)
  /-- The value of a key, or a value inside it. -/
  | value (key : List String) (open_ : List Frame)
  /-- An item of the array `items`, or its end. -/
  | item (key : List String) (open_ : List Frame) (items : List Value)
  /-- A key of the table `pairs`; or, if nothing has been read of it, its end. -/
  | entry (key : List String) (open_ : List Frame) (pairs : List Pair) (afterComma : Bool)
      (pieces : List Piece)
  /-- What follows a value. -/
  | after (key : List String) (open_ : List Frame) (v : Value)
  /-- The time that may follow a date, or what follows the date. -/
  | time (key : List String) (open_ : List Frame) (date : List Char)

/-- The sections read so far. -/
structure Draft where
  /-- The finished sections, last one first. -/
  done : List Section
  /-- The heading of the section that is being read. -/
  path : List String
  repeated : Bool
  /-- Its pairs, last one first. -/
  pairs : List Pair

namespace Draft

/-- Nothing has been read. -/
def start : Draft := ⟨[], [], false, []⟩

/-- The sections read so far, last one first. -/
def sections (d : Draft) : List Section :=
  ⟨d.path, d.repeated, d.pairs.reverse⟩ :: d.done

/-- The draft with a new section. -/
def open_ (d : Draft) (repeated : Bool) (path : List String) : Draft :=
  ⟨d.sections, path, repeated, []⟩

/-- The draft with one more pair. -/
def add (d : Draft) (key : List String) (v : Value) : Draft :=
  { d with pairs := ⟨key, v⟩ :: d.pairs }

end Draft

/-- A step where a value is due. -/
def stepValue (key : List String) (frames : List Frame) : Token → Option Due
  | .text s _ => some (.after key frames (.text s))
  | .word chars =>
    if Moment.isDate chars then some (.time key frames chars)
    else (Value.ofWord? chars).map (.after key frames)
  | .openBracket => if frames.length + 1 < depthLimit then some (.item key frames []) else none
  | .openBrace =>
    if frames.length + 1 < depthLimit then some (.entry key frames [] false []) else none
  | _ => none

/-- A step after a value. -/
def stepAfter (d : Draft) (key : List String) (v : Value) : List Frame → Token → Option (Draft × Due)
  | [], .newLine => some (d.add key v, .line)
  | .array items :: frames, .newLine => some (d, .after key (.array items :: frames) v)
  | .array items :: frames, .comma => some (d, .item key frames (v :: items))
  | .array items :: frames, .closeBracket =>
    some (d, .after key frames (.array (v :: items).reverse))
  | .table pairs inner :: frames, .comma => some (d, .entry key frames (⟨inner, v⟩ :: pairs) true [])
  | .table pairs inner :: frames, .closeBrace =>
    (ofPairs? (⟨inner, v⟩ :: pairs).reverse).map fun entries => (d, .after key frames (.table entries))
  | _, _ => none

/-- A step at the beginning of a line. -/
def stepLine (d : Draft) : Token → Option (Draft × Due)
  | .newLine => some (d, .line)
  | .openBracket => some (d, .heading false [])
  | t => t.pieces?.map fun pieces => (d, .key pieces)

/-- A step in a heading. -/
def stepHeading (d : Draft) (repeated : Bool) (pieces : List Piece) (l : Lexeme) :
    Option (Draft × Due) :=
  match l.token with
  | .openBracket =>
    if !repeated && pieces.isEmpty && l.gap = .nothing then some (d, .heading true []) else none
  | .closeBracket =>
    if repeated then some (d, .bracket pieces)
    else (keyOf? pieces).map fun path => (d.open_ false path, .lineEnd)
  | t => t.pieces?.map fun more => (d, .heading repeated (pieces ++ more))

/-- A step in a table in braces. -/
def stepEntry (key : List String) (frames : List Frame) (pairs : List Pair) (afterComma : Bool)
    (pieces : List Piece) : Token → Option Due
  | .closeBrace =>
    if afterComma || !pieces.isEmpty then none else some (.after key frames (.table []))
  | .equals => (keyOf? pieces).map fun inner => .value key (.table pairs inner :: frames)
  | t => t.pieces?.map fun more => .entry key frames pairs afterComma (pieces ++ more)

/-- One token. -/
def step (d : Draft) (l : Lexeme) : Due → Option (Draft × Due)
  | .line => stepLine d l.token
  | .heading repeated pieces => stepHeading d repeated pieces l
  | .bracket pieces =>
    if l = ⟨.nothing, .closeBracket⟩ then (keyOf? pieces).map fun path => (d.open_ true path, .lineEnd)
    else none
  | .lineEnd => if l.token = .newLine then some (d, .line) else none
  | .key pieces =>
    match l.token with
    | .equals => (keyOf? pieces).map fun key => (d, .value key [])
    | t => t.pieces?.map fun more => (d, .key (pieces ++ more))
  | .value key frames => (stepValue key frames l.token).map (d, ·)
  | .item key frames items =>
    match l.token with
    | .newLine => some (d, .item key frames items)
    | .closeBracket => some (d, .after key frames (.array items.reverse))
    | t => (stepValue key (.array items :: frames) t).map (d, ·)
  | .entry key frames pairs afterComma pieces =>
    (stepEntry key frames pairs afterComma pieces l.token).map (d, ·)
  | .after key frames v => stepAfter d key v frames l.token
  | .time key frames date =>
    match l with
    | ⟨.space, .word chars⟩ =>
      (Moment.ofWords? date chars).map fun s => (d, .after key frames (.moment s))
    | _ => stepAfter d key (.moment (String.ofList date)) frames l.token

/-- Puts tokens together. -/
def assemble (d : Draft) (due : Due) : List Lexeme → Option (Draft × Due)
  | [] => some (d, due)
  | l :: rest => (step d l due).bind fun next => assemble next.1 next.2 rest

/-! ## Texts -/

/-- The sections of a text.  Its last line need not be ended. -/
def sections? (text : List Char) : Option (List Section) :=
  match assemble .start .line (Lexeme.scan text ++ [⟨.nothing, .newLine⟩]) with
  | some (d, .line) => some d.sections.reverse
  | _ => none

/-- The table that a text describes. -/
def table? (text : String) : Option (List (String × Value)) :=
  (sections? (Text.withoutMark text.toList)).bind ofSections?

end ApiOutline.Toml
