import ApiOutline.Text.Blank

/-!
# Tokens of type texts

A type text is names between three delimiters.  An argument list is opened by `«` or `<` and closed
by `»` or `>`, in any mixture, and its entries are separated by commas.  White space around a name
is no part of it, and a stretch of white space alone is no name.
-/

namespace ApiOutline.TypeExpr

/-- A token of a type text. -/
inductive Token where
  | name (text : String)
  | opener
  | closer
  | comma
  deriving DecidableEq, Repr

namespace Token

/-- The delimiter a character stands for. -/
def delimiter? (c : Char) : Option Token :=
  if c = '«' ∨ c = '<' then some opener
  else if c = '»' ∨ c = '>' then some closer
  else if c = ',' then some comma
  else none

/-- The name written by `text`, if it is one: a token, or nothing for white space alone. -/
def ofName (text : List Char) : List Token :=
  match Text.trimChars text with
  | [] => []
  | trimmed => [name (String.ofList trimmed)]

/-- The tokens of a text, when `pending` has been read of the name at its start, last character
first. -/
def scanFrom (pending : List Char) : List Char → List Token
  | [] => ofName pending.reverse
  | c :: rest =>
    match delimiter? c with
    | some d => ofName pending.reverse ++ d :: scanFrom [] rest
    | none => scanFrom (c :: pending) rest

/-- The tokens of a type text. -/
def scan (text : String) : List Token :=
  scanFrom [] text.toList

/-- The text of a name. -/
def name? : Token → Option String
  | name text => some text
  | _ => none

end Token

end ApiOutline.TypeExpr
