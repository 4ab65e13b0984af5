import ApiOutline.TypeExpr.Basic
import ApiOutline.TypeExpr.Token

/-!
# The spelling of type expressions

Writing and reading type texts.  A text is written with `<` and `>`; model names carry a qualifier,
the namespace and a point, when a namespace is given.

Reading is lenient.  It goes through the tokens once and keeps the argument lists that are still
open on a stack.  A missing closer is implied, a token that cannot continue the expression ends it,
and an empty slot is an unresolved type.

* `TypeExpr.render`: the text of a tree.
* `TypeExpr.parse`: the tree of a text.
* `TypeExpr.respell`: a text read and written again.
-/

namespace ApiOutline.TypeExpr

/-! ## Namespaces -/

/-- What stands before a model name: the namespace and a point, or nothing. -/
def qualifier : Option String → String
  | none => ""
  | some space => if space.isEmpty then "" else space ++ "."

/-- A model name without its qualifier, if it carries it. -/
def unqualify (space : Option String) (name : String) : String :=
  match (qualifier space).toList.isPrefixOf? name.toList with
  | some rest => String.ofList rest
  | none => name

/-! ## Writing -/

mutual

/-- The text of a tree, with model names qualified. -/
def render (space : Option String) : TypeExpr → String
  | scalar b => b.canonical
  | array item => "Array<" ++ render space item ++ ">"
  | map key value => "Record<" ++ render space key ++ ", " ++ render space value ++ ">"
  | generic base args => qualifier space ++ base ++ "<" ++ renderArgs space args ++ ">"
  | model name => qualifier space ++ name
  | unresolved _ => ""

/-- The texts of the trees, separated by a comma and a blank. -/
def renderArgs (space : Option String) : List TypeExpr → String
  | [] => ""
  | e :: es => render space e ++ renderMoreArgs space es

/-- The texts of the trees, each after a comma and a blank. -/
def renderMoreArgs (space : Option String) : List TypeExpr → String
  | [] => ""
  | e :: es => ", " ++ render space e ++ renderMoreArgs space es

end

section

variable (space : Option String)

@[simp] theorem render_scalar (b : Builtin) : render space (scalar b) = b.canonical := rfl

@[simp] theorem render_array (item : TypeExpr) :
    render space (array item) = "Array<" ++ render space item ++ ">" := rfl

@[simp] theorem render_map (key value : TypeExpr) :
    render space (map key value) =
      "Record<" ++ render space key ++ ", " ++ render space value ++ ">" := rfl

@[simp] theorem render_generic (base : String) (args : List TypeExpr) :
    render space (generic base args) =
      qualifier space ++ base ++ "<" ++ renderArgs space args ++ ">" := rfl

@[simp] theorem render_model (name : String) :
    render space (model name) = qualifier space ++ name := rfl

@[simp] theorem render_unresolved (reference : String) :
    render space (unresolved reference) = "" := rfl

@[simp] theorem renderArgs_cons (e : TypeExpr) (es : List TypeExpr) :
    renderArgs space (e :: es) = render space e ++ renderMoreArgs space es := rfl

@[simp] theorem renderMoreArgs_nil : renderMoreArgs space [] = "" := rfl

@[simp] theorem renderMoreArgs_cons (e : TypeExpr) (es : List TypeExpr) :
    renderMoreArgs space (e :: es) = ", " ++ render space e ++ renderMoreArgs space es := rfl

end

/-- The text of a tree without qualifiers. -/
def toText (e : TypeExpr) : String := render none e

/-! ## Reading -/

/-- The tree of a name with arguments.  The array takes its first argument and the map its first
two; the key of a map with one argument is a string, and other builtins drop their arguments. -/
def build (space : Option String) (name : String) (args : List TypeExpr) : TypeExpr :=
  let name := unqualify space name
  if name.isEmpty then unresolved ""
  else
    match Builtin.ofName? name, args with
    | some .array, item :: _ => array item
    | some .record, [value] => map (scalar .string) value
    | some .record, key :: value :: _ => map key value
    | some b, _ => ofBuiltin b
    | none, [] => model name
    | none, args => generic name args

/-- An argument list that is still open: the name before it and the arguments read so far, last one
first. -/
structure Frame where
  base : String
  args : List TypeExpr

/-- What the slot under the reader holds. -/
inductive Slot where
  | empty
  | named (name : String)
  | filled (e : TypeExpr)

/-- The tree of the slot as it stands. -/
def Slot.value (space : Option String) : Slot → TypeExpr
  | empty => build space "" []
  | named name => build space name []
  | filled e => e

/-- The tree of an argument list that ends with `last`. -/
def Frame.close (space : Option String) (f : Frame) (last : TypeExpr) : TypeExpr :=
  build space f.base (last :: f.args).reverse

/-- The tree when every open argument list ends here. -/
def closeAll (space : Option String) (e : TypeExpr) (frames : List Frame) : TypeExpr :=
  frames.foldl (fun e f => f.close space e) e

/-- Reads on, inside the open argument lists `frames`, with `slot` read so far. -/
def readFrom (space : Option String) : List Frame → Slot → List Token → TypeExpr
  | frames, slot, [] => closeAll space (slot.value space) frames
  | frames, .empty, .name n :: rest => readFrom space frames (.named n) rest
  | frames, .empty, .opener :: rest => readFrom space (⟨"", []⟩ :: frames) .empty rest
  | frames, .named n, .opener :: rest => readFrom space (⟨n, []⟩ :: frames) .empty rest
  | f :: frames, slot, .comma :: rest =>
    readFrom space (⟨f.base, slot.value space :: f.args⟩ :: frames) .empty rest
  | f :: frames, slot, .closer :: rest =>
    readFrom space frames (.filled (f.close space (slot.value space))) rest
  | frames, slot, _ => closeAll space (slot.value space) frames

/-- The tree of a type text, whose model names may carry the qualifier of `space`. -/
def parse (space : Option String) (text : String) : TypeExpr :=
  readFrom space [] .empty (Token.scan text)

/-- A type text in canonical spelling: builtins under their canonical names, model names qualified,
angle brackets throughout. -/
def respell (space : Option String) (text : String) : String :=
  render space (parse space text)

end ApiOutline.TypeExpr
