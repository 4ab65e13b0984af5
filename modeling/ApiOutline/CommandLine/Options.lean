/-!
# Options of a command line

An option is written with two hyphens and its name or with one hyphen and a letter.  Its value follows
as the next argument, after an equals sign, or directly after the letter.

* `OptionForm`: what is known about an option.
* `readOptions`: the options at the beginning of a list of arguments.
-/

namespace ApiOutline.CommandLine

/-- What an option takes. -/
inductive Taking where
  /-- Nothing. -/
  | nothing
  /-- One value, which may be empty or not. -/
  | value (mayBeEmpty : Bool)
  /-- A value each time it is written. -/
  | values
  deriving DecidableEq, Repr

/-- What is known about an option. -/
structure OptionForm where
  name : String
  letter : Option Char
  taking : Taking
  deriving DecidableEq, Repr

/-- An option that is written, with its value; a missing value is empty. -/
structure Given where
  name : String
  value : String
  deriving DecidableEq, Repr

/-- Why arguments are not read to their end. -/
inductive Stop where
  /-- They ask for help. -/
  | help
  /-- They are not of the form wanted. -/
  | misuse
  deriving DecidableEq, Repr

/-- The options at the beginning of a list of arguments, and the arguments from the first that is none
on. -/
structure Reading where
  options : List Given
  rest : List String
  deriving DecidableEq, Repr

/-- What an argument is. -/
inductive Argument where
  | word (s : String)
  /-- Two hyphens. -/
  | hyphens
  | named (name : String) (value : Option String)
  | lettered (letter : Char) (value : Option String)
  deriving DecidableEq, Repr

/-- The text before the first equals sign, and the text after it. -/
def splitEquals (text : List Char) : String × Option String :=
  let name := text.takeWhile (· != '=')
  match text.dropWhile (· != '=') with
  | [] => (String.ofList name, none)
  | _ :: value => (String.ofList name, some (String.ofList value))

/-- The value written directly after a letter. -/
def letterValue : List Char → Option String
  | [] => none
  | '=' :: value => some (String.ofList value)
  | value => some (String.ofList value)

/-- What an argument is. -/
def Argument.of (s : String) : Argument :=
  match s.toList with
  | ['-', '-'] => .hyphens
  | '-' :: '-' :: rest =>
    let (name, value) := splitEquals rest
    .named name value
  | '-' :: letter :: rest => .lettered letter (letterValue rest)
  | _ => .word s

/-- The options with one more, unless it must not be there. -/
def record (form : OptionForm) (value : String) (given : List Given) : Except Stop (List Given) :=
  let again := given.any fun g => g.name == form.name
  match form.taking with
  | .values => .ok (given ++ [⟨form.name, value⟩])
  | .nothing => if again then .error .misuse else .ok (given ++ [⟨form.name, value⟩])
  | .value mayBeEmpty =>
    if again || (value.isEmpty && !mayBeEmpty) then .error .misuse
    else .ok (given ++ [⟨form.name, value⟩])

/-- The options with one that is written with the value `value`, and the option whose value is still to
come. -/
def take (form : OptionForm) (value : Option String) (given : List Given) :
    Except Stop (List Given × Option OptionForm) :=
  match form.taking, value with
  | .nothing, none => (record form "" given).map (·, none)
  | .nothing, some _ => .error .misuse
  | _, some value => (record form value given).map (·, none)
  | _, none => .ok (given, some form)

/-- Reads options of the given forms, when the value of `due` is still to come. -/
def readFrom (forms : List OptionForm) : List Given → Option OptionForm → List String →
    Except Stop Reading
  | given, none, [] => .ok ⟨given, []⟩
  | _, some _, [] => .error .misuse
  | given, due, a :: rest =>
    match Argument.of a, due with
    | .word s, some form => do
      let given ← record form s given
      readFrom forms given none rest
    | .word _, none => .ok ⟨given, a :: rest⟩
    | _, some _ => .error .misuse
    | .hyphens, none => if rest.isEmpty then .ok ⟨given, []⟩ else .error .misuse
    | .named name value, none =>
      if name = "help" then .error (if value.isSome then .misuse else .help)
      else
        match forms.find? fun f => f.name == name with
        | none => .error .misuse
        | some form => do
          let (given, due) ← take form value given
          readFrom forms given due rest
    | .lettered letter value, none =>
      if letter = 'h' then .error .help
      else
        match forms.find? fun f => f.letter == some letter with
        | none => .error .misuse
        | some form => do
          let (given, due) ← take form value given
          readFrom forms given due rest

/-- Reads the options at the beginning of a list of arguments. -/
def readOptions (forms : List OptionForm) (arguments : List String) : Except Stop Reading :=
  readFrom forms [] none arguments

namespace Reading

/-- The value of an option. -/
def value? (r : Reading) (name : String) : Option String :=
  (r.options.find? fun g => g.name == name).map Given.value

/-- The values of an option. -/
def values (r : Reading) (name : String) : List String :=
  (r.options.filter fun g => g.name == name).map Given.value

/-- Whether an option is written. -/
def has (r : Reading) (name : String) : Bool :=
  r.options.any fun g => g.name == name

end Reading

end ApiOutline.CommandLine
