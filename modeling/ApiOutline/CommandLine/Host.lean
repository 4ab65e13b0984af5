import ApiOutline.Text.Split

/-!
# Hosts

A host is what a command line runs on: files, variables, and two streams of text.  The program is
written for any host, so that it can be run on a real one and followed on one in memory.

* `FileFault`: why something cannot be done with a file.
* `Host`: what a host offers.
* `join`, `extension?`, `folderOf`, `withExtension?`: paths.
-/

namespace ApiOutline.CommandLine

/-! ## Files -/

/-- Why something cannot be done with a file. -/
inductive FileFault where
  /-- It is not there. -/
  | absent
  /-- It is there already. -/
  | taken
  /-- It is no folder. -/
  | noFolder
  /-- It is a folder. -/
  | folder
  /-- It must not be used. -/
  | denied
  /-- Its path, or a part of it, is too long. -/
  | tooLong
  /-- Its path has a character that no path has. -/
  | badPath
  | other (message : String)
  deriving DecidableEq, Repr

/-- The wording of a fault. -/
def FileFault.message : FileFault → String
  | absent => "No such file or directory (os error 2)"
  | taken => "File exists (os error 17)"
  | noFolder => "Not a directory (os error 20)"
  | folder => "Is a directory (os error 21)"
  | denied => "Permission denied (os error 13)"
  | tooLong => "File name too long (os error 36)"
  | badPath => "file name contained an unexpected NUL byte"
  | other message => message

/-- What a command line runs on. -/
structure Host (m : Type → Type) where
  /-- The variables of the environment with their texts. -/
  environment : m (List (String × String))
  /-- The folder that paths start from. -/
  currentFolder : m String
  /-- Whether a path leads to a file. -/
  isFile : String → m Bool
  read : String → m (Except FileFault ByteArray)
  write : String → String → m (Except FileFault Unit)
  /-- Makes a folder and those it is in, as far as they are not there. -/
  makeFolders : String → m (Except FileFault Unit)
  print : String → m Unit
  printError : String → m Unit

/-! ## Paths -/

/-- Whether a path starts from the root. -/
def isAbsolute (path : String) : Bool :=
  path.toList.head? == some '/'

/-- The path `path`, starting from `base`. -/
def join (base path : String) : String :=
  if isAbsolute path || base.isEmpty then path
  else if base.toList.getLast? == some '/' then base ++ path
  else base ++ "/" ++ path

/-- The last part of a path. -/
def fileName (path : List Char) : List Char :=
  (path.reverse.takeWhile (· != '/')).reverse

/-- What follows the last dot of a file name, unless the name begins with that dot. -/
def extension? (path : String) : Option String :=
  let name := (fileName path.toList).reverse
  match name.dropWhile (· != '.') with
  | [] | [_] => none
  | _ :: _ :: _ => some (String.ofList (name.takeWhile (· != '.')).reverse)

/-- The parts of a path between slashes. -/
def partsOf (path : String) : List String :=
  (Text.splitOn '/' path.toList).map String.ofList

/-- Whether a part of a path leads nowhere else. -/
def isIdle (part : String) : Bool :=
  part = "" || part = "."

/-- The path of the folder that the last part of a path is in, which is empty for a part alone; what
leads nowhere after that folder is left out. -/
def folderOf (path : String) : String :=
  "/".intercalate ((partsOf path).dropLast.reverse.dropWhile isIdle).reverse

/-- The path with an extension after the last name in it, if it ends with a name; what leads nowhere
after the name is left out. -/
def withExtension? (path extension : String) : Option String :=
  match (partsOf path).reverse.dropWhile isIdle with
  | [] | ".." :: _ => none
  | name :: before => some ("/".intercalate ((name ++ "." ++ extension) :: before).reverse)

end ApiOutline.CommandLine
