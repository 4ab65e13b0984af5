import ApiOutline.CommandLine.Host
import ApiOutline.Dict
import ApiOutline.Text.Split

/-!
# Hosts in memory

A host in memory holds a tree of folders and files.  Runs on it can be followed step by step, and two
runs from the same state come to the same end.

* `Entry`: files and folders.
* `locate`, `locateNew`: the places that paths lead to.
* `Memory`, `Memory.host`: the state of such a host, and the host.
-/

namespace ApiOutline.CommandLine

/-- A file or a folder. -/
inductive Entry where
  | file (contents : ByteArray)
  | folder (entries : List (String × Entry))
  deriving Inhabited

/-- The entries of a folder. -/
abbrev Entries := List (String × Entry)

/-! ## Places -/

/-- The entry at a place, given by the names on the way from the root. -/
def entryAt? : List String → Entry → Option Entry
  | [], e => some e
  | name :: rest, .folder entries => (entries.lookup name).bind (entryAt? rest)
  | _ :: _, .file _ => none

/-- A tree with an entry put at a place; folders on the way are made. -/
def putAt (new : Entry) : List String → Entry → Entry
  | [], _ => new
  | name :: rest, .folder entries =>
    .folder (upsert name (putAt new rest ((entries.lookup name).getD (.folder []))) entries)
  | name :: rest, .file _ => .folder [(name, putAt new rest (.folder []))]

/-- The greatest number of bytes of a part of a path. -/
def maxPartBytes : Nat := 255

/-- The greatest number of bytes of a path. -/
def maxPathBytes : Nat := 4095

/-- Why a path leads nowhere, whatever files there are. -/
def pathFault? (path : String) : Option FileFault :=
  if path.toList.contains '\x00' then some .badPath
  else if path.isEmpty then some .absent
  else if maxPathBytes < path.utf8ByteSize then some .tooLong
  else none

/-- The place reached from the folder `here` by a part of a path. -/
def enter (here : List String) (part : String) : Except FileFault (List String) :=
  if isIdle part then .ok here
  else if part = ".." then .ok here.dropLast
  else if maxPartBytes < part.utf8ByteSize then .error .tooLong
  else .ok (here ++ [part])

/-- Nothing, if there is a folder at the place `here`. -/
def checkFolder (root : Entry) (here : List String) : Except FileFault Unit :=
  match entryAt? here root with
  | none => .error .absent
  | some (.file _) => .error .noFolder
  | some (.folder _) => .ok ()

/-- The place reached from the place `here` by the parts of a path.  All of it but its last part has to
be there. -/
def walk (root : Entry) (here : List String) : List String → Except FileFault (List String)
  | [] => .ok here
  | part :: rest => do
    checkFolder root here
    walk root (← enter here part) rest

/-- The parts of a path that starts from the folder `current`. -/
def partsFrom (current path : String) : Except FileFault (List String) :=
  match pathFault? path with
  | some f => .error f
  | none => .ok (partsOf (join current path))

/-- The place that a path leads to.  One that ends with a slash leads to a folder. -/
def locate (root : Entry) (current path : String) : Except FileFault (List String) := do
  walk root [] (← partsFrom current path)

/-- The place of a file to be written under a path, which has to end with the name of the file. -/
def locateNew (root : Entry) (current path : String) : Except FileFault (List String) := do
  let parts := (← partsFrom current path).reverse
  match parts.dropWhile (· = "") with
  | [] => .error .folder
  | last :: before =>
    let folder ← walk root [] before.reverse
    checkFolder root folder
    if parts.head? = some "" ∨ last = "." ∨ last = ".." then .error .folder
    else enter folder last

/-- A tree in which the parts of a path are folders. -/
def makeAll (root : Entry) (here : List String) : List String → Except FileFault Entry
  | [] => .ok root
  | part :: rest => do
    let next ← enter here part
    match entryAt? next root with
    | none => makeAll (putAt (.folder []) next root) next rest
    | some (.folder _) => makeAll root next rest
    | some (.file _) => .error (if rest.isEmpty then .taken else .noFolder)

/-! ## The host -/

/-- The state of a host in memory. -/
structure Memory where
  root : Entry
  currentFolder : String
  environment : List (String × String)
  /-- What has been printed. -/
  output : String
  /-- What has been printed about errors. -/
  errors : String

namespace Memory

/-- A host without files, at a folder. -/
def start (currentFolder : String) (environment : List (String × String)) : Memory :=
  ⟨putAt (.folder []) ((partsOf currentFolder).filter (!·.isEmpty)) (.folder []), currentFolder,
    environment, "", ""⟩

/-- The bytes of the file that a path leads to. -/
def read (s : Memory) (path : String) : Except FileFault ByteArray := do
  match entryAt? (← locate s.root s.currentFolder path) s.root with
  | some (.file contents) => .ok contents
  | some (.folder _) => .error .folder
  | none => .error .absent

/-- The state with a text in the file that a path leads to. -/
def write (s : Memory) (path text : String) : Except FileFault Memory := do
  let place ← locateNew s.root s.currentFolder path
  match entryAt? place s.root with
  | some (.folder _) => .error .folder
  | _ => .ok { s with root := putAt (.file text.toUTF8) place s.root }

/-- The state with the folders that a path leads through; an empty path leads through none.  One that
ends with a dot leads into a folder that has to be there. -/
def makeFolders (s : Memory) (path : String) : Except FileFault Memory := do
  if path.isEmpty then return s
  let parts := (← partsFrom s.currentFolder path).filter (· != "")
  let kept := (parts.reverse.dropWhile isIdle).reverse
  if parts.getLast? = some "." then
    let root ← makeAll s.root [] kept.dropLast
    checkFolder root (← walk root [] kept)
    return { s with root := root }
  else
    let root ← makeAll s.root [] parts
    return { s with root := root }

/-- The state with a file, and with the folders it is in, if there can be one under the path. -/
def withFile (s : Memory) (path text : String) : Memory :=
  match (s.makeFolders (folderOf path)).bind (·.write path text) with
  | .ok s' => s'
  | .error _ => s

/-- Changes the state unless there is a fault. -/
def change (step : Memory → Except FileFault Memory) : StateM Memory (Except FileFault Unit) :=
  fun s =>
    match step s with
    | .ok s' => (.ok (), s')
    | .error f => (.error f, s)

/-- The host whose state is kept in memory. -/
def host : Host (StateM Memory) where
  environment := return (← get).environment
  currentFolder := return (← get).currentFolder
  isFile path := return ((← get).read path).toOption.isSome
  read path := return (← get).read path
  write path text := change (·.write path text)
  makeFolders path := change (·.makeFolders path)
  print text := modify fun s => { s with output := s.output ++ text }
  printError text := modify fun s => { s with errors := s.errors ++ text }

end Memory

end ApiOutline.CommandLine
