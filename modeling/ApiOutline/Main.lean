import ApiOutline.CommandLine.Run

/-!
# The program

The command line on the machine it is started on.  Only this module touches files, the environment and
the standard streams; what is done with them is decided by `CommandLine.execute`.
-/

namespace ApiOutline.CommandLine

/-- Whether the number of an error is `n`; it may be given as the negative of that number. -/
def isNumber (n number : UInt32) : Bool :=
  number = n || number = 0 - n

/-- The fault that an error of the machine comes to. -/
def FileFault.ofError : IO.Error → FileFault
  | .noFileOrDirectory .. | .noSuchThing .. => .absent
  | .alreadyExists .. => .taken
  | .permissionDenied .. => .denied
  | .inappropriateType _ number _ => if isNumber 21 number then .folder else .noFolder
  | e@(.invalidArgument _ number _) => if isNumber 36 number then .tooLong else .other (toString e)
  | e => .other (toString e)

/-- An action on a path with its error as a fault. -/
def faulty {α : Type} (path : String) (action : String → IO α) : IO (Except FileFault α) := do
  if path.toList.contains '\x00' then return .error .badPath
  match ← (action path).toBaseIO with
  | .ok a => return .ok a
  | .error e => return .error (.ofError e)

/-- The stretches of bytes that zeros end. -/
def zeroEnded (bytes : List UInt8) : List ByteArray :=
  let (last, done) := bytes.foldl
    (fun (now, done) b => if b = 0 then (ByteArray.empty, now :: done) else (now.push b, done))
    (ByteArray.empty, ([] : List ByteArray))
  (if last.isEmpty then done else last :: done).reverse

/-- A variable: its name, and the text after the first equals sign. -/
def variableOf? (text : String) : Option (String × String) :=
  match splitEquals text.toList with
  | (name, some value) => some (name, value)
  | _ => none

/-- The variables of the environment. -/
def environment : IO (List (String × String)) := do
  match ← (IO.FS.readBinFile "/proc/self/environ").toBaseIO with
  | .ok bytes => return (zeroEnded bytes.toList).filterMap fun b => variableOf? (Text.textOfBytes b)
  | .error _ => return []

/-- Whether a path leads to a file that can be read. -/
def leadsToFile (path : String) : IO Bool := do
  return (← (IO.FS.readBinFile path).toBaseIO).toOption.isSome

/-- The machine as a host. -/
def machine : Host IO where
  environment := environment
  currentFolder := return (← IO.currentDir).toString
  isFile := leadsToFile
  read path := faulty path fun p => IO.FS.readBinFile p
  write path text := faulty path fun p => IO.FS.writeFile p text
  makeFolders path := faulty path fun p => IO.FS.createDirAll p
  print text := do
    let out ← IO.getStdout
    out.putStr text
    out.flush
  printError text := do
    let err ← IO.getStderr
    err.putStr text
    err.flush

end ApiOutline.CommandLine

/-- Runs the program with its arguments. -/
def main (arguments : List String) : IO UInt32 :=
  ApiOutline.CommandLine.execute ApiOutline.CommandLine.machine arguments
