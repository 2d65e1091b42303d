import ApiPages.Files.Access
import Std.Time

namespace ApiPages.Disk

-- What went wrong at a path, if it is one of the things that programs deal with.
def fileError? (path : Path) : IO.Error → Option FileError
  | .noFileOrDirectory .. => some (.notFound path.text)
  | .alreadyExists .. => some (.alreadyThere path.text)
  | .inappropriateType _ _ "Is a directory" => some (.isDirectory path.text)
  | .inappropriateType .. => some (.notDirectory path.text)
  | .permissionDenied .. => some (.notPermitted path.text)
  | .invalidArgument _ _ "name too long" => some (.nameTooLong path.text)
  | .invalidArgument _ _ "string contains NUL bytes" => some (.unusable path.text)
  | _ => none

-- Do something at a path; what nobody deals with stays an exception.
def attempt {α : Type} (path : Path) (action : IO α) : IO (Except FileError α) := do
  try
    return .ok (← action)
  catch error =>
    match fileError? path error with
    | some error => return .error error
    | none => throw error

def opens (path : Path) (text : String) : IO (Except FileError Unit) :=
  attempt path (discard <| IO.FS.Handle.mk text .read)

-- Only a directory has a dot in it.
def kind? (path : Path) : IO (Except FileError (Option EntryKind)) := do
  match ← opens path (path.text ++ "/.") with
  | .ok () => return .ok (some .directory)
  | .error (.nameTooLong text) => return .error (.nameTooLong text)
  | .error _ =>
    match ← opens path path.text with
    | .ok () | .error (.notPermitted _) => return .ok (some .file)
    | .error _ => return .ok none

def readText (path : Path) : IO (Except FileError String) := do
  match ← attempt path (IO.FS.readBinFile path.text) with
  | .error error => return .error error
  | .ok data =>
    match String.fromUTF8? data with
    | some text => return .ok (String.ofList (Text.unifyLineEnds text.toList))
    | none => return .error (.undecodable path.text)

def append (path : Path) (text : String) : IO Unit := do
  (← IO.FS.Handle.mk path.text .append).putStr text

-- The time of a record, to the thousandth of a second.
def timeStamp : IO String := do
  return (← Std.Time.PlainDateTime.now).format "uuuu-MM-dd HH:mm:ss,SSS"

instance : FileAccess IO where
  kind? := kind?
  readText := readText
  makeDirectory path := attempt path (IO.FS.createDir path.text)
  writeText path text := attempt path (IO.FS.writeFile path.text text)
  openLog path := attempt path (append path "")
  addRecord path text := do append path ((← timeStamp) ++ " " ++ text)

end ApiPages.Disk
