import ApiPages.Fault
import ApiPages.Files.Path

namespace ApiPages

inductive EntryKind where
  | file
  | directory
  deriving DecidableEq, Repr

-- What a program may do with files, so that the same program runs on a store of texts and on a real
-- disk.
class FileAccess (m : Type → Type) where
  -- What stands at a path, if anything.
  kind? : Path → m (Except FileError (Option EntryKind))
  -- The text of a file, with line feeds as its only line ends.
  readText : Path → m (Except FileError String)
  makeDirectory : Path → m (Except FileError Unit)
  writeText : Path → String → m (Except FileError Unit)
  -- Open a log; a missing one is made.
  openLog : Path → m (Except FileError Unit)
  -- Add a record to an open log. Where there is a clock, the record is stamped with the time.
  addRecord : Path → String → m Unit

-- A program that also keeps a state uses the files in the same way.
instance {σ : Type} {m : Type → Type} [Monad m] [FileAccess m] : FileAccess (StateT σ m) where
  kind? p := liftM (FileAccess.kind? (m := m) p)
  readText p := liftM (FileAccess.readText (m := m) p)
  makeDirectory p := liftM (FileAccess.makeDirectory (m := m) p)
  writeText p text := liftM (FileAccess.writeText (m := m) p text)
  openLog p := liftM (FileAccess.openLog (m := m) p)
  addRecord p text := liftM (FileAccess.addRecord (m := m) p text)

-- The directory that a program starts in, and the home directories.
structure Surroundings where
  current : Path
  home : Path
  -- The home directory of the user with a name.
  homeOf : String → Option Path := fun _ => none

namespace Files

variable {m : Type → Type} [Monad m] [FileAccess m]

-- Do something with files; what it runs into ends the program.
def ask {α : Type} (action : m (Except FileError α)) : ExceptT Fault m α := do
  match ← ExceptT.lift action with
  | .ok value => return value
  | .error error => throw (.file error)

-- Make a directory and those it lies in. A directory that is there already will do.
def makeDirectories : List String → Path → m (Except FileError Unit)
  | [], p => again p
  | _ :: above, p => do
    match ← FileAccess.makeDirectory p with
    | .error (.notFound _) =>
      match ← makeDirectories above p.parent with
      | .error error => return .error error
      | .ok () => again p
    | .error error => accept p error
    | .ok () => return .ok ()
where
  accept (p : Path) (error : FileError) : m (Except FileError Unit) := do
    match ← FileAccess.kind? p with
    | .error error => return .error error
    | .ok (some .directory) => return .ok ()
    | .ok _ => return .error error
  again (p : Path) : m (Except FileError Unit) := do
    match ← FileAccess.makeDirectory p with
    | .ok () => return .ok ()
    | .error (.notFound path) => return .error (.notFound path)
    | .error error => accept p error

def ensureDirectory (p : Path) : m (Except FileError Unit) := makeDirectories p.names p

-- The home directory that a tilde means, alone or with the name of a user behind it.
def homeFor? (here : Surroundings) (user : String) : Option Path :=
  if user.isEmpty then some here.home else here.homeOf user

-- The path with its home directory written out.
def expandHome (here : Surroundings) (p : Path) : Except FileError Path :=
  match p.isAbsolute, p.names with
  | false, first :: rest =>
    match first.toList with
    | '~' :: user =>
      if user.contains '\x00' then .error (.unusable p.text)
      else match homeFor? here (String.ofList user) with
        | some home => .ok { home with names := home.names ++ rest }
        | none => .error (.noHome p.text)
    | _ => .ok p
  | _, _ => .ok p

end Files

end ApiPages
