import ApiPages.Files.Access

namespace ApiPages

-- How much a message matters; levels that are in common use have a name.
structure Level where
  rank : Int
  deriving DecidableEq, Repr

namespace Level

def debug : Level := ⟨10⟩

def info : Level := ⟨20⟩

def warning : Level := ⟨30⟩

def error : Level := ⟨40⟩

def critical : Level := ⟨50⟩

def names : List (Level × String) :=
  [(⟨0⟩, "NOTSET"), (debug, "DEBUG"), (info, "INFO"), (warning, "WARNING"), (error, "ERROR"),
   (critical, "CRITICAL")]

def text (level : Level) : String :=
  (names.lookup level).getD ("Level " ++ toString level.rank)

def ofText? (s : String) : Option Level := (names.find? (·.2 = s)).map (·.1)

end Level

inductive Target where
  | console
  | file (path : Path)
  deriving DecidableEq, Repr

-- Where messages go, from a level on.
structure Handler where
  level : Level
  target : Target
  deriving DecidableEq, Repr

-- Messages go to the console and, if one is asked for, to a log file; the latest configuration
-- alone decides where.
structure Logger where
  level : Level := .warning
  -- Whether messages are handed on to whoever else listens.
  passesOn : Bool := true
  handlers : List Handler := []
  deriving DecidableEq, Repr

-- The state of a run: its logger, what has been written on the console for messages, and the names of
-- the loggers of its parts so far.
structure Session where
  logger : Logger := {}
  console : String := ""
  names : List String := []

-- A program with files, messages and faults; messages outlast a fault.
abbrev Program (m : Type → Type) := ExceptT Fault (StateT Session m)

namespace Logger

def rootName : String := "apiref"

-- The full name of the logger of a part.
def nameOf (part : Option String) : String :=
  match part with
  | some part => if part.isEmpty then rootName else rootName ++ "." ++ part
  | none => rootName

-- Whether a logger hands its messages on to the root. Its name is read from the end on: what stands in
-- front of a dot is the name of the logger above, if there is one of that name. If there is none, the
-- search goes on behind the next character, even if that is a dot.
def climbs (names : List String) (passes : Bool) : List Char → Bool
  | [] => false
  | c :: rest =>
    if passes || c != '.' then climbs names false rest
    else
      let above := String.ofList rest.reverse
      above == rootName || climbs names (!names.contains above) rest

-- Whether a logger is the root or below it.
def isBelow (names : List String) (name : String) : Bool :=
  name == rootName || climbs names false name.toList.reverse

def levelFor (verbose : Bool) : Level := if verbose then .debug else .info

def consoleLine (name : String) (level : Level) (message : String) : String :=
  "[" ++ name ++ "] " ++ level.text ++ " " ++ message ++ "\n"

def fileLine (name : String) (level : Level) (message : String) : String :=
  level.text ++ " " ++ name ++ ": " ++ message ++ "\n"

variable {m : Type → Type} [Monad m] [FileAccess m]

-- Take the handlers off, one by one.
def reset (logger : Logger) : Logger :=
  { logger with handlers := logger.handlers.foldl List.erase logger.handlers }

def addHandler (handler : Handler) : Program m Unit :=
  modify fun s => { s with logger := { s.logger with handlers := s.logger.handlers ++ [handler] } }

-- Send messages to the console and to a log file, and nowhere else from now on.
def configure (here : Surroundings) (verbose : Bool) (file : Option Path) : Program m Unit := do
  let level := levelFor verbose
  modify fun s => { s with logger := { s.logger.reset with level, passesOn := false } }
  addHandler { level, target := .console }
  match file with
  | none => return
  | some path =>
    let path := Path.resolve here.current path
    Files.ask (m := StateT Session m) (FileAccess.openLog path)
    addHandler { level, target := .file path }

def handle (name : String) (level : Level) (message : String) (handler : Handler) :
    StateT Session m Unit :=
  if handler.level.rank ≤ level.rank then
    match handler.target with
    | .console => modify fun s => { s with console := s.console ++ consoleLine name level message }
    | .file path => FileAccess.addRecord path (fileLine name level message)
  else return

-- Send a message to the handlers of a logger. Without any handler a warning is written as it is.
def send (logger : Logger) (name : String) (level : Level) (message : String) :
    StateT Session m Unit := do
  if level.rank < logger.level.rank then return
  if logger.handlers.isEmpty then
    modify fun s => { s with console := s.console ++ message ++ "\n" }
  else logger.handlers.forM (handle name level message)

-- What holds for a logger of a part: what holds for the root if it is below it, else nothing.
def inForce (session : Session) (name : String) : Logger :=
  if isBelow session.names name then session.logger else {}

-- Log a message of a part.
def log (part : Option String) (level : Level) (message : String) : StateT Session m Unit := do
  let name := nameOf part
  modify fun s => { s with names := s.names.insert name }
  (inForce (← get) name).send name level message

end Logger

end ApiPages
