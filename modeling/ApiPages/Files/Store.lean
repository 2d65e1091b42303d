import ApiPages.Files.Access

namespace ApiPages

-- What a file holds: a text, or bytes that are none.
inductive FileContent where
  | text (s : String)
  | bytes (data : List UInt8)
  deriving DecidableEq

namespace FileContent

instance : Coe String FileContent := ⟨text⟩

-- Text at the end does not make bytes a text.
def append : FileContent → String → FileContent
  | text s, more => text (s ++ more)
  | bytes data, more => bytes (data ++ more.toUTF8.data.toList)

end FileContent

inductive Entry where
  | file (content : FileContent)
  -- A file that may neither be read nor written.
  | locked (content : FileContent)
  | directory
  deriving DecidableEq

-- Directories and files by their names from the root on, like a disk without links.
structure Store where
  -- The names of the current directory.
  current : List String := []
  entries : List (List String × Entry) := []

namespace Store

-- What stands at a place; the root is always there.
def entry? (store : Store) (place : List String) : Option Entry :=
  if place.isEmpty then some .directory else store.entries.lookup place

def put (store : Store) (place : List String) (entry : Entry) : Store :=
  { store with entries := setEntry store.entries }
where
  setEntry : List (List String × Entry) → List (List String × Entry)
    | [] => [(place, entry)]
    | (other, old) :: rest =>
      if other = place then (other, entry) :: rest else (other, old) :: setEntry rest

-- The longest name in bytes.
def nameLimit : Nat := 255

-- Go down by one name from a place that has to be a directory.
def descend (store : Store) (path : Path) (place : List String) (name : String) :
    Except FileError (List String) :=
  match store.entry? place with
  | none => .error (.notFound path.text)
  | some (.file _) | some (.locked _) => .error (.notDirectory path.text)
  | some .directory =>
    if name = ".." then .ok place.dropLast
    else if name.utf8ByteSize > nameLimit then .error (.nameTooLong path.text)
    else .ok (place ++ [name])

-- The place of a path. What lies there need not be there, but the directory it lies in is.
def locate (store : Store) (path : Path) : Except FileError (List String) :=
  if path.names.any fun name => name.toList.contains '\x00' then .error (.unusable path.text)
  else path.names.foldlM (store.descend path) (if path.isAbsolute then [] else store.current)

def kind? (store : Store) (path : Path) : Except FileError (Option EntryKind) :=
  match store.locate path with
  | .error (.nameTooLong path) => .error (.nameTooLong path)
  | .error _ => .ok none
  | .ok place => .ok ((store.entry? place).map fun entry =>
      match entry with
      | .file _ | .locked _ => .file
      | .directory => .directory)

def readText (store : Store) (path : Path) : Except FileError String := do
  match store.entry? (← store.locate path) with
  | none => .error (.notFound path.text)
  | some .directory => .error (.isDirectory path.text)
  | some (.locked _) => .error (.notPermitted path.text)
  | some (.file (.bytes _)) => .error (.undecodable path.text)
  | some (.file (.text text)) => .ok (String.ofList (Text.unifyLineEnds text.toList))

def makeDirectory (store : Store) (path : Path) : Except FileError Store := do
  let place ← store.locate path
  match store.entry? place with
  | some _ => .error (.alreadyThere path.text)
  | none => .ok (store.put place .directory)

-- Change what a file holds; a missing file has the empty text.
def changeFile (store : Store) (path : Path) (change : FileContent → FileContent) :
    Except FileError Store := do
  let place ← store.locate path
  match store.entry? place with
  | some .directory => .error (.isDirectory path.text)
  | some (.locked _) => .error (.notPermitted path.text)
  | some (.file content) => .ok (store.put place (.file (change content)))
  | none => .ok (store.put place (.file (change "")))

-- Take over a changed store, if the change succeeds.
def update (change : Store → Except FileError Store) : StateM Store (Except FileError Unit) := do
  match change (← get) with
  | .ok store => set store; return .ok ()
  | .error error => return .error error

instance : FileAccess (StateM Store) where
  kind? path := return (← get).kind? path
  readText path := return (← get).readText path
  makeDirectory path := update fun store => store.makeDirectory path
  writeText path text := update fun store => store.changeFile path fun _ => text
  openLog path := update fun store => store.changeFile path id
  addRecord path text := discard <| update fun store => store.changeFile path (·.append text)

-- A store of given texts and empty directories, with all directories that they lie in.
def ofTexts (current : List String) (files : List (List String × Entry)) : Store :=
  let start : Store := { current }
  let all := files ++ [(current, .directory)]
  all.foldl (fun store (place, entry) =>
    let store := (List.range place.length).foldl (fun (store : Store) n =>
      if (store.entry? (place.take n)).isNone then store.put (place.take n) .directory else store) store
    match entry with
    | .file _ | .locked _ => store.put place entry
    | .directory => if (store.entry? place).isNone then store.put place entry else store) start

end Store

end ApiPages
