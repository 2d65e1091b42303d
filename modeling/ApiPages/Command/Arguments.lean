import ApiPages.Text.Quoted
import ApiPages.Text.Scan

namespace ApiPages.Command

inductive Action where
  | build
  | check
  deriving DecidableEq, Repr

def Action.text : Action → String
  | build => "build"
  | check => "check"

def Action.all : List Action := [build, check]

def Action.ofText? (s : String) : Option Action := all.find? (·.text = s)

structure Arguments where
  action : Action
  input : String
  title : String
  config : Option String := none
  logFile : Option String := none
  output : Option String := none
  verbose : Bool := false
  deriving DecidableEq, Repr

-- Why arguments do not lead to a run, told by an action or by the program as a whole.
inductive Refusal where
  -- Help is asked for.
  | help (action : Option Action)
  | mistake (action : Option Action) (message : String)
  deriving DecidableEq, Repr

inductive OptionKind where
  | help
  | verbose
  | title
  | config
  | logFile
  | output
  deriving DecidableEq, Repr

namespace OptionKind

def names : OptionKind → List String
  | help => ["-h", "--help"]
  | verbose => ["-v", "--verbose"]
  | title => ["--title"]
  | config => ["--config"]
  | logFile => ["--log-file"]
  | output => ["--output"]

def takesValue : OptionKind → Bool
  | help | verbose => false
  | _ => true

def label (kind : OptionKind) : String := "argument " ++ "/".intercalate kind.names ++ ": "

end OptionKind

def mainOptions : List OptionKind := [.help, .verbose]

def actionOptions : Action → List OptionKind
  | .build => [.help, .verbose, .title, .config, .logFile, .output]
  | .check => [.help, .verbose, .title, .config, .logFile]

-- A text in the word of an option, with whether an equals sign stands in front of it.
structure Attached where
  signed : Bool
  text : String
  deriving DecidableEq, Repr

-- What an argument looks like.
inductive WordSort where
  | plain
  | dashes
  -- An option, with the name that was meant and a text attached to it; unknown ones are kept.
  | option (kind : Option OptionKind) (name : String) (attached : Option Attached)
  deriving DecidableEq, Repr

structure Word where
  text : String
  sort : WordSort
  deriving DecidableEq, Repr

-- The text in front of the first equals sign, and the text behind it.
def cutValue (s : String) : String × Option Attached :=
  match Text.cutAt ['='] s.toList with
  | some (name, value) => (String.ofList name, some ⟨true, String.ofList value⟩)
  | none => (s, none)

def findName (kinds : List OptionKind) (name : String) : Option OptionKind :=
  kinds.find? (·.names.contains name)

-- The options that a shortened name can mean.
def candidates (kinds : List OptionKind) (s : String) :
    List (OptionKind × String × Option Attached) :=
  let named := kinds.flatMap fun kind => kind.names.map (kind, ·)
  if s.startsWith "--" then
    let (start, value) := cutValue s
    let meant := named.filter fun (_, name) => name.startsWith start
    meant.map fun (kind, name) => (kind, name, value)
  else
    let short := String.ofList (s.toList.take 2)
    named.filterMap fun (kind, name) =>
      if name = short then some (kind, name, some ⟨false, String.ofList (s.toList.drop 2)⟩)
      else if name.startsWith s then some (kind, name, none)
      else none

-- Whether a text is a negative number, which is no option. A line feed may end it.
def isNegative (s : String) : Bool :=
  match s.toList with
  | '-' :: rest =>
    let rest := if rest.getLast? = some '\n' then rest.dropLast else rest
    let whole := rest.takeWhile Text.isDigit
    match rest.drop whole.length with
    | [] => !whole.isEmpty
    | '.' :: fraction => !fraction.isEmpty && fraction.all Text.isDigit
    | _ => false
  | _ => false

def sortOf (action : Option Action) (kinds : List OptionKind) (s : String) : Except Refusal WordSort :=
  if !s.startsWith "-" then .ok .plain
  else match findName kinds s with
    | some kind => .ok (.option (some kind) s none)
    | none =>
      if s = "-" then .ok .plain
      else
        let (name, value) := cutValue s
        match value, findName kinds name with
        | some value, some kind => .ok (.option (some kind) name (some value))
        | _, _ =>
          match candidates kinds s with
          | [] =>
            if isNegative s || s.toList.contains ' ' then .ok .plain
            else .ok (.option none s none)
          | [(kind, name, value)] => .ok (.option (some kind) name value)
          | several => .error (.mistake action ("ambiguous option: " ++ s ++ " could match " ++
              ", ".intercalate (several.map fun (_, name, _) => name)))

-- The arguments with their sorts; behind two dashes all are plain.
def wordsOf (action : Option Action) (kinds : List OptionKind) :
    List String → Except Refusal (List Word)
  | [] => .ok []
  | s :: rest => do
    if s = "--" then
      return { text := s, sort := .dashes } :: rest.map fun text => { text, sort := .plain }
    return { text := s, sort := ← sortOf action kinds s } :: (← wordsOf action kinds rest)

-- The values that options were given.
structure Given where
  verbose : Bool := false
  title : Option String := none
  config : Option String := none
  logFile : Option String := none
  output : Option String := none

def Given.set (given : Given) (kind : OptionKind) (value : String) : Given :=
  match kind with
  | .help => given
  | .verbose => { given with verbose := true }
  | .title => { given with title := some value }
  | .config => { given with config := some value }
  | .logFile => { given with logFile := some value }
  | .output => { given with output := some value }

def applyFlag (action : Option Action) (given : Given) (kind : OptionKind) :
    Except Refusal Given :=
  if kind = .help then .error (.help action) else .ok (given.set kind "")

def ignored (action : Option Action) (kind : OptionKind) (text : List Char) : Refusal :=
  .mistake action
    (kind.label ++ "ignored explicit argument " ++ Text.quoted (String.ofList text))

-- Flags that are written together behind one dash, of which the first one is `kind`, and what stands
-- behind them if it is no flag. All are read before any of them counts.
def readFlags (action : Option Action) (kinds : List OptionKind) (kind : OptionKind) :
    List Char → Except Refusal (List OptionKind × List String)
  | [] => .ok ([kind], [])
  | '=' :: text => throw (ignored action kind text)
  | '-' :: text => throw (ignored action kind ('-' :: text))
  | c :: rest => do
    match findName kinds (String.ofList ['-', c]) with
    | some next =>
      let (flags, unknown) ← readFlags action kinds next rest
      return (kind :: flags, unknown)
    | none => return ([kind], [String.ofList ('-' :: c :: rest)])

-- The flags of a word with something attached to a flag.
def attachedFlags (action : Option Action) (kinds : List OptionKind) (kind : OptionKind)
    (name : String) (attached : Attached) : Except Refusal (List OptionKind × List String) :=
  if attached.signed || name.startsWith "--" then
    .error (ignored action kind attached.text.toList)
  else readFlags action kinds kind attached.text.toList

def noValue (action : Option Action) (kind : OptionKind) : Refusal :=
  .mistake action (kind.label ++ "expected one argument")

-- Read an option at the head of the words; gives the words behind it and what is unknown.
def readOption (action : Option Action) (kinds : List OptionKind) (given : Given) (word : String)
    (kind : Option OptionKind) (name : String) (attached : Option Attached) (rest : List Word) :
    Except Refusal (Given × List Word × List String) := do
  match kind with
  | none => return (given, rest, [word])
  | some kind =>
    if kind.takesValue then
      match attached with
      | some attached => return (given.set kind attached.text, rest, [])
      | none =>
        match rest with
        | { text, sort := .plain } :: rest => return (given.set kind text, rest, [])
        | _ => throw (noValue action kind)
    else
      match attached with
      | some attached =>
        let (flags, unknown) ← attachedFlags action kinds kind name attached
        return (← flags.foldlM (applyFlag action) given, rest, unknown)
      | none => return (← applyFlag action given kind, rest, [])

-- What the words behind an action say.
structure ActionWords where
  input : Option String := none
  given : Given := {}
  -- Words that are not understood.
  unknown : List String := []

def readActionWords (action : Option Action) (kinds : List OptionKind) :
    Nat → ActionWords → List Word → Except Refusal ActionWords
  | 0, found, _ => .ok found
  | _, found, [] => .ok found
  | fuel + 1, found, word :: rest => do
    match word.sort, found.input, rest with
    | .option kind name attached, _, rest =>
      let (given, rest, unknown) ←
        readOption action kinds found.given word.text kind name attached rest
      let found := { found with given, unknown := found.unknown ++ unknown }
      readActionWords action kinds fuel found rest
    | .plain, none, { sort := .dashes, .. } :: rest =>
      readActionWords action kinds fuel { found with input := some word.text } rest
    | .plain, none, rest =>
      readActionWords action kinds fuel { found with input := some word.text } rest
    | .dashes, none, next :: rest =>
      readActionWords action kinds fuel { found with input := some next.text } rest
    | _, _, rest =>
      readActionWords action kinds fuel { found with unknown := found.unknown ++ [word.text] } rest

def missing (action : Option Action) (names : List String) : Refusal :=
  .mistake action ("the following arguments are required: " ++ ", ".intercalate names)

-- Read what stands behind an action; words that are not understood are given back.
def readAction (action : Action) (verbose : Bool) (arguments : List String) :
    Except Refusal (Arguments × List String) := do
  let kinds := actionOptions action
  let words ← wordsOf action kinds arguments
  let found ← readActionWords action kinds words.length {} words
  match found.input, found.given.title with
  | some input, some title =>
    return ({ action, input, title, config := found.given.config, logFile := found.given.logFile,
              output := found.given.output, verbose := verbose || found.given.verbose },
            found.unknown)
  | input, title => throw (missing action
      ((if input.isNone then ["input"] else []) ++ if title.isNone then ["--title"] else []))

def choices : String := ", ".intercalate (Action.all.map fun action => Text.quoted action.text)

-- Read the words up to the action, which takes all words behind it.
def readWords : Nat → Given → List String → List Word → Except Refusal (Arguments × List String)
  | 0, _, _, _ | _, _, _, [] => .error (missing none ["command"])
  | fuel + 1, given, unknown, word :: rest => do
    match word.sort, rest with
    | .option kind name attached, rest =>
      let (given, rest, more) ←
        readOption none mainOptions given word.text kind name attached rest
      readWords fuel given (unknown ++ more) rest
    | .dashes, [] => throw (missing none ["command"])
    | _, rest =>
      match Action.ofText? word.text with
      | some action =>
        let (arguments, more) ← readAction action given.verbose (rest.map (·.text))
        return (arguments, unknown ++ more)
      | none => throw (.mistake none ("argument command: invalid choice: " ++
          Text.quoted word.text ++ " (choose from " ++ choices ++ ")"))

def Arguments.read (arguments : List String) : Except Refusal Arguments := do
  let words ← wordsOf none mainOptions arguments
  let (found, unknown) ← readWords words.length {} [] words
  if unknown.isEmpty then return found
  throw (.mistake none ("unrecognized arguments: " ++ " ".intercalate unknown))

def programName : String := "apiref"

-- The name that a message begins with.
def nameOf : Option Action → String
  | none => programName
  | some action => programName ++ " " ++ action.text

-- How the program is called, in lines of eighty characters.
def usage : Option Action → String
  | none => "usage: apiref [-h] [-v] \x7bbuild,check\x7d ...\n"
  | some .build =>
    "usage: apiref build [-h] [-v] --title TITLE [--config CONFIG]\n" ++
    "                    [--log-file LOG_FILE] [--output OUTPUT]\n" ++
    "                    input\n"
  | some .check =>
    "usage: apiref check [-h] [-v] --title TITLE [--config CONFIG]\n" ++
    "                    [--log-file LOG_FILE]\n" ++
    "                    input\n"

-- What an action says about an option of it.
def OptionKind.line : OptionKind → String
  | help => "  -h, --help           show this help message and exit\n"
  | verbose => "  -v, --verbose        Increase log verbosity for troubleshooting.\n"
  | title =>
    "  --title TITLE        Page title, e.g. 'Node API'; also decides the page\n" ++
    "                       identity.\n"
  | config => "  --config CONFIG      Path to .apiref.yml or the directory containing it.\n"
  | logFile => "  --log-file LOG_FILE  Also write the build log to this file.\n"
  | output =>
    "  --output OUTPUT      Output directory (defaults to output_dir from the\n" ++
    "                       configuration).\n"

def helpText (action : Option Action) : String :=
  usage action ++ match action with
    | none =>
      "\nRender extracted API metadata into cross-linked HTML reference pages.\n" ++
      "\npositional arguments:\n" ++
      "  \x7bbuild,check\x7d\n" ++
      "    build        Render a page and write it to the output directory.\n" ++
      "    check        Parse and render a page without writing it.\n" ++
      "\noptions:\n" ++
      "  -h, --help     show this help message and exit\n" ++
      "  -v, --verbose  Increase log verbosity for troubleshooting.\n"
    | some action =>
      "\npositional arguments:\n" ++
      "  input                Path to the extractor JSON (a declaration list or a\n" ++
      "                       project with children).\n" ++
      "\noptions:\n" ++ String.join ((actionOptions action).map OptionKind.line)

-- What is said about arguments that are refused.
def Refusal.message : Refusal → String
  | help action => helpText action
  | mistake action message => usage action ++ nameOf action ++ ": error: " ++ message ++ "\n"

end ApiPages.Command
