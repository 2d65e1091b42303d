import ApiPages.Builder
import ApiPages.Command.Arguments

namespace ApiPages.Command

-- Why a run ends before its answer.
inductive Stop where
  -- The run says why and ends in failure.
  | message (text : String)
  -- A fault that the run does not explain.
  | fault (fault : Fault)

inductive Ending where
  | success
  | help
  | failure
  -- The arguments are refused.
  | refused
  | fault (fault : Fault)

structure Outcome where
  ending : Ending
  -- What the run answers.
  answer : String := ""

-- The number that a run leaves to its caller; a fault has none.
def Ending.status? : Ending → Option Nat
  | success | help => some 0
  | failure => some 1
  | refused => some 2
  | fault _ => none

-- Faults in the settings are explained.
def settingsStop : Fault → Stop
  | .settings error => .message (programName ++ ": " ++ error.message ++ "\n")
  | fault => .fault fault

-- A missing input and faults in the input are explained.
def pageStop (action : Action) : Fault → Stop
  | .file (.notFound path) => .message ((FileError.notFound path).message ++ "\n")
  | .input error => .message (programName ++ " " ++ action.text ++ " failed: " ++ error.message ++
      "\nRun with --verbose for more details.\n")
  | fault => .fault fault

-- The value of an option; an empty one counts as none.
def given (value : Option String) : Option String := value.filter (!·.isEmpty)

variable {m : Type → Type} [Monad m] [FileAccess m] [CharacterNames] [Markdown.Extensions]
  [Layout.TemplateLanguage]

-- A run with messages that may stop.
abbrev Run (m : Type → Type) := ExceptT Stop (StateT Session m)

-- A part of a run; `stop` tells what a fault in it means.
def stage {α : Type} (stop : Fault → Stop) (program : Program m α) : Run m α :=
  ExceptT.mk do return (← program.run).mapError stop

-- The path that a text gives, with its home directory written out.
def pathOf (here : Surroundings) (text : String) : Program m Path :=
  match Files.expandHome here (Path.ofText text) with
  | .ok path => return path
  | .error error => throw (.file error)

def configure (here : Surroundings) (arguments : Arguments) : Program m Unit := do
  Logger.configure here arguments.verbose (← (given arguments.logFile).mapM (pathOf here))

-- The settings that are asked for, else those of the current directory.
def settingsFor (here : Surroundings) (arguments : Arguments) : Program m Settings :=
  let path := match given arguments.config with
    | some config => Path.ofText config
    | none => here.current
  Settings.load (m := StateT Session m) here (some path)

-- The settings with the directory that pages are to be written to.
def redirect (here : Surroundings) (output : Option String) (settings : Settings) :
    Program m Settings := do
  match given output with
  | none => return settings
  | some output =>
    return { settings with outputDir := Path.resolve here.current (← pathOf here output) }

-- A path as it is shown to the one in the current directory.
def shownPath (here : Surroundings) (path : Path) : String :=
  ((Path.below? here.current path).getD path).text

def makePage (settings : Settings) (input : Path) (title : String) : Program m BuiltPage := do
  Builder.buildPage settings title (← Builder.load input)

-- Do what an action does with a page; gives the answer.
def finish (here : Surroundings) (settings : Settings) (arguments : Arguments) (built : BuiltPage) :
    Program m String := do
  match arguments.action with
  | .check =>
    return arguments.title ++ ": " ++ toString built.sectionCount ++ " sections rendered\n"
  | .build =>
    discard <| Builder.write { settings } built
    return "Page written to " ++ shownPath here built.path ++ "\n"

-- The stages of a run in their order; gives its answer.
def stages (here : Surroundings) (arguments : Arguments) : Run m String := do
  stage .fault (configure here arguments)
  let settings ← stage settingsStop (settingsFor here arguments)
  let settings ← stage .fault (redirect here arguments.output settings)
  let input ← stage .fault (pathOf here arguments.input)
  let built ← stage (pageStop arguments.action) (makePage settings input arguments.title)
  stage .fault (finish here settings arguments built)

def tell (message : String) : StateT Session m Unit :=
  modify fun session => { session with console := session.console ++ message }

def run (here : Surroundings) (arguments : List String) : StateT Session m Outcome := do
  match Arguments.read arguments with
  | .error (.help action) => return { ending := .help, answer := (Refusal.help action).message }
  | .error (.mistake action message) =>
    tell (Refusal.mistake action message).message
    return { ending := .refused }
  | .ok arguments =>
    match ← (stages here arguments).run with
    | .ok answer => return { ending := .success, answer }
    | .error (.message message) =>
      tell message
      return { ending := .failure }
    | .error (.fault fault) => return { ending := .fault fault }

end ApiPages.Command
