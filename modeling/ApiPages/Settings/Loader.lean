import ApiPages.Files.Access
import ApiPages.Settings.Basic
import ApiPages.Yaml.Reader

namespace ApiPages.Settings

-- The members that the text of a settings file gives.
def membersOf (name text : String) : Except Fault Yaml.Members :=
  if Text.isBlankText text then .ok []
  else match Yaml.read text with
    | .error .malformed => .error (.settings (.unreadable name))
    | .error error => .error (.mistagged error)
    | .ok .null => .ok []
    | .ok (.mapping members) => .ok members
    | .ok _ => .error (.settings (.notMapping name))

def settingsFault (result : Except SettingsError Settings) : Except Fault Settings :=
  result.mapError .settings

variable {m : Type → Type} [Monad m] [FileAccess m]

-- The settings file that a path means: itself, or the file in the directory that it is.
def locate (here : Surroundings) (path : Path) : ExceptT Fault m Path := do
  let path ← (Files.expandHome here path).mapError Fault.file
  match ← Files.ask (FileAccess.kind? path) with
  | some .directory => return Path.resolve here.current (path.child fileName)
  | _ => return Path.resolve here.current path

-- The members that a settings file gives; a missing file gives none.
def readFile (file : Path) : ExceptT Fault m Yaml.Members := do
  match ← Files.ask (FileAccess.kind? file) with
  | none => return []
  | some _ => membersOf file.name (← Files.ask (FileAccess.readText file))

-- The defaults, changed by the settings file if a path is given and there is one.
def load [CharacterNames] (here : Surroundings) (path : Option Path) :
    ExceptT Fault m Settings := do
  match path with
  | none => settingsFault (ofYaml (Path.resolve here.current {}) (.mapping defaults))
  | some path =>
    let file ← locate here path
    let overrides ← readFile file
    settingsFault (ofYaml file.parent (.mapping (Yaml.merge defaults overrides)))

end ApiPages.Settings
