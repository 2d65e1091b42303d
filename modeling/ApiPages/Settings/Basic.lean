import ApiPages.Fault
import ApiPages.Files.Path
import ApiPages.Format
import ApiPages.Pattern.Reader
import ApiPages.Settings.Defaults

namespace ApiPages

-- What a bare placeholder such as `M` means on each page.
structure Substitution where
  name : String
  default : String
  pages : List (String × String) := []

def Substitution.resolve (substitution : Substitution) (page : String) : String :=
  (substitution.pages.lookup page).getD substitution.default

-- Another name for the parents whose fully qualified symbol ends with a suffix.
structure ParentAlias where
  suffix : String
  name : String

structure TypeTables where
  external : List (String × String) := []
  simple : List String := []
  hideConstructor : List String := []
  templateless : List String := []
  inline : List String := []
  substitution : Option Substitution := none
  parentAliases : List ParentAlias := []
  excludedVariables : List String := []

-- The name under which a parent is shown. A symbol that says something has to be text when there
-- are aliases to compare it with.
def TypeTables.relabelParent (tables : TypeTables) (name : String) (symbol : Json) :
    Except Fault String :=
  if symbol.isVoid || tables.parentAliases.isEmpty then .ok name
  else match symbol with
    | .text symbol =>
      let found := tables.parentAliases.find? fun entry =>
        Text.endsWith entry.suffix.toList symbol.toList
      .ok ((found.map (·.name)).getD name)
    | _ => .error .symbolNotText

-- A pattern as it was written, with what it means and the number of its groups.
structure WrittenPattern where
  text : String
  pattern : Pattern
  groups : Nat

-- How the path of a source becomes the address where it can be edited.
structure EditUrls where
  pattern : Option WrittenPattern := none
  template : Option String := none

-- The text of an option that is neither missing nor empty.
def given (s : Option String) : Option String := s.filter (!·.isEmpty)

-- The address for a file: the pattern is looked for in its path, and the groups fill the template.
def EditUrls.build (urls : EditUrls) (file : Option String) : Except Fault (Option String) :=
  match given file, urls.pattern.filter (!·.text.isEmpty), given urls.template with
  | some file, some written, some template =>
    let path := file.toList.map fun c => if c = '\\' then '/' else c
    match written.pattern.search (Place.ofText path) with
    | none => .ok none
    | some (_, t) =>
      let groups := (List.range written.groups).map fun i =>
        (t.group? (i + 1)).map String.ofList
      return some (← Format.fill template groups)
  | _, _, _ => .ok none

structure Settings where
  root : Path
  tables : TypeTables := {}
  editUrls : EditUrls := {}
  highlightMark : String
  extensions : List String := []
  outputDir : Path
  templatesDir : Option Path := none

namespace Settings

def fileName : String := ".apiref.yml"

-- The text of a single value; a list, a mapping or a date has none.
def textOf? : Yaml → Option String
  | .scalar s => some s.plain
  | _ => none

-- The texts of a list, or the one text that stands for a list.
def textsOf : Yaml → List String
  | .text s => [s]
  | .list items => items.filterMap textOf?
  | _ => []

-- Give a name a text: in place when the name is there, else at the end.
def setText (name value : String) : List (String × String) → List (String × String)
  | [] => [(name, value)]
  | (key, old) :: rest =>
    if key = name then (key, value) :: rest else (key, old) :: setText name value rest

-- The members of a mapping by the text of their keys, as far as their values have a text.
def textMembers (textOf : Yaml → Option String) (value : Yaml) : List (String × String) :=
  value.members.foldl (fun found (key, value) =>
    match textOf value with
    | some text => setText key.plain text found
    | none => found) []

-- Only text counts as an address.
def addressOf? : Yaml → Option String
  | .text s => some s
  | _ => none

def readSubstitution (value : Yaml) : Except SettingsError (Option Substitution) :=
  if value.members.isEmpty then .ok none
  else match given (textOf? (value.get "name")), given (textOf? (value.get "default")) with
    | some name, some default =>
      .ok (some { name, default, pages := textMembers (some ∘ Yaml.plain) (value.get "pages") })
    | _, _ => .error .substitutionIncomplete

def readAlias (value : Yaml) : Except SettingsError ParentAlias :=
  match given (textOf? (value.get "suffix")), given (textOf? (value.get "name")) with
  | some suffix, some name => .ok { suffix, name }
  | _, _ => .error .aliasIncomplete

def readTables (value : Yaml) : Except SettingsError TypeTables := do
  let types := value.get "types"
  let substitution ← readSubstitution (value.get "substitution")
  let parentAliases ← (value.get "extends_aliases").items.mapM readAlias
  return { external := textMembers addressOf? (types.get "external"),
           simple := textsOf (types.get "simple"),
           hideConstructor := textsOf (types.get "hide_constructor"),
           templateless := textsOf (types.get "templateless"),
           inline := textsOf (types.get "inline"),
           substitution, parentAliases,
           excludedVariables := textsOf (value.get "excluded_variables") }

variable [CharacterNames]

def readPattern (text : String) : Except SettingsError WrittenPattern :=
  match Pattern.read? text with
  | some (pattern, groups) => .ok { text, pattern, groups }
  | none => .error (.invalidPattern text)

def readEditUrls (value : Yaml) : Except SettingsError EditUrls := do
  let pattern ← (textOf? (value.get "pattern")).mapM readPattern
  return { pattern, template := textOf? (value.get "template") }

def defaultMark : String := "code-block_"

def defaultOutput : String := "dist"

-- The settings that a value of a settings file makes, for a project in a directory.
def ofYaml (root : Path) (value : Yaml) : Except SettingsError Settings :=
  match value with
  | .mapping _ => do
    let tables ← readTables value
    let editUrls ← readEditUrls (value.get "edit_url")
    let markdown := value.get "markdown"
    let output := given (textOf? (value.get "output_dir"))
    let templates := given (textOf? (value.get "templates_dir"))
    return { root, tables, editUrls,
             highlightMark := (given (textOf? (markdown.get "highlight_prefix"))).getD defaultMark,
             extensions := textsOf (markdown.get "extensions"),
             outputDir := root.child (output.getD defaultOutput),
             templatesDir := templates.map root.child }
  | _ => .error (.notMapping fileName)

end Settings

end ApiPages
