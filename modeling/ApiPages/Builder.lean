import ApiPages.Json.Reader
import ApiPages.Log
import ApiPages.Model.Reader
import ApiPages.Page.Layout
import ApiPages.Settings.Loader

namespace ApiPages

-- A page that is ready to be written.
structure BuiltPage where
  identity : String
  title : String
  path : Path
  html : String
  page : Page

def BuiltPage.sectionCount (built : BuiltPage) : Nat := Node.sectionCounts built.page.tree

structure Builder where
  settings : Settings
  -- What has been written, in the order of the first writing of each path.
  assets : List (Path × String) := []

namespace Builder

def part : Option String := some "builder"

def pagePart : Option String := some "page"

def pageFile : String := "index.html"

variable {m : Type → Type} [Monad m] [FileAccess m] [Markdown.Extensions]
  [Layout.TemplateLanguage]

def say (part : Option String) (level : Level) (message : String) : Program m Unit :=
  ExceptT.lift (Logger.log part level message)

-- The declarations in a file.
def load (path : Path) : Program m (List Declaration) := do
  let text ← Files.ask (m := StateT Session m) (FileAccess.readText path)
  match Json.read text with
  | .error reason => throw (.input (.unreadable path.name reason))
  | .ok json =>
    let ds ← readProject json
    say part .debug ("Loaded " ++ toString ds.length ++ " declarations from " ++ path.text)
    return ds

-- Where the project keeps the template with a name; a name that goes up is no name of a template.
def templatePath? (settings : Settings) (name : String) : Option Path := do
  let directory ← settings.templatesDir
  let names := (Path.ofText name).names
  if names.contains ".." then none else some { directory with names := directory.names ++ names }

-- The text of the template with a name, if there is one.
def templateNamed (settings : Settings) (name : String) : Program m (Option String) := do
  match templatePath? settings name with
  | none => return none
  | some path =>
    match ← ExceptT.lift (FileAccess.kind? (m := StateT Session m) path) with
    | .ok (some .file) => some <$> Files.ask (m := StateT Session m) (FileAccess.readText path)
    | _ => return none

-- The text that a template is filled to, with those that it asks for on the way.
def fill (settings : Settings) : Layout.Filling → Program m String
  | .done text => return text
  | .failed error => throw (.template error)
  | .asks name next => do
    let source ← templateNamed settings name
    fill settings (next source)

-- Where the page with an identity is written.
def pathFor (settings : Settings) (identity : String) : Path :=
  (settings.outputDir.child identity).child pageFile

-- Say what there is to say about a page, if anyone listens.
def sayNotices (ctx : Context) (ds : List Declaration) : Program m Unit := do
  if (← get).logger.level = .debug then (ctx.notices ds).forM (say pagePart .debug)

-- What is laid out for a page.
def contentOf (title : String) (page : Page) : Layout.Content :=
  { title := title ++ " / " ++ Layout.siteTitle, path := "/" ++ Anchor.ofPage title ++ "/",
    menu := page.menu, tree := page.tree }

def buildPage (settings : Settings) (title : String) (ds : List Declaration) :
    Program m BuiltPage := do
  let identity := Anchor.ofPage title
  say part .info ("Building " ++ title ++ " HTML")
  let ctx ← Context.create identity settings ds
  sayNotices ctx ds
  let page ← ctx.renderPage ds
  let html ← fill settings (Layout.render (contentOf title page))
  return { identity, title, path := pathFor settings identity, html, page }

def setAsset (path : Path) (html : String) : List (Path × String) → List (Path × String)
  | [] => [(path, html)]
  | (other, old) :: rest =>
    if other = path then (other, html) :: rest else (other, old) :: setAsset path html rest

def write (builder : Builder) (built : BuiltPage) : Program m Builder := do
  Files.ask (Files.ensureDirectory (m := StateT Session m) built.path.parent)
  Files.ask (m := StateT Session m) (FileAccess.writeText built.path built.html)
  let count := toString built.sectionCount
  say part .debug ("Wrote " ++ built.path.text ++ " (" ++ count ++ " sections)")
  return { builder with assets := setAsset built.path built.html builder.assets }

-- Load, make and write a page.
def build (builder : Builder) (path : Path) (title : String) : Program m (Builder × Path) := do
  let ds ← load path
  let built ← buildPage builder.settings title ds
  return (← builder.write built, built.path)

end Builder

end ApiPages
