import ApiPages.Page.Section

namespace ApiPages

structure MenuEntry where
  label : String
  link : String
  deriving DecidableEq, Repr

inductive MenuItem where
  | entry (entry : MenuEntry)
  | group (title : String) (entries : List MenuEntry)
  deriving DecidableEq, Repr

structure Page where
  tree : List Node
  menu : List MenuItem := []

-- The groups of a page besides its classes, in their order.
inductive Group where
  | functions
  | variables_
  | types
  deriving DecidableEq, Repr

namespace Group

def all : List Group := [functions, variables_, types]

-- The groups that the menu shows.
def inMenu : List Group := [functions, variables_]

def title : Group → String
  | functions => "Functions"
  | variables_ => "Variables"
  | types => "Types"

-- Whether a declaration is of the group's kind.
def selects (tables : TypeTables) (d : Declaration) : Group → Bool
  | functions => d.kind = some .function
  | variables_ => d.kind = some .variable_ && !tables.excludedVariables.contains d.name
  | types => d.kind = some .typeAlias || d.kind = some .interface

end Group

namespace Context

-- Inline types are shown where they are referred to and nowhere else.
def documented (ctx : Context) (ds : List Declaration) : List Declaration :=
  ds.filter fun d => !ctx.isInline d.name

def isSimple (ctx : Context) (d : Declaration) : Bool := ctx.tables.simple.contains d.name

-- The declarations of a group in order; simple names are only known as names.
def groupItems (ctx : Context) (ds : List Declaration) (group : Group) : List Declaration :=
  Declaration.sortByName (ds.filter fun d => group.selects ctx.tables d && !ctx.isSimple d)

def classes (ds : List Declaration) : List Declaration :=
  Declaration.sortByName (ds.filter fun d => d.kind = some .class_)

def groupTitle (group : Group) : Node :=
  .element { tag := "h1", children := [.text group.title], noSlug := true }

-- The article of a group, unless the group is empty.
def groupArticle (ctx : Context) (ds : List Declaration) (group : Group) : Rendered :=
  match ctx.groupItems ds group with
  | [] => .ok []
  | items => do return [Node.tag "article" (groupTitle group :: (← items.mapM ctx.symbolSection))]

def classArticles (ctx : Context) (ds : List Declaration) : Rendered :=
  (classes ds).mapM ctx.classSection

def tree (ctx : Context) (ds : List Declaration) : Rendered := do
  return (← ctx.classArticles ds) ++ (← Group.all.mapM (ctx.groupArticle ds)).flatten

def classEntry (d : Declaration) : MenuEntry :=
  { label := d.name, link := "#" ++ Text.lower d.name }

def symbolEntry (d : Declaration) : MenuEntry :=
  { label := if d.kind = some .function then d.name ++ "()" else d.name,
    link := "#" ++ Anchor.ofSymbol d.name }

def groupMenu (ctx : Context) (ds : List Declaration) (group : Group) : List MenuItem :=
  match ctx.groupItems ds group with
  | [] => []
  | items => [.group group.title (items.map symbolEntry)]

def menu (ctx : Context) (ds : List Declaration) : List MenuItem :=
  (classes ds).map (.entry ∘ classEntry) ++ Group.inMenu.flatMap (ctx.groupMenu ds)

def renderPage (ctx : Context) (ds : List Declaration) : Except Fault Page := do
  let ds := ctx.documented ds
  return { tree := ← ctx.tree ds, menu := ctx.menu ds }

def onPage (ctx : Context) (message : String) : String := message ++ " on page " ++ ctx.page

def skippedInline (ctx : Context) (ds : List Declaration) : List String :=
  (ds.filter fun d => ctx.isInline d.name).map fun d =>
    ctx.onPage ("Skipping inline type " ++ d.name)

def skippedSimple (ctx : Context) (ds : List Declaration) (group : Group) : List String :=
  (ds.filter fun d => group.selects ctx.tables d && ctx.isSimple d).map fun d =>
    ctx.onPage ("Skipping simple type " ++ d.name)

-- What is said about the groups; a group that fails is the last one that is spoken of.
def groupNotices (ctx : Context) (ds : List Declaration) : List Group → List String
  | [] => Group.inMenu.flatMap (ctx.skippedSimple ds)
  | group :: rest =>
    let items := ctx.groupItems ds group
    let count := toString items.length ++ " " ++ group.title.toLower
    let started := if items.isEmpty then [] else [ctx.onPage ("Rendering " ++ count)]
    let after := match ctx.groupArticle ds group with
      | .ok _ => ctx.groupNotices ds rest
      | .error _ => []
    ctx.skippedSimple ds group ++ started ++ after

-- What is said while a page is made, up to where that fails.
def notices (ctx : Context) (ds : List Declaration) : List String :=
  let shown := ctx.documented ds
  let after := match ctx.classArticles shown with
    | .ok _ => ctx.groupNotices shown Group.all
    | .error _ => []
  ctx.skippedInline ds ++ after

end Context

-- The page with an identity that declarations make under some settings.
def Page.render [Markdown.Extensions] (identity : String) (settings : Settings)
    (ds : List Declaration) : Except Fault Page := do
  (← Context.create identity settings ds).renderPage ds

end ApiPages
