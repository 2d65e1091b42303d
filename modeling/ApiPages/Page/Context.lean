import ApiPages.Model.Walk
import ApiPages.Prose.Renderer
import ApiPages.Settings.Basic

namespace ApiPages

abbrev SymbolIndex := List (SymbolId × Declaration)

namespace SymbolIndex

def lookup? (index : SymbolIndex) (id : SymbolId) : Option Declaration :=
  (List.find? (fun entry => entry.1.value = id.value) index).map (·.2)

-- Give a declaration its number, if it has one that is still free.
def add (index : SymbolIndex) (d : Declaration) : SymbolIndex :=
  match d.id with
  | some id => if (index.lookup? id).isSome then index else index ++ [(id, d)]
  | none => index

-- The first declaration that carries a number has it.
def ofDeclarations (ds : List Declaration) : SymbolIndex := (walkAll ds).foldl add []

end SymbolIndex

structure Context where
  -- The identity of the page.
  page : String
  tables : TypeTables := {}
  style : Prose.Style
  editUrls : EditUrls := {}
  symbols : SymbolIndex := []

namespace Context

-- The way comments are written under some settings.
def styleOf [Markdown.Extensions] (settings : Settings) : Except Fault Prose.Style :=
  match Markdown.reader? settings.extensions with
  | some read => .ok { read, classMark := settings.highlightMark }
  | none => .error .unknownExtension

def create [Markdown.Extensions] (page : String) (settings : Settings) (ds : List Declaration) :
    Except Fault Context := do
  return { page, tables := settings.tables, style := ← styleOf settings,
           editUrls := settings.editUrls, symbols := SymbolIndex.ofDeclarations ds }

-- The declaration that a reference means, when it is known.
def resolve (ctx : Context) (r : Reference) : Option Declaration :=
  match r.target with
  | some d => some d
  | none => r.targetId.bind ctx.symbols.lookup?

def className (ctx : Context) (name : String) : String := ctx.style.className name

def comment (ctx : Context) (comment : Option Comment) : List Node :=
  Prose.renderComment ctx.style comment

end Context

end ApiPages
