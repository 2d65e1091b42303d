import ApiPages.Markdown.Mark

namespace ApiPages.Markdown

def tabWidth : Nat := 4

-- Tabs become spaces up to the next multiple of the tab width.
def expandTabs (column : Nat) : List Char → List Char
  | [] => []
  | '\t' :: cs =>
    let width := tabWidth - column % tabWidth
    List.replicate width ' ' ++ expandTabs (column + width) cs
  | '\n' :: cs => '\n' :: expandTabs 0 cs
  | c :: cs => c :: expandTabs (column + 1) cs

-- Lines of spaces alone become empty; the first line and the last keep theirs.
def emptyBlankLines (cs : List Char) : List Char :=
  let clean (line : List Char) : List Char := if line.all (· = ' ') then [] else line
  match Text.lines cs with
  | [] => []
  | first :: rest =>
    Text.unlines (first :: (rest.dropLast.map clean ++ rest.drop (rest.length - 1)))

def normalize (cs : List Char) : List Char :=
  let kept := cs.filter fun c => c ≠ markOpen ∧ c ≠ markClose
  emptyBlankLines (expandTabs 0 (Text.unifyLineEnds kept ++ ['\n', '\n']))

-- Elements that make up blocks of their own.
def blockTags : List String :=
  ["address", "article", "aside", "blockquote", "details", "div", "dl", "fieldset", "figcaption",
   "figure", "footer", "form", "h1", "h2", "h3", "h4", "h5", "h6", "header", "hgroup", "hr",
   "main", "menu", "nav", "ol", "p", "pre", "section", "table", "ul", "canvas", "colgroup", "dd",
   "body", "dt", "group", "html", "iframe", "li", "legend", "math", "map", "noscript", "output",
   "object", "option", "progress", "script", "style", "summary", "tbody", "td", "textarea",
   "tfoot", "th", "thead", "tr", "video", "center"]

def isBlockTag (tag : String) : Bool :=
  blockTags.contains (String.ofList (Text.dropEndWhile (· = '/') (tag.toLower.toList)))

end ApiPages.Markdown
