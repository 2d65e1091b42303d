import ApiPages.Markdown.Inline
import ApiPages.Markdown.RawHtml

namespace ApiPages.Markdown

-- The extensions that are known here.
structure Dialect where
  fences : Bool := false
  tables : Bool := false
  deriving DecidableEq, Repr

-- The dialect with the named extensions, if all of them are known.
def Dialect.ofNames? (names : List String) : Option Dialect :=
  names.foldlM (fun dialect name =>
    if name = "fenced_code" then some { dialect with fences := true }
    else if name = "tables" then some { dialect with tables := true }
    else none) {}

-- The element tree of a document and the raw HTML that its marks stand for.
structure Document where
  root : Tree
  raw : List String

mutual

-- Put line feeds around the elements inside a block.
def layOut : Tree → Tree
  | ⟨tag, attributes, text, final, children, tail⟩ =>
    let inside := isBlockTag tag && tag != "code" && tag != "pre"
    let nested := isBlankString text && children.head?.any fun child => isBlockTag child.tag
    let tail := if isBlankString tail then "\n" else tail
    if inside then
      ⟨tag, attributes, if nested then "\n" else text, final, layOutAll children, tail⟩
    else ⟨tag, attributes, text, final, children, tail⟩

def layOutAll : List Tree → List Tree
  | [] => []
  | t :: rest => (if isBlockTag t.tag then layOut t else t) :: layOutAll rest

end

mutual

-- Put a line feed behind every line break, and exactly one at the end of code. Attributes lose the
-- marks of characters.
def finish : Tree → Tree
  | ⟨tag, attributes, text, final, children, tail⟩ =>
    let attributes := attributes.map fun (name, value) =>
      (name, String.ofList (restoreChars value.toList))
    let tail :=
      if tag != "br" then tail
      else if isBlankString tail then "\n" else "\n" ++ tail
    ⟨tag, attributes, text, final, finishAll (tag == "pre") children, tail⟩

def finishAll (inPre : Bool) : List Tree → List Tree
  | [] => []
  | t :: rest =>
    let t := finish t
    let t :=
      if inPre && t.tag == "code" && t.children.isEmpty then
        { t with text := String.ofList (Text.dropEndWhile Text.isBlank t.text.toList) ++ "\n" }
      else t
    t :: finishAll false rest

end

-- The document that a source writes.
def read (dialect : Dialect) (source : String) : Document :=
  let text := normalize source.toList
  let (raw, text) := if dialect.fences then fence [] text else ([], text)
  let (raw, text) := RawHtml.extract raw text
  let (root, targets) := readDocument dialect.tables text
  let setting : Setting := { tables := dialect.tables, targets }
  let fuel := 4 * text.length + 100
  let (root, stash) := (inlineTree setting fuel root).run { raw }
  { root := finish (layOut root), raw := stash.raw }

-- What other extensions there are: how documents with them are read, unless one of them cannot be had.
class Extensions where
  reader? : (names : List String) → Option (String → Document)

@[reducible] def noExtensions : Extensions where
  reader? _ := none

-- How documents with the named extensions are read.
def reader? [Extensions] (names : List String) : Option (String → Document) :=
  match Dialect.ofNames? names with
  | some dialect => some (read dialect)
  | none => Extensions.reader? names

end ApiPages.Markdown
