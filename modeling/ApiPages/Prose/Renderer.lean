import ApiPages.Highlight.Language
import ApiPages.Markdown.Document
import ApiPages.Markup.Xml
import ApiPages.Model.Basic
import ApiPages.Prose.Mention

namespace ApiPages.Prose

open Markdown

-- How documentation is written and shown.
structure Style where
  -- The document that a source writes.
  read : String → Document
  -- What the classes of highlighted code start with.
  classMark : String

def Style.className (style : Style) (name : String) : String := style.classMark ++ name

-- The text that a stretch of the tree stands for; the text of code is escaped.
def plainText (escaped : Bool) (cs : List Char) : String :=
  let s := String.ofList cs
  String.ofList (restoreChars (if escaped then unescapeCode s else s).toList)

-- Text nodes for the gaps of a text, and the nodes that its marks stand for.
def textNodes (raw : Nat → List Node) (escaped : Bool) (s : String) : List Node :=
  (pieces rawName s.toList).flatMap fun piece =>
    match piece with
    | .gap text => [.text (plainText escaped text)]
    | .token index => raw index

def properties (attributes : List (String × String)) : List (String × Json) :=
  attributes.foldl (fun found (key, value) =>
    if key = "class" then
      Json.setMember "className" (.list ((Text.wordsOf value).map .text)) found
    else Json.setMember key (.text value) found) []

def languageMark : String := "language-"

-- The language that the last class of this kind names.
def language? (code : Tree) : Option String :=
  (Text.wordsOf ((code.attribute? "class").getD "")).foldl (fun found name =>
    match Text.dropStart? languageMark.toList name.toList with
    | some rest => some (String.ofList rest)
    | none => found) none

def codeBlock (style : Style) (written : Bool) (block code : Tree) : Node :=
  let source := plainText written code.text.toList
  .element { tag := "pre", properties := properties block.attributes, children :=
    [.element { tag := "code", properties := properties code.attributes,
                children := Highlight.code style.classMark source (language? code) }] }

-- The index when a paragraph holds nothing but the mark of a raw piece.
def rawParagraph? (t : Tree) : Option Nat :=
  if t.tag = "p" && t.children.isEmpty then
    match marked? rawName (Text.trim t.text.toList) with
    | some (index, []) => some index
    | _ => none
  else none

mutual

-- The nodes for an element. `written` tells that it was written in Markdown, not in raw HTML.
def treeNodes (style : Style) (raw : Nat → List Node) (written : Bool) : Tree → List Node
  | t@⟨tag, attributes, text, _, children, _⟩ =>
    match rawParagraph? t with
    | some index => raw index
    | none =>
      match (if tag = "pre" then children else []) with
      | [code] =>
        if code.tag = "code" then [codeBlock style written t code]
        else [.element { tag, properties := properties attributes,
                         children := textNodes raw false text ++
                           childNodes style raw written children }]
      | _ => [.element { tag, properties := properties attributes,
                         children := textNodes raw (written && tag = "code") text ++
                           childNodes style raw written children }]

def childNodes (style : Style) (raw : Nat → List Node) (written : Bool) : List Tree → List Node
  | [] => []
  | t@⟨_, _, _, _, _, tail⟩ :: rest =>
    treeNodes style raw written t ++ textNodes raw false tail ++ childNodes style raw written rest

end

-- The nodes for what an element holds.
def contentNodes (style : Style) (raw : Nat → List Node) (written : Bool) (t : Tree) : List Node :=
  textNodes raw (written && t.tag = "code") t.text ++ childNodes style raw written t.children

-- The nodes for a piece of raw HTML.
def htmlNodes (style : Style) (html : String) : List Node :=
  match Xml.readFragment? html with
  | some root => contentNodes style (fun _ => []) false root
  | none => [.text (Entity.resolve html)]

def rawNodes (style : Style) (pieces : List String) (index : Nat) : List Node :=
  match pieces[index]? with
  | some html => htmlNodes style html
  | none => []

def isBlank : Node → Bool
  | .text s => Text.isBlankText s
  | .element _ => false

-- Documentation as nodes, without blank text between the blocks.
def render (style : Style) (text : String) : List Node :=
  if Text.isBlankText text then []
  else
    let document := style.read (linkMentions text)
    (contentNodes style (rawNodes style document.raw) true document.root).filter (!isBlank ·)

def renderComment (style : Style) : Option Comment → List Node
  | none => []
  | some comment => render style comment.body

end ApiPages.Prose
