import ApiPages.Markdown.Table
import ApiPages.Pattern.Reader

namespace ApiPages.Markdown

-- Where links that are named in the text lead: an address and a title.
structure LinkTarget where
  href : String
  title : Option String

structure Targets where
  -- The latest first.
  entries : List (String × LinkTarget) := []

def Targets.find? (targets : Targets) (name : String) : Option LinkTarget :=
  targets.entries.lookup name

-- What the reader is inside of.
inductive Inside where
  | list
  | looseList
  | quotation
  | indented
  deriving DecidableEq

structure Reader where
  tables : Bool
  -- Innermost first.
  inside : List Inside := []

def Reader.enter (r : Reader) (place : Inside) : Reader := { r with inside := place :: r.inside }

def Reader.isIn (r : Reader) (place : Inside) : Bool := r.inside.head? = some place

abbrev Block := List Char

-- Cut a text at empty lines.
def splitBlocks : List Char → List Block
  | [] => [[]]
  | '\n' :: '\n' :: rest => [] :: splitBlocks rest
  | c :: rest =>
    match splitBlocks rest with
    | block :: blocks => (c :: block) :: blocks
    | [] => [[c]]

-- Remove one level of indentation from the lines up to the first one without it.
def detab (block : Block) : Block × Block :=
  let step (line : List Char) : Option (List Char) :=
    if Text.startsWith (List.replicate tabWidth ' ') line then some (line.drop tabWidth)
    else if line.all Text.isBlank then some []
    else none
  let ls := Text.lines block
  let kept := (ls.map step).takeWhile (·.isSome) |>.filterMap id
  (Text.unlines kept, Text.unlines (ls.drop kept.length))

-- Remove levels of indentation from every line that has them.
def looseDetab (levels : Nat) (block : Block) : Block :=
  let width := tabWidth * levels
  Text.unlines ((Text.lines block).map fun line =>
    if Text.startsWith (List.replicate width ' ') line then line.drop width else line)

def isIndented (block : Block) : Bool := Text.startsWith (List.replicate tabWidth ' ') block

def isItemTag (tag : String) : Bool := tag = "li"

def isListTag (tag : String) : Bool := tag = "ul" || tag = "ol"

def isCode (t : Tree) : Bool := t.tag = "pre" && t.children.head?.any (·.tag = "code")

-- Change the code inside a code block.
def mapCode (t : Tree) (f : String → String) : Tree :=
  match t.children with
  | code :: rest => { t with children := { code with text := f code.text, final := true } :: rest }
  | [] => t

def dropEnd (p : Char → Bool) (block : Block) : Block := Text.dropEndWhile p block

-- Text that stands in an item by itself moves into a paragraph.
def wrapText (item : Tree) : Tree :=
  if item.text.isEmpty then item
  else { item with text := "", children := { tag := "p", text := item.text } :: item.children }

-- Text behind the last child of an item moves into a paragraph.
def wrapTail (item : Tree) : Tree :=
  match item.children.getLast? with
  | some child =>
    if child.tail.isEmpty then item
    else
      let text := String.ofList (child.tail.toList.dropWhile Text.isBlank)
      { item with children :=
          item.children.dropLast ++ [{ child with tail := "" }, { tag := "p", text }] }
  | none => item

-- How many last children to go down for an indentation, and the level that is reached.
def findLevel (wanted : Nat) : Nat → Nat → Tree → Nat × Nat
  | 0, level, _ => (0, level)
  | fuel + 1, level, t =>
    if wanted ≤ level then (0, level)
    else match t.lastChild? with
      | some child =>
        if isListTag child.tag then
          let (steps, level) := findLevel wanted fuel (level + 1) child
          (steps + 1, level)
        else if isItemTag child.tag then
          let (steps, level) := findLevel wanted fuel level child
          (steps + 1, level)
        else (0, level)
      | none => (0, level)

-- Change the element some steps down the last children.
def changeDeep {m : Type → Type} [Monad m] (f : Tree → m Tree) : Nat → Tree → m Tree
  | 0, t => f t
  | steps + 1, t =>
    match t.children.getLast? with
    | some child => do
      let child ← changeDeep f steps child
      return { t with children := t.children.dropLast ++ [child] }
    | none => f t

def headingPattern : Pattern := Pattern.ofNotation
  "(?:^|\\n)(#\x7b1,6\x7d)((?:\\\\.|[^\\\\])*?)#*(?:\\n|$)"

def underlinePattern : Pattern := Pattern.ofNotation "(?m)^.*?\\n[=-]+[ ]*(\\n|$)"

def rulePattern : Pattern := Pattern.ofNotation
  ("(?m)^[ ]\x7b0,3\x7d(?=((-+[ ]\x7b0,2\x7d)\x7b3,\x7d|(_+[ ]\x7b0,2\x7d)\x7b3,\x7d|" ++
    "(\\*+[ ]\x7b0,2\x7d)\x7b3,\x7d))\\1[ ]*$")

def quotePattern : Pattern := Pattern.ofNotation "(^|\\n)[ ]\x7b0,3\x7d>[ ]?(.*)"

def orderedPattern : Pattern := Pattern.ofNotation "[ ]\x7b0,3\x7d\\d+\\.[ ]+(.*)"

def unorderedPattern : Pattern := Pattern.ofNotation "[ ]\x7b0,3\x7d[*+-][ ]+(.*)"

def itemPattern : Pattern := Pattern.ofNotation "[ ]\x7b0,3\x7d((\\d+\\.)|[*+-])[ ]+(.*)"

def nestedItemPattern : Pattern := Pattern.ofNotation "[ ]\x7b4,7\x7d((\\d+\\.)|[*+-])[ ]+.*"

def targetPattern : Pattern := Pattern.ofNotation
  ("(?m)^[ ]\x7b0,3\x7d\\[([^\\[\\]]*)\\]:[ ]*\\n?[ ]*([^\\s]+)[ ]*(?:\\n[ ]*)?" ++
    "(([\"'])(.*)\\4[ ]*|\\((.*)\\)[ ]*)?$")

def matches_ (p : Pattern) (block : Block) : Bool := (p.matchAt (Place.ofText block)).isSome

-- The text before a match, the match's end, and the text after it.
def search? (p : Pattern) (block : Block) : Option (Block × Place × Block) :=
  (p.search (Place.ofText block)).map fun (start, t) => (block.take start.offset, t, t.rest)

def group (t : Place) (index : Nat) : List Char := (t.group? index).getD []

-- The items of a list in a block, each with the lines that belong to it.
def listItems (block : Block) : List Block :=
  let step (items : List Block) (line : List Char) : List Block :=
    let attach (items : List Block) : List Block :=
      match items with
      | item :: rest => (item ++ '\n' :: line) :: rest
      | [] => [line]
    match itemPattern.matchAt (Place.ofText line) with
    | some t => group t 3 :: items
    | none =>
      if matches_ nestedItemPattern line then
        if items.head?.any isIndented then attach items else line :: items
      else attach items
  ((Text.lines block).foldl step []).reverse

-- A line of a quotation without its sign.
def unquote (line : List Char) : List Char :=
  if Text.trim line = ['>'] then []
  else match quotePattern.matchAt (Place.ofText line) with
    | some t => group t 2
    | none => line

-- A paragraph goes into a tight list's item as text, else into an element of its own.
def addParagraph (r : Reader) (parent : Tree) (block : Block) : Tree :=
  if block.all Text.isBlank then parent
  else
    let text := String.ofList (block.dropWhile Text.isBlank)
    if r.isIn .list then
      match parent.children.getLast? with
      | some child =>
        { parent with children := parent.children.dropLast ++
            [{ child with tail := child.tail ++ "\n" ++ String.ofList block }] }
      | none =>
        { parent with text := if parent.text.isEmpty then text else parent.text ++ "\n" ++ text }
    else parent.addChild { tag := "p", text }

-- The reference that a block holds, with the text around it.
def target? (block : Block) : Option (String × LinkTarget × List Block) := do
  let (before, t, after) ← search? targetPattern block
  let name := Text.lower (String.ofList (Text.trim (group t 1)))
  let address := dropEnd (· = '>') ((group t 2).dropWhile (· = '<'))
  let title := match t.group? 5, t.group? 6 with
    | some title, other => if title.isEmpty then other else some title
    | none, other => other
  let notBlank (b : Block) : Bool := !b.all Text.isBlank
  let around := [dropEnd (· = '\n') before, after.dropWhile (· = '\n')].filter notBlank
  return (name, { href := String.ofList address, title := title.map String.ofList }, around)

abbrev Reading := StateM Targets

-- Read blocks into a parent. Every step takes characters from the blocks, so the length of the text
-- bounds the depth.
def readBlocks : Nat → Reader → Tree → List Block → Reading Tree
  | 0, _, parent, _ => return parent
  | _, _, parent, [] => return parent
  | fuel + 1, r, parent, block :: rest => do
    let next (parent : Tree) (blocks : List Block) := readBlocks fuel r parent blocks
    let nested (r : Reader) (parent : Tree) (blocks : List Block) := readBlocks fuel r parent blocks
    let last := parent.lastChild?
    -- An empty line: inside code it is kept.
    if block.isEmpty || block.head? = some '\n' then
      let filler := if block.isEmpty then "\n\n" else "\n"
      let parent :=
        if last.any isCode then parent.mapLast fun code => mapCode code (· ++ filler) else parent
      let more := block.drop 1
      next parent (if more.isEmpty then rest else more :: rest)
    -- An indented block inside a list.
    else if isIndented block && !r.isIn .indented &&
        (isItemTag parent.tag || last.any fun t => isListTag t.tag) then
      let wanted := (block.takeWhile (· = ' ')).length / tabWidth
      let start := if r.isIn .list then 1 else 0
      let (steps, level) := findLevel wanted (block.length + 1) start parent
      let block := looseDetab level block
      let inner := r.enter .indented
      let parent ←
        if isItemTag parent.tag then
          if last.any fun t => isListTag t.tag then
            changeDeep (fun list => nested inner list [block]) 1 parent
          else nested inner parent [block]
        else
          changeDeep (fun sibling => do
            if isItemTag sibling.tag then nested inner sibling [block]
            else if sibling.lastChild?.any fun t => isItemTag t.tag then
              changeDeep (fun item => nested inner (wrapText item)
                (splitBlocks block)) 1 sibling
            else
              let item ← nested inner { tag := "li" } [block]
              return sibling.addChild item) steps parent
      next parent rest
    -- Indented code.
    else if isIndented block then
      let (code, more) := detab block
      let text := escapeCode (String.ofList (dropEnd Text.isBlank code))
      let parent :=
        if last.any isCode then
          parent.mapLast fun t => mapCode t fun old => old ++ "\n" ++ text ++ "\n"
        else
          parent.addChild
            { tag := "pre", children := [{ tag := "code", text := text ++ "\n", final := true }] }
      next parent (if more.isEmpty then rest else more :: rest)
    else if let some shape := if r.tables then Table.shape? block else none then
      next (parent.addChild (Table.toTree shape block)) rest
    -- A heading behind number signs.
    else if let some (before, t, after) := search? headingPattern block then
      let parent ← if before.isEmpty then pure parent else nested r parent [before]
      let tag := "h" ++ toString (group t 1).length
      let parent := parent.addChild { tag, text := String.ofList (Text.trim (group t 2)) }
      -- In an item that is set apart the lines behind a heading are still indented.
      let after := if r.isIn .looseList then looseDetab 1 after else after
      next parent (if after.isEmpty then rest else after :: rest)
    -- A heading with a line under it.
    else if matches_ underlinePattern block then
      let ls := Text.lines block
      let tag := if (ls.getD 1 []).head? = some '=' then "h1" else "h2"
      let parent := parent.addChild { tag, text := String.ofList (Text.trim (ls.headD [])) }
      next parent (if ls.length > 2 then Text.unlines (ls.drop 2) :: rest else rest)
    else if let some (before, _, after) := search? rulePattern block then
      let before := dropEnd (· = '\n') before
      let parent ← if before.isEmpty then pure parent else nested r parent [before]
      let after := after.dropWhile (· = '\n')
      next (parent.addChild { tag := "hr" }) (if after.isEmpty then rest else after :: rest)
    -- A list; items behind a list that is already there are set apart from it.
    else if matches_ orderedPattern block || matches_ unorderedPattern block then
      let items := listItems block
      let addItem (r : Reader) (list : Tree) (item : Block) : Reading Tree := do
        if isIndented item && !list.children.isEmpty then
          changeDeep (fun t => nested r t [item]) 1 list
        else
          let t ← nested r { tag := "li" } [item]
          return list.addChild t
      if last.any fun t => isListTag t.tag then
        let parent ← changeDeep (fun list => do
          let list := list.mapLast fun item => wrapTail (wrapText item)
          let first ← nested (r.enter .looseList) { tag := "li" } (items.take 1)
          (items.drop 1).foldlM (addItem (r.enter .list)) (list.addChild first)) 1 parent
        next parent rest
      else if isListTag parent.tag then
        let parent ← items.foldlM (addItem (r.enter .list)) parent
        next parent rest
      else
        let tag := if matches_ orderedPattern block then "ol" else "ul"
        let list ← items.foldlM (addItem (r.enter .list)) { tag }
        next (parent.addChild list) rest
    else if let some (before, _, _) := search? quotePattern block then
      let parent ← nested r parent [before]
      let quoted := Text.unlines ((Text.lines (block.drop before.length)).map unquote)
      let inner := r.enter .quotation
      let blocks := splitBlocks quoted
      let parent ←
        if parent.lastChild?.any (·.tag = "blockquote") then
          changeDeep (fun quote => nested inner quote blocks) 1 parent
        else
          let quote ← nested inner { tag := "blockquote" } blocks
          pure (parent.addChild quote)
      next parent rest
    else if let some (name, target, around) := target? block then
      modify fun targets => { entries := (name, target) :: targets.entries }
      next parent (around ++ rest)
    else next (addParagraph r parent block) rest

-- Read a text into an element of its own.
def readDocument (tables : Bool) (text : List Char) : Tree × Targets :=
  let root : Tree := { tag := "div" }
  (readBlocks (3 * text.length + 20) { tables } root (splitBlocks text)).run {}

end ApiPages.Markdown
