import ApiPages.Markdown.Block
import ApiPages.Markdown.Emphasis
import ApiPages.Markdown.Fence
import ApiPages.Markdown.Link
import ApiPages.Markup.Entity

namespace ApiPages.Markdown

-- What an inline mark stands for.
inductive Stashed where
  | text (text : List Char)
  | tree (tree : Tree)

structure Stash where
  nodes : Array Stashed := #[]
  raw : List String := []

structure Setting where
  tables : Bool
  targets : Targets

abbrev Inline := StateM Stash

-- Characters that a backslash makes plain.
def Setting.escapes (setting : Setting) : List Char :=
  ['\\', '`', '*', '_', '{', '}', '[', ']', '(', ')', '>', '#', '+', '-', '.', '!'] ++
    if setting.tables then ['|'] else []

-- Keep raw HTML and give its mark.
def stashRaw (raw : List Char) : Inline (List Char) := do
  let stash ← get
  set { stash with raw := stash.raw ++ [String.ofList raw] }
  return rawMark stash.raw.length

def stashNode (node : Stashed) : Inline (List Char) := do
  let stash ← get
  set { stash with nodes := stash.nodes.push node }
  return nodeMark stash.nodes.size

-- The text that the inline marks in a text stand for.
def unmark (cs : List Char) : Inline (List Char) := do
  let stash ← get
  return (pieces nodeName cs).flatMap fun piece =>
    match piece with
    | .gap text => text
    | .token index =>
      match stash.nodes[index]? with
      | some (.text text) => text
      | some (.tree t) => t.innerText.toList
      | none => []

-- Elements that hold nothing in HTML.
def emptyTags : List String :=
  ["area", "base", "basefont", "br", "col", "frame", "hr", "img", "input", "isindex", "link",
   "meta", "param"]

mutual

-- An element in HTML, with its attributes in order of their names.
def serialize : Tree → List Char
  | ⟨tag, attributes, text, _, children, tail⟩ =>
    let sorted := attributes.mergeSort fun a b => a.1 ≤ b.1
    let opening := '<' :: tag.toList ++
      sorted.flatMap fun (name, value) => attributeText name value.toList
    let content := text.toList
    let whole :=
      if emptyTags.contains tag.toLower then opening ++ " />".toList
      else opening ++ '>' :: escapeMarkup false [] content ++ serializeAll children ++
        "</".toList ++ tag.toList ++ ['>']
    whole ++ escapeMarkup false [] tail.toList

def serializeAll : List Tree → List Char
  | [] => []
  | t :: rest => serialize t ++ serializeAll rest

end

-- A text with its marks written as HTML, and the marks inside of that. A mark stands for an element
-- that was read before, so the number of elements bounds the depth.
def writeMarks (stash : Stash) : Nat → List Char → List Char
  | 0, cs => cs
  | depth + 1, cs => (pieces nodeName cs).flatMap fun piece =>
    match piece with
    | .gap text => text
    | .token index =>
      match stash.nodes[index]? with
      | some (.text text) => '\\' :: text
      | some (.tree t) => writeMarks stash depth (serialize t)
      | none => []

-- Raw HTML as it stood in the source: elements are written out and backslashes come back.
def unmarkRaw (cs : List Char) : Inline (List Char) := do
  let stash ← get
  return restoreChars (writeMarks stash (stash.nodes.size + 1) cs)

-- A match of a rule: where it starts and ends, and what it stands for; without that the search goes
-- on behind it.
structure Found where
  start : Nat
  stop : Nat
  node : Option Stashed

abbrev Rule := Setting → List Char → Nat → Inline (Option Found)

def placeAt (data : List Char) (index : Nat) : Place := (Place.ofText data).advance index

-- A rule for the first match of a pattern.
def ruleFor (p : Pattern) (make : Setting → Place → Inline (Option Stashed)) : Rule :=
  fun setting data index => do
    match p.search (placeAt data index) with
    | none => return none
    | some (s, t) =>
      let node ← make setting t
      return some { start := s.offset, stop := t.offset, node }

-- A rule for the first opening from which the rest can be read.
def ruleFrom (opening : Pattern)
    (read : Setting → List Char → Inline (Option (Nat × Option Stashed))) : Rule :=
  fun setting data index =>
    let rec go : Nat → Place → Inline (Option Found)
      | 0, _ => return none
      | fuel + 1, s => do
        match opening.search s with
        | none => return none
        | some (start, t) =>
          match ← read setting t.rest with
          | some (length, node) => return some { start := start.offset, stop := t.offset + length, node }
          | none => go fuel t
    go (data.length + 1) (placeAt data index)

def codePattern : Pattern := Pattern.ofNotation
  "(?s)(?:(?<!\\\\)((?:\\\\\x7b2\x7d)+)(?=`+)|(?<!\\\\)(`+)(.+?)(?<!`)\\2(?!`))"

def codeRule : Rule := ruleFor codePattern fun _ t => do
  match t.group? 3 with
  | some code =>
    let text := escapeCode (String.ofList (Text.trim code))
    return some (.tree { tag := "code", text, final := true })
  | none =>
    let pairs := (group t 1).length / 2
    return some (.text ((List.replicate pairs (charMark '\\')).flatten))

def escapePattern : Pattern := Pattern.ofNotation "(?s)\\\\(.)"

def escapeRule : Rule := ruleFor escapePattern fun setting t => do
  match group t 1 with
  | [c] => return if setting.escapes.contains c then some (.text (charMark c)) else none
  | _ => return none

def linkOpening : Pattern := Pattern.ofNotation "(?<!\\!)\\["

def imageOpening : Pattern := Pattern.ofNotation "\\!\\["

def withTitle (t : Tree) (title : Option String) : Tree :=
  match title with
  | some title => t.setAttribute "title" title
  | none => t

-- The element for a link or an image.
def makeLink (image : Bool) (href : String) (title : Option String) (text : List Char) :
    Inline Stashed := do
  if image then
    let t : Tree := { tag := "img", attributes := [("src", href)] }
    return .tree ((withTitle t title).setAttribute "alt" (String.ofList (← unmark text)))
  else
    let t : Tree := { tag := "a", attributes := [("href", href)], text := String.ofList text }
    return .tree (withTitle t title)

-- A link with its address.
def directRule (image : Bool) : Rule :=
  ruleFrom (if image then imageOpening else linkOpening) fun _ cs => do
    match bracketText 0 [] cs with
    | none => return none
    | some (text, size) =>
      match readAddress? (cs.drop size) with
      | none => return none
      | some address =>
        let href := String.ofList (Text.trim (← unmark address.href))
        let title ← match address.title with
          | none => pure none
          | some title =>
            let plain := dequote (← unmark (Text.trim title))
            pure (some (String.ofList (plain.map fun c => if Text.isBlank c then ' ' else c)))
        return some (size + address.length, some (← makeLink image href title text))

-- A link whose address is given elsewhere under a name. A short one is its own name.
def namedRule (image short : Bool) : Rule :=
  ruleFrom (if image then imageOpening else linkOpening) fun setting cs => do
    match bracketText 0 [] cs with
    | none => return none
    | some (text, size) =>
      let name := if short then some ([], 0) else readName? (cs.drop size)
      match name with
      | none => return none
      | some (name, length) =>
        let name := Text.lower (String.ofList (if name.isEmpty then text else name))
        let name := String.ofList (joinBlanks false name.toList)
        match setting.targets.find? name with
        | none => return some (size + length, none)
        | some target =>
          let title := target.title.filter (!·.isEmpty)
          return some (size + length, some (← makeLink image target.href title text))

def autolinkPattern : Pattern := Pattern.ofNotation
  "(?s)<((?:[Ff]|[Hh][Tt])[Tt][Pp][Ss]?://[^<>]*)>"

def autolinkRule : Rule := ruleFor autolinkPattern fun _ t => do
  let href := String.ofList (← unmark (group t 1))
  return some (.tree { tag := "a", attributes := [("href", href)], text := String.ofList (group t 1),
                       final := true })

def automailPattern : Pattern := Pattern.ofNotation "(?s)<([^<> !]+@[^@<> ]+)>"

-- A character of a mail address as a reference, by name if it has one.
def mailChar (byName : Bool) (c : Char) : List Char :=
  match if byName then Entity.spoken[c.toNat]? else none with
  | some name => ampMark ++ name.toList ++ [';']
  | none => ampMark ++ '#' :: numberText c.toNat ++ [';']

def automailRule : Rule := ruleFor automailPattern fun _ t => do
  let address ← unmark (group t 1)
  let address := (Text.dropStart? "mailto:".toList address).getD address
  let href := ("mailto:".toList ++ address).flatMap (mailChar false)
  return some (.tree { tag := "a", attributes := [("href", String.ofList href)],
                       text := String.ofList (address.flatMap (mailChar true)), final := true })

def breakRule : Rule := ruleFor (Pattern.ofNotation "  \\n") fun _ _ => do
  return some (.tree { tag := "br" })

def tagRulePattern : Pattern := Pattern.ofNotation
  "(?s)(<(/?[a-zA-Z][^<>@ ]*( [^<>]*)?|!--(?:(?!<!--|-->).)*--)>)"

def referenceRulePattern : Pattern := Pattern.ofNotation
  "(&(?:\\#[0-9]+|\\#x[0-9a-fA-F]+|[0-9a-zA-Z]+);)"

def rawRule (p : Pattern) : Rule := ruleFor p fun _ t => do
  return some (.text (← stashRaw (← unmarkRaw (group t 1))))

def loneSignPattern : Pattern := Pattern.ofNotation
  "((^|(?<=\\s))(\\*\x7b1,3\x7d|_\x7b1,3\x7d)(?=\\s|$))"

def loneSignRule : Rule := ruleFor loneSignPattern fun _ t => return some (.text (group t 1))

-- Emphasis that starts with a sign; a sign that starts none is passed.
def emphasisRule (sign : Char) (rules : List EmphasisRule) : Rule := fun _ data index =>
  let rec go : Nat → Place → Option Found
    | 0, _ => none
    | fuel + 1, s =>
      match s.next? with
      | none => none
      | some (c, next) =>
        match if c = sign then readEmphasis? sign rules s else none with
        | some (t, after) => some { start := s.offset, stop := after.offset, node := some (.tree t) }
        | none => go fuel next
  return go (data.length + 1) (placeAt data index)

-- The rules in the order in which they are applied.
-- Each match gives way to a mark, so that later rules do not look into it.
def rules : Array Rule :=
  #[codeRule, escapeRule, namedRule false false, directRule false, directRule true,
    namedRule true false, namedRule false true, namedRule true true, autolinkRule, automailRule,
    breakRule, rawRule tagRulePattern, rawRule referenceRulePattern, loneSignRule,
    emphasisRule '*' starRules, emphasisRule '_' lineRules]

-- Apply the rules from a number on to a text, from an index on for the first of them.
def applyRules (setting : Setting) : Nat → Nat → Nat → List Char → Inline (List Char)
  | 0, _, _, data => return data
  | fuel + 1, number, index, data =>
    match rules[number]? with
    | none => return data
    | some rule => do
      match ← rule setting data index with
      | none => applyRules setting fuel (number + 1) 0 data
      | some { stop, node := none, .. } => applyRules setting fuel number stop data
      | some { start, stop, node := some node } =>
        -- Text inside of a match is left to the rules that follow.
        let inner (final : Bool) (number : Nat) (text : String) : Inline String := do
          if final || text.isEmpty then return text
          return String.ofList (← applyRules setting fuel number 0 text.toList)
        let node ← match node with
          | .text text => pure (.text text)
          | .tree t =>
            if t.final then pure (.tree t)
            else do
              let text ← inner t.final (number + 1) t.text
              let children ← t.children.mapM fun child => do
                let text ← inner child.final (number + 1) child.text
                let tail ← inner false number child.tail
                return { child with text, tail }
              pure (.tree { t with text, children })
        let mark ← stashNode node
        applyRules setting fuel number 0 (data.take start ++ mark ++ data.drop stop)

def applyAll (setting : Setting) (text : String) : Inline (List Char) :=
  let data := text.toList
  applyRules setting ((data.length + 20) * (data.length + 20)) 0 0 data

-- A text before the first element, and elements with their tails.
structure Expanded where
  lead : List Char := []
  -- The last first.
  trees : List Tree := []

namespace Expanded

def addText (x : Expanded) (text : List Char) : Expanded :=
  match x.trees with
  | t :: rest => { x with trees := { t with tail := t.tail ++ String.ofList text } :: rest }
  | [] => { x with lead := x.lead ++ text }

def addTree (x : Expanded) (t : Tree) : Expanded := { x with trees := t :: x.trees }

end Expanded

def isBlankString (s : String) : Bool := Text.isBlankText s

-- Replace the marks in a text by what they stand for, and the marks inside of that.
def expand (stash : Stash) : Nat → List Char → Expanded
  | 0, cs => { lead := cs }
  | fuel + 1, cs =>
    -- Expand the text of an element in front of its children.
    let expandText (t : Tree) : Tree :=
      if isBlankString t.text then t
      else
        let x := expand stash fuel t.text.toList
        { t with text := String.ofList x.lead, final := t.final && x.trees.isEmpty,
                 children := x.trees.reverse ++ t.children }
    let expandChild (t : Tree) : List Tree :=
      let t := expandText t
      if isBlankString t.tail then [t]
      else
        let x := expand stash fuel t.tail.toList
        { t with tail := String.ofList x.lead } :: x.trees.reverse
    (pieces nodeName cs).foldl (fun x piece =>
      match piece with
      | .gap text => x.addText text
      | .token index =>
        match stash.nodes[index]? with
        | none => x.addText (nodeMark index)
        | some (.text text) => x.addText text
        | some (.tree t) =>
          x.addTree (expandText { t with children := t.children.flatMap expandChild })) {}

def inlineText (setting : Setting) (text : String) : Inline Expanded := do
  let data ← applyAll setting text
  return expand (← get) (data.length + 1000) data

mutual

-- Read the inline markup in what an element holds; its own text is not looked at.
def inlineTree (setting : Setting) : Nat → Tree → Inline Tree
  | 0, t => return t
  | fuel + 1, t => do
    return { t with children := ← inlineChildren setting fuel t.children }

-- Elements that come out of a tail are read again behind the element they followed.
def inlineChildren (setting : Setting) : Nat → List Tree → Inline (List Tree)
  | 0, ts => return ts
  | _, [] => return []
  | fuel + 1, t :: rest => do
    let hadChildren := !t.children.isEmpty
    let (t, found) ←
      if t.text.isEmpty || t.final then pure (t, [])
      else do
        let x ← inlineText setting t.text
        pure ({ t with text := String.ofList x.lead }, x.trees.reverse)
    let (t, after) ←
      if t.tail.isEmpty then pure (t, [])
      else do
        let x ← inlineText setting t.tail
        pure ({ t with tail := String.ofList x.lead }, x.trees.reverse)
    let t ←
      if hadChildren then inlineTree setting fuel { t with children := found ++ t.children }
      else do
        let found ← found.mapM fun child => inlineTree setting fuel child
        pure { t with children := found }
    return t :: (← inlineChildren setting fuel (after ++ rest))

end

end ApiPages.Markdown
