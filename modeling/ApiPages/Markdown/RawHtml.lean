import ApiPages.Markdown.Source
import ApiPages.Pattern.Reader

namespace ApiPages.Markdown.RawHtml

structure Extraction where
  -- Inside an element that is taken out.
  inRaw : Bool := false
  -- Behind a taken element on its line.
  inTail : Bool := false
  -- The open elements inside the one that is taken out, innermost first.
  opened : List (List Char) := []
  -- The text to take out, last first.
  cache : List Char := []
  -- The source that stays, last first.
  kept : List Char := []
  raw : List String := []
  -- The element whose text is not markup.
  verbatim : Option (List Char) := none

namespace Extraction

def handleText (x : Extraction) (text : List Char) : Extraction :=
  let x := { x with inTail := x.inTail && !text.contains '\n' }
  if x.inRaw then { x with cache := text.reverse ++ x.cache }
  else { x with kept := text.reverse ++ x.kept }

def keep (x : Extraction) (text : List Char) : Extraction :=
  { x with kept := text.reverse ++ x.kept }

-- Leave a mark for a raw text, and a blank line behind it.
def store (x : Extraction) (text : List Char) : Extraction :=
  { x.keep (rawMark x.raw.length ++ ['\n', '\n']) with raw := x.raw ++ [String.ofList text] }

end Extraction

-- Whether a place is at the start of a line or behind at most three blanks.
def atLineStart (s : Place) : Bool :=
  let line := s.before.takeWhile (· ≠ '\n')
  line.length ≤ 3 && line.all Text.isBlank

-- Whether the rest of the line is blank and so is the next line.
def blankLineFollows (cs : List Char) : Bool :=
  match cs.dropWhile (· = ' ') with
  | '\n' :: rest => (rest.dropWhile (· = ' ')).head? = some '\n'
  | _ => false

-- A piece of markup that holds nothing; on its own line it is taken out.
def handleAlone (x : Extraction) (s : Place) (text : List Char) (isBlock : Bool) : Extraction :=
  if x.inRaw || x.inTail then { x with cache := text.reverse ++ x.cache }
  else if atLineStart s && isBlock then
    let follows := blankLineFollows (s.rest.drop text.length)
    let text := if follows then text ++ ['\n'] else text
    let gap : List Char := match x.kept with
      | '\n' :: '\n' :: _ => []
      | '\n' :: _ => ['\n']
      | _ => []
    { (x.keep gap).store text with inTail := !follows || x.inTail }
  else x.keep text

def isVerbatimTag (tag : List Char) : Bool := tag = "script".toList || tag = "style".toList

def handleOpening (x : Extraction) (s : Place) (tag text : List Char) : Extraction :=
  let isBlock := isBlockTag (String.ofList tag)
  if tag = "hr".toList then handleAlone x s text isBlock
  else
    let starts := isBlock && (x.inTail || (atLineStart s && !x.inRaw))
    let x := if starts then { x.keep ['\n'] with inRaw := true } else x
    if x.inRaw then
      { x with opened := tag :: x.opened, cache := text.reverse ++ x.cache,
               verbatim := if isVerbatimTag tag then some tag else x.verbatim }
    else x.keep text

def handleClosing (x : Extraction) (s : Place) (tag text : List Char) : Extraction :=
  let x :=
    if x.inRaw then
      let opened :=
        if x.opened.contains tag then (x.opened.dropWhile (· ≠ tag)).drop 1 else x.opened
      let x := { x with cache := text.reverse ++ x.cache, opened }
      if opened.isEmpty then
        let follows := blankLineFollows (s.rest.drop text.length)
        let cache := if follows then '\n' :: x.cache else x.cache
        let x := { x with inRaw := false, inTail := !follows || x.inTail, cache := [] }
        x.store cache.reverse
      else x
    else x.keep text
  { x with verbatim := none }

-- The start of a tag up to its closing bracket.
def tagPattern : Pattern := Pattern.ofNotation
  ("<[a-zA-Z][^`\\t\\n\\r\\f />\\x00]*(?:[\\s/]*(?:(?<=['\"\\s/])[^`\\s/>][^\\s/=>]*" ++
    "(?:\\s*=+\\s*(?:'[^']*'|\"[^\"]*\"|(?!['\"])[^`>\\s]*)(?:\\s*,)*)?(?:\\s|/(?!>))*)*)?\\s*")

def tagNamePattern : Pattern := Pattern.ofNotation
  "([a-zA-Z][^\\t\\n\\r\\f />\\x00]*)(?:\\s|/(?!>))*"

def tagAttributePattern : Pattern := Pattern.ofNotation
  ("(?<=['\"\\s/])[^\\s/>][^\\s/=>]*(?:\\s*=+\\s*(?:'[^']*'|\"[^\"]*\"|(?!['\"])[^>\\s]*))?" ++
    "(?:\\s|/(?!>))*")

def closingPattern : Pattern := Pattern.ofNotation "</\\s*([a-zA-Z][-.a-zA-Z0-9:_]*)\\s*>"

def entityPattern : Pattern := Pattern.ofNotation "&([a-zA-Z][-.a-zA-Z0-9]*);"

def numberPattern : Pattern := Pattern.ofNotation
  "&#([0-9]+|[xX][0-9a-fA-F]+)[^0-9a-fA-F]"

def sectionEndPattern : Pattern := Pattern.ofNotation "\\]\\s*\\]\\s*>"

-- The length of an opening tag, unless the text ends inside it.
def openingLength? (s : Place) : Option Nat :=
  match tagPattern.matchAt s with
  | none => none
  | some t =>
    let size := t.offset - s.offset
    match t.rest with
    | '>' :: _ => some (size + 1)
    | '/' :: '>' :: _ => some (size + 2)
    | [] => none
    | c :: _ => if c = '/' || c = '=' || c.isAlpha then none else some size

-- The place behind the attributes that stand before an offset.
def skipAttributes (limit : Nat) : Nat → Place → Place
  | 0, s => s
  | fuel + 1, s =>
    if s.offset ≥ limit then s
    else match tagAttributePattern.matchAt s with
      | some t => if t.offset = s.offset then s else skipAttributes limit fuel t
      | none => s

-- What a step has made of the markup at a place: the number of characters it has taken, or none
-- when the markup is not complete.
abbrev Step := Extraction × Option Nat

def readOpening (x : Extraction) (s : Place) : Step :=
  match openingLength? s with
  | none => (x.handleText (s.rest.take 1), some 1)
  | some size =>
    let text := s.rest.take size
    let limit := s.offset + size
    match tagNamePattern.matchAt (s.advance 1) with
    | none => (x.handleText text, some size)
    | some t =>
      let tag := (Text.lower (String.ofList ((t.group? 1).getD []))).toList
      let after := skipAttributes limit (size + 1) t
      let ending := Text.trim (after.rest.take (limit - after.offset))
      if ending = ['/', '>'] then
        (handleAlone x s text (isBlockTag (String.ofList tag)), some size)
      else if ending = ['>'] then (handleOpening x s tag text, some size)
      else (x.handleText text, some size)

def lengthUpTo (c : Char) (cs : List Char) : Option Nat :=
  if cs.contains c then some ((cs.takeWhile (· ≠ c)).length + 1) else none

def readClosing (x : Extraction) (s : Place) : Step :=
  match lengthUpTo '>' s.rest with
  | none => (x, none)
  | some size =>
    let text := s.rest.take size
    match closingPattern.matchAt s with
    | some t =>
      let tag := (Text.lower (String.ofList ((t.group? 1).getD []))).toList
      if x.verbatim.any (· ≠ tag) then (x.handleText text, some size)
      else (handleClosing x s tag text, some size)
    | none =>
      if x.verbatim.isSome then (x.handleText text, some size)
      else match tagNamePattern.matchAt (s.advance 2) with
        | some t =>
          let tag := (Text.lower (String.ofList ((t.group? 1).getD []))).toList
          (handleClosing x s tag text, some size)
        | none =>
          if text = "</>".toList then (x, some 3)
          else (handleAlone x s text false, some size)

def readComment (x : Extraction) (s : Place) : Step :=
  match Text.cutAt ['-', '-', '>'] (s.rest.drop 4) with
  | some (inside, _) =>
    let text := s.rest.take (inside.length + 7)
    (handleAlone x s text true, some text.length)
  | none => (x.handleText ['<'], some 1)

def readInstruction (x : Extraction) (s : Place) : Step :=
  if atLineStart s || x.inTail then
    match Text.cutAt ['?', '>'] (s.rest.drop 2) with
    | some (inside, _) =>
      let text := s.rest.take (inside.length + 4)
      (handleAlone x s text true, some text.length)
    | none => (x, none)
  else (x.handleText ['<', '?'], some 2)

-- A declaration, a character data section, or anything else behind an exclamation mark.
def readDeclaration (x : Extraction) (s : Place) : Step :=
  if atLineStart s || x.inTail then
    let section_ := Text.startsWith "<![".toList s.rest
    if Text.startsWith "<![CDATA[".toList s.rest then
      match sectionEndPattern.search (s.advance 3) with
      | some (start, t) =>
        let inside := Pattern.between (s.advance 3) start
        let text := "<![".toList ++ inside ++ "]]>".toList
        (handleAlone x s text true, some (t.offset - s.offset))
      | none => (x, none)
    else
      match lengthUpTo '>' s.rest with
      | none => if section_ then (x.handleText ['<'], some 1) else (x, none)
      | some size =>
        let doctype := (s.rest.take 9).map Char.toLower = "<!doctype".toList
        (handleAlone x s (s.rest.take size) doctype, some size)
  else (x.handleText ['<', '!'], some 2)

-- The markup after an opening bracket.
def readMarkup (x : Extraction) (s : Place) : Step :=
  match s.rest with
  | '<' :: '/' :: _ => readClosing x s
  | '<' :: '!' :: '-' :: '-' :: _ => readComment x s
  | '<' :: '?' :: _ => readInstruction x s
  | '<' :: '!' :: _ => readDeclaration x s
  | '<' :: c :: _ => if c.isAlpha then readOpening x s else (x.handleText ['<'], some 1)
  | _ => (x, none)

-- How many characters of markup that is never completed count as text.
def brokenLength (cs : List Char) : Nat :=
  let rest := cs.drop 1
  match lengthUpTo '>' rest with
  | some size => size + 1
  | none =>
    match lengthUpTo '<' rest with
    | some size => size
    | none => 1

-- The text up to the next markup or reference, or up to the tag that closes verbatim text.
def plainLength (x : Extraction) (s : Place) : Option Nat :=
  match x.verbatim with
  | some tag =>
    let closing := Pattern.seq (Pattern.ofNotation "(?i)</\\s*")
      (Pattern.seq (Pattern.ofText tag) (Pattern.ofNotation "\\s*>"))
    (closing.search s).map fun (start, _) => start.offset - s.offset
  | none => some ((s.rest.takeWhile fun c => c ≠ '<' ∧ c ≠ '&').length)

-- Read on from a place. Markup that is not complete is tried once more with `final` set, and then
-- counts as text.
def scan : Nat → Bool → Extraction → Place → Extraction
  | 0, _, x, s => x.handleText s.rest
  | fuel + 1, final, x, s =>
    if s.rest.isEmpty then x
    else match plainLength x s with
      | none => if final then x.handleText s.rest else scan fuel true x s
      | some size =>
        let x := if size = 0 then x else x.handleText (s.rest.take size)
        let s := s.advance size
        match s.rest with
        | [] => x
        | '<' :: _ =>
          match readMarkup x s with
          | (x, some size) => scan fuel final x (s.advance size)
          | (x, none) =>
            if final then
              let size := brokenLength s.rest
              scan fuel final (x.handleText (s.rest.take size)) (s.advance size)
            else scan fuel true x s
        | '&' :: '#' :: _ =>
          match numberPattern.matchAt s with
          | some t =>
            let name := (t.group? 1).getD []
            let x := handleAlone x s ('&' :: '#' :: name ++ [';']) false
            let closed := (s.rest.drop (2 + name.length)).head? = some ';'
            scan fuel final x (s.advance (2 + name.length + if closed then 1 else 0))
          | none =>
            -- The rest is read afresh once; after that it is text.
            let (x, s) :=
              if s.rest.contains ';' then (x.handleText ['&', '#'], s.advance 2) else (x, s)
            if final then x.handleText s.rest else scan fuel true x s
        | _ =>
          match entityPattern.matchAt s with
          | some t =>
            let text := Pattern.between s t
            scan fuel final (handleAlone x s text false) (s.advance text.length)
          | none =>
            if s.rest.length > 1 then scan fuel final (x.handleText ['&']) (s.advance 1)
            else if final then x.handleText s.rest
            else scan fuel true x s

-- The source with marks for its raw blocks, and all raw blocks.
-- An element of a block of its own that starts a line is taken out with all that it holds. Inline
-- markup stays where it is.
def extract (raw : List String) (cs : List Char) : List String × List Char :=
  let x := scan (2 * cs.length + 4) false { raw } (Place.ofText cs)
  let x := if x.cache.isEmpty then x else
    { x.keep (rawMark x.raw.length) with raw := x.raw ++ [String.ofList x.cache.reverse] }
  (x.raw, x.kept.reverse)

end ApiPages.Markdown.RawHtml
