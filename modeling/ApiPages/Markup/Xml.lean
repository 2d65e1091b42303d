import ApiPages.Markup.Tree
import ApiPages.Markup.Entity
import ApiPages.Text.Lower

namespace ApiPages.Xml

-- Characters that XML text may hold.
def isXmlChar (c : Char) : Bool :=
  c = '\t' || c = '\n' || c = '\r' || (c.val ≥ 0x20 && c.val ≠ 0xfffe && c.val ≠ 0xffff)

def isSpace (c : Char) : Bool := c = ' ' || c = '\t' || c = '\n' || c = '\r'

def isNameStart (c : Char) : Bool :=
  if c.val < 128 then c.isAlpha || c = '_' || c = ':' else Text.isLetter c

def isNameChar (c : Char) : Bool :=
  isNameStart c || c.isDigit || c = '-' || c = '.' || c.val = 0xb7 ||
    (c.val ≥ 128 && (Text.isMark c || Text.isDigit c))

-- A name and the rest.
def readName? (cs : List Char) : Option (List Char × List Char) :=
  match cs with
  | c :: _ => if isNameStart c then some (cs.takeWhile isNameChar, cs.dropWhile isNameChar) else none
  | [] => none

-- The character that a reference after an ampersand stands for, and the rest.
def readReference? (cs : List Char) : Option (Char × List Char) :=
  let finish (code : Nat) (digits rest : List Char) : Option (Char × List Char) :=
    match rest with
    | ';' :: rest =>
      if digits.isEmpty || !code.isValidChar || !isXmlChar (Char.ofNat code) then none
      else some (Char.ofNat code, rest)
    | _ => none
  match cs with
  | '#' :: 'x' :: rest =>
    let digits := rest.takeWhile Text.isHex
    finish (Text.numeral 16 digits) digits (rest.drop digits.length)
  | '#' :: rest =>
    let digits := rest.takeWhile Char.isDigit
    finish (Text.numeral 10 digits) digits (rest.drop digits.length)
  | _ =>
    [("amp;", '&'), ("lt;", '<'), ("gt;", '>'), ("quot;", '"'), ("apos;", '\'')].findSome?
      fun (name, c) => (Text.dropStart? name.toList cs).map (c, ·)

-- An attribute value up to its closing quote; blanks in it become spaces.
def readValue? (quote : Char) : Nat → List Char → List Char → Option (List Char × List Char)
  | 0, _, _ => none
  | fuel + 1, acc, cs =>
    match cs with
    | [] => none
    | '&' :: rest => do
      let (c, rest) ← readReference? rest
      readValue? quote fuel (c :: acc) rest
    | c :: rest =>
      if c = quote then some (acc.reverse, rest)
      else if c = '<' || !isXmlChar c then none
      else readValue? quote fuel ((if isSpace c then ' ' else c) :: acc) rest

-- Attributes up to the end of a tag.
def readAttributes? : Nat → List (List Char × List Char) → List Char →
    Option (List (List Char × List Char) × List Char)
  | 0, _, _ => none
  | fuel + 1, acc, cs =>
    let rest := cs.dropWhile isSpace
    match rest with
    | '>' :: _ => some (acc.reverse, rest)
    | '/' :: _ => some (acc.reverse, rest)
    | _ =>
      if rest.length = cs.length then none
      else do
        let (name, rest) ← readName? rest
        match rest.dropWhile isSpace with
        | '=' :: rest =>
          match rest.dropWhile isSpace with
          | quote :: rest =>
            if quote ≠ '"' ∧ quote ≠ '\'' then none
            else
              let (value, rest) ← readValue? quote (rest.length + 1) [] rest
              if (acc.lookup name).isSome then none
              else readAttributes? fuel ((name, value) :: acc) rest
          | [] => none
        | _ => none

-- The namespaces in force, by their prefixes; the empty one is for elements without a prefix.
abbrev Spaces := List (List Char × List Char)

def xmlSpace : List Char := "http://www.w3.org/XML/1998/namespace".toList

def declaredSpaces (attributes : List (List Char × List Char)) : Spaces :=
  attributes.filterMap fun (name, value) =>
    if name = "xmlns".toList then some ([], value)
    else (Text.dropStart? "xmlns:".toList name).map fun p => (p, value)

def isDeclaration (name : List Char) : Bool :=
  name = "xmlns".toList || Text.startsWith "xmlns:".toList name

-- A name with its namespace written out; a prefix has to be declared.
def expand? (spaces : Spaces) (ofElement : Bool) (name : List Char) : Option (List Char) :=
  let within (space local_ : List Char) : List Char :=
    if space.isEmpty then local_ else '{' :: space ++ '}' :: local_
  match Text.cutAt [':'] name with
  | some (p, local_) =>
    if p.isEmpty || local_.isEmpty then none
    else if p = "xml".toList then some (within xmlSpace local_)
    else (spaces.lookup p).bind fun space =>
      if space.isEmpty then none else some (within space local_)
  | none =>
    if ofElement then some (within ((spaces.lookup []).getD []) name) else some name

-- Text up to the next tag.
def readText? : Nat → List Char → List Char → Option (List Char × List Char)
  | 0, _, _ => none
  | fuel + 1, acc, cs =>
    match cs with
    | [] => some (acc.reverse, [])
    | '<' :: _ => some (acc.reverse, cs)
    | ']' :: ']' :: '>' :: _ => none
    | '&' :: rest => do
      let (c, rest) ← readReference? rest
      readText? fuel (c :: acc) rest
    | '\r' :: '\n' :: rest => readText? fuel ('\n' :: acc) rest
    | '\r' :: rest => readText? fuel ('\n' :: acc) rest
    | c :: rest => if isXmlChar c then readText? fuel (c :: acc) rest else none

-- A comment after its opening, which holds no two hyphens in a row.
def skipComment? (cs : List Char) : Option (List Char) := do
  let (inside, rest) ← Text.cutAt ['-', '-'] cs
  match rest with
  | '>' :: rest => if inside.all isXmlChar then some rest else none
  | _ => none

-- An instruction after its opening; the name of the declaration is reserved.
def skipInstruction? (cs : List Char) : Option (List Char) := do
  let (name, rest) ← readName? cs
  if Text.lower (String.ofList name) = "xml" then none
  if Text.startsWith ['?', '>'] rest then return rest.drop 2
  if !(rest.head?.any isSpace) then none
  let (inside, rest) ← Text.cutAt ['?', '>'] rest
  if inside.all isXmlChar then return rest else none

mutual

-- An element after the bracket that opens it.
def readElement? : Nat → Spaces → List Char → Option (Tree × List Char)
  | 0, _, _ => none
  | fuel + 1, spaces, cs => do
    let (name, rest) ← readName? cs
    let (attributes, rest) ← readAttributes? (rest.length + 1) [] rest
    let spaces := declaredSpaces attributes ++ spaces
    let tag ← expand? spaces true name
    let kept ← (attributes.filter fun (key, _) => !isDeclaration key).mapM fun (key, value) => do
      return (String.ofList (← expand? spaces false key), String.ofList value)
    if (kept.map (·.1)).eraseDups.length ≠ kept.length then none
    let empty : Tree := { tag := String.ofList tag, attributes := kept }
    match rest with
    | '/' :: '>' :: rest => return (empty, rest)
    | '>' :: rest =>
      let (t, rest) ← readContent? fuel spaces empty rest
      let rest ← Text.dropStart? name rest
      match rest.dropWhile isSpace with
      | '>' :: rest => return (t, rest)
      | _ => none
    | _ => none

-- What an element holds, up to the name in its closing tag.
def readContent? : Nat → Spaces → Tree → List Char → Option (Tree × List Char)
  | 0, _, _, _ => none
  | fuel + 1, spaces, t, cs => do
    let (text, rest) ← readText? (cs.length + 1) [] cs
    let t := t.addText (String.ofList text)
    match rest with
    | '<' :: '/' :: rest => return (t, rest)
    | '<' :: '!' :: '-' :: '-' :: rest => readContent? fuel spaces t (← skipComment? rest)
    | '<' :: '?' :: rest => readContent? fuel spaces t (← skipInstruction? rest)
    | '<' :: '!' :: rest =>
      let rest ← Text.dropStart? "[CDATA[".toList rest
      let (inside, rest) ← Text.cutAt [']', ']', '>'] rest
      if inside.all isXmlChar then
        readContent? fuel spaces (t.addText (String.ofList (Text.unifyLineEnds inside))) rest
      else none
    | '<' :: rest =>
      let (child, rest) ← readElement? fuel spaces rest
      readContent? fuel spaces (t.addChild child) rest
    | _ => none

end

-- The content of a text, held by one element.
-- Comments and instructions are passed over, and anything ill-formed is refused.
def readFragment? (s : String) : Option Tree := do
  let text := "div>".toList ++ s.toList ++ "</div>".toList
  let (t, rest) ← readElement? (text.length + 1) [] text
  if rest.isEmpty then some t else none

end ApiPages.Xml
