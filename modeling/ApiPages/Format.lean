import ApiPages.Fault

namespace ApiPages

namespace Format

-- A value to fill in; a missing one has a text of its own but no length or width.
abbrev Value := Option String

structure Field where
  name : List Char
  conversion : Option Char
  spec : List Char

inductive Piece where
  | literal (text : List Char)
  | field (field : Field)

-- How the fields seen so far name their places.
inductive Numbering where
  | unknown
  | given
  | counted (next : Nat)

def malformed {α : Type} : Except Fault α := .error (.format .malformed)

-- The name of a field up to a mark or the closing brace; brackets hide marks.
def readName : Nat → List Char → List Char → Except Fault (List Char × Char × List Char)
  | 0, _, _ => malformed
  | fuel + 1, acc, cs =>
    match cs with
    | [] => malformed
    | '{' :: _ => malformed
    | '[' :: rest =>
      let inside := rest.takeWhile (· ≠ ']')
      readName fuel (inside.reverse ++ '[' :: acc) (rest.dropWhile (· ≠ ']'))
    | c :: rest =>
      if c = '}' || c = ':' || c = '!' then .ok (acc.reverse, c, rest)
      else readName fuel (c :: acc) rest

-- A specification up to the brace that closes its field; it may hold fields of its own.
def readSpec (depth : Nat) (acc : List Char) : List Char → Except Fault (List Char × List Char)
  | [] => malformed
  | '{' :: rest => readSpec (depth + 1) ('{' :: acc) rest
  | '}' :: rest =>
    match depth with
    | 0 => .ok (acc.reverse, rest)
    | depth + 1 => readSpec depth ('}' :: acc) rest
  | c :: rest => readSpec depth (c :: acc) rest

-- A field names a text by its place, or takes the next one, and may ask for quotes and for a width.
def readField (cs : List Char) : Except Fault (Field × List Char) := do
  let (name, mark, rest) ← readName (cs.length + 1) [] cs
  match mark with
  | '}' => return (⟨name, none, []⟩, rest)
  | ':' =>
    let (spec, rest) ← readSpec 0 [] rest
    return (⟨name, none, spec⟩, rest)
  | _ =>
    match rest with
    | [] => malformed
    | c :: '}' :: rest => return (⟨name, some c, []⟩, rest)
    | c :: ':' :: rest =>
      let (spec, rest) ← readSpec 0 [] rest
      return (⟨name, some c, spec⟩, rest)
    | _ => malformed

-- The first piece of a format and the rest.
def readPiece (cs : List Char) : Except Fault (Piece × List Char) :=
  match cs with
  | '{' :: '{' :: rest => .ok (.literal ['{'], rest)
  | '}' :: '}' :: rest => .ok (.literal ['}'], rest)
  | '}' :: _ => malformed
  | '{' :: [] => malformed
  | '{' :: rest => do
    let (field, rest) ← readField rest
    return (.field field, rest)
  | cs =>
    let isBrace (c : Char) : Bool := c = '{' || c = '}'
    .ok (.literal (cs.takeWhile (!isBrace ·)), cs.dropWhile (!isBrace ·))

def isAlignment (c : Char) : Bool := c = '<' || c = '>' || c = '=' || c = '^'

-- Lay a text out as a specification asks: cut to a precision, then filled up to a width.
def layOut (spec text : List Char) : Except Fault (List Char) := do
  let (fill, align, rest) := match spec with
    | f :: a :: rest =>
      if isAlignment a then (some f, some a, rest)
      else if isAlignment f then (none, some f, a :: rest)
      else (none, none, spec)
    | [a] => if isAlignment a then (none, some a, []) else (none, none, spec)
    | [] => (none, none, [])
  let (fill, rest) := match fill, rest with
    | none, '0' :: rest => (some '0', rest)
    | fill, rest => (fill, rest)
  let width := Text.numeral 10 (rest.takeWhile Char.isDigit)
  let rest := rest.dropWhile Char.isDigit
  let (precision, rest) ← match rest with
    | '.' :: rest =>
      let digits := rest.takeWhile Char.isDigit
      if digits.isEmpty then malformed
      else pure (some (Text.numeral 10 digits), rest.dropWhile Char.isDigit)
    | rest => pure (none, rest)
  if rest ≠ [] ∧ rest ≠ ['s'] then malformed
  if align = some '=' then malformed
  let text := match precision with
    | some n => text.take n
    | none => text
  let missing := width - text.length
  let pad (n : Nat) := List.replicate n (fill.getD ' ')
  match align with
  | some '>' => return pad missing ++ text
  | some '^' => return pad (missing / 2) ++ text ++ pad (missing - missing / 2)
  | _ => return text ++ pad missing

-- Quotes with every character outside ASCII written by its code.
def asciiQuoted (s : String) : List Char :=
  (Text.quotedChars s.toList).flatMap fun c =>
    if c.val < 0x80 then [c]
    else if c.toNat < 0x100 then '\\' :: 'x' :: Text.hexText 2 c.toNat
    else if c.toNat < 0x10000 then '\\' :: 'u' :: Text.hexText 4 c.toNat
    else '\\' :: 'U' :: Text.hexText 8 c.toNat

def missingText : String := Json.null.plain

-- The text of a value after its conversion, and whether the value itself is still laid out.
def convert (conversion : Option Char) (value : Value) : Except Fault (List Char × Bool) :=
  match conversion, value with
  | none, some s => .ok (s.toList, true)
  | none, none => .ok (missingText.toList, false)
  | some 's', value => .ok ((value.getD missingText).toList, true)
  | some 'r', some s => .ok (Text.quotedChars s.toList, true)
  | some 'a', some s => .ok (asciiQuoted s, true)
  | some 'r', none => .ok (missingText.toList, true)
  | some 'a', none => .ok (missingText.toList, true)
  | some _, _ => malformed

-- One character of a text, or an attribute, neither of which a missing value has.
def readPath (value : Value) : Nat → List Char → Except Fault Value
  | _, [] => .ok value
  | 0, _ => malformed
  | _ + 1, '.' :: rest =>
    let name := rest.takeWhile fun c => c ≠ '.' ∧ c ≠ '['
    if name.isEmpty then malformed
    else .error (.format .noSuchAttribute)
  | fuel + 1, '[' :: rest =>
    let key := rest.takeWhile (· ≠ ']')
    match rest.dropWhile (· ≠ ']') with
    | [] => malformed
    | _ :: rest =>
      if key.isEmpty then malformed
      else match value with
        | none => .error (.format .unsupported)
        | some s =>
          if key.all Char.isDigit then
            match s.toList[Text.numeral 10 key]? with
            | some c => readPath (some (String.singleton c)) fuel rest
            | none => .error (.format .noSuchPosition)
          else .error (.format .unsupported)
  | _, _ => malformed

-- The value a field names; places are either all given or all counted.
def select (values : List Value) (numbering : Numbering) (name : List Char) :
    Except Fault (Value × Numbering) := do
  let isMark (c : Char) : Bool := c = '.' || c = '['
  let first := name.takeWhile (!isMark ·)
  let path := name.dropWhile (!isMark ·)
  let (index, numbering) ←
    if first.isEmpty then
      match numbering with
      | .given => malformed
      | .unknown => pure (0, .counted 1)
      | .counted next => pure (next, .counted (next + 1))
    else if first.all Char.isDigit then
      match numbering with
      | .counted _ => malformed
      | _ => pure (Text.numeral 10 first, .given)
    else throw (.format .noSuchName)
  match values[index]? with
  | none => throw (.format .noSuchPosition)
  | some value => return (← readPath value (path.length + 1) path, numbering)

-- Fill a format whose specifications may hold fields down to a depth.
def fillFrom (values : List Value) : Nat → Nat → Numbering → List Char →
    Except Fault (List Char × Numbering)
  | _, _, numbering, [] => .ok ([], numbering)
  | _, 0, _, _ => malformed
  | depth, fuel + 1, numbering, cs => do
    let (piece, rest) ← readPiece cs
    match piece with
    | .literal text =>
      let (after, numbering) ← fillFrom values depth fuel numbering rest
      return (text ++ after, numbering)
    | .field field =>
      let (value, numbering) ← select values numbering field.name
      let (text, plain) ← convert field.conversion value
      let (spec, numbering) ←
        if field.spec.contains '{' || field.spec.contains '}' then
          match depth with
          | 0 => malformed
          | depth + 1 => fillFrom values depth fuel numbering field.spec
        else pure (field.spec, numbering)
      let text ←
        if spec.isEmpty then pure text
        else if plain then layOut spec text
        else throw (.format .unsupported)
      let (after, numbering) ← fillFrom values depth fuel numbering rest
      return (text ++ after, numbering)

def fill (format : String) (values : List Value) : Except Fault String := do
  let cs := format.toList
  let (text, _) ← fillFrom values 1 (cs.length + 1) .unknown cs
  return String.ofList text

end Format

end ApiPages
