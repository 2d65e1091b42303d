import ApiPages.Pattern.Basic
import ApiPages.Text.Scan

namespace ApiPages

-- The characters that have a name, such as EM DASH.
class CharacterNames where
  find? : (name : String) → Option Char

@[reducible] def noCharacterNames : CharacterNames where
  find? _ := none

namespace Pattern

-- A character of a notation, or a backslash with the character behind it.
inductive Sign where
  | plain (c : Char)
  | escaped (c : Char)
  deriving DecidableEq

-- The signs of a notation, which no backslash ends.
def signs? : List Char → Option (List Sign)
  | [] => some []
  | ['\\'] => none
  | '\\' :: c :: rest => (signs? rest).map (.escaped c :: ·)
  | c :: rest => (signs? rest).map (.plain c :: ·)

-- The letters of the flags that hold.
abbrev Flags := List Char

namespace Flags

def isLetter (c : Char) : Bool := "aimstux".toList.contains c

-- The flags about the kind of characters, of which only one can be given.
def isType (c : Char) : Bool := c = 'a' || c = 'u'

def case (flags : Flags) : CaseRule :=
  if !flags.contains 'i' then .exact else if flags.contains 'a' then .ascii else .full

-- The flags inside of a group that adds some and takes some away.
def within (flags on off : Flags) : Flags :=
  let kept := if on.any isType then flags.filter (!isType ·) else flags
  (kept ++ on).filter (!off.contains ·)

end Flags

-- What has been read so far.
structure Reading where
  rest : List Sign
  -- The flags of the whole pattern.
  flags : Flags := []
  groups : Nat := 0
  names : List (List Char × Nat) := []
  -- The groups that are closed, with their widths.
  closed : List (Nat × Width) := []
  -- The greatest group number a condition refers to.
  conditions : Nat := 0
  -- The number of groups in front of the outermost looking behind that is being read.
  behind : Option Nat := none

abbrev Read := StateT Reading Option

def take? : Read (Option Sign) := do
  match (← get).rest with
  | [] => return none
  | sign :: rest => modify ({ · with rest }); return some sign

def takeOne : Read Sign := do
  match ← take? with
  | some sign => return sign
  | none => failure

def isAt (c : Char) : Read Bool := return (← get).rest.head? = some (.plain c)

-- Pass a character when it stands here.
def accept (c : Char) : Read Bool := do
  if ← isAt c then discard takeOne; return true else return false

def expect (c : Char) : Read Unit := do
  if !(← accept c) then failure

-- The characters, at most so many of them, that satisfy a test.
def takeWhile (p : Char → Bool) : Nat → Read (List Char)
  | 0 => return []
  | most + 1 => do
    match (← get).rest.head? with
    | some (.plain c) =>
      if p c then discard takeOne; return c :: (← takeWhile p most) else return []
    | _ => return []

-- Pass everything up to a mark and the mark; gives whether there is one.
def skipPast (mark : Char) : Read Bool := do
  match (← get).rest.dropWhile (· ≠ .plain mark) with
  | [] => modify ({ · with rest := [] }); return false
  | _ :: rest => modify ({ · with rest }); return true

-- A name up to a mark, which is passed. No name holds a backslash.
def takeName (mark : Char) : Read (List Char) := do
  let name ← takeWhile (· ≠ mark) (← get).rest.length
  expect mark
  if name.isEmpty then failure
  return name

def isOctal (c : Char) : Bool := '0' ≤ c && c ≤ '7'

def isGroupName (name : List Char) : Bool :=
  match name with
  | [] => false
  | c :: rest => Text.isNameStart c && rest.all Text.isNamePart

-- The class that a letter after a backslash names.
def classOf? (flags : Flags) (c : Char) : Option CharTest :=
  let pick (full ascii : CharTest) := if flags.contains 'a' then ascii else full
  match c with
  | 'd' => some (pick .digit .asciiDigit)
  | 'D' => some (.outside (pick .digit .asciiDigit))
  | 's' => some (pick .blank .asciiBlank)
  | 'S' => some (.outside (pick .blank .asciiBlank))
  | 'w' => some (pick .word .asciiWord)
  | 'W' => some (.outside (pick .word .asciiWord))
  | _ => none

def controlOf? : Char → Option Char
  | 'a' => some '\x07'
  | 'f' => some '\x0c'
  | 'n' => some '\n'
  | 'r' => some '\r'
  | 't' => some '\t'
  | 'v' => some '\x0b'
  | '\\' => some '\\'
  | _ => none

def takeCode (digits : Nat) : Read Nat := do
  let found ← takeWhile Text.isHex digits
  if found.length ≠ digits then failure
  return Text.numeral 16 found

-- The code of a character behind a backslash that is written by its number or its name, or that
-- stands for itself. Beyond the last character there are no codes.
def literalEscape [CharacterNames] (c : Char) : Read Nat := do
  match c with
  | 'x' => takeCode 2
  | 'u' => takeCode 4
  | 'U' =>
    let code ← takeCode 8
    if code > 0x10ffff then failure
    return code
  | 'N' =>
    expect '\x7b'
    match CharacterNames.find? (String.ofList (← takeName '\x7d')) with
    | some named => return named.toNat
    | none => failure
  | c => if c.isAlpha then failure else return c.toNat

def plainSet (flags : Flags) (test : CharTest) : Pattern :=
  one { tests := [test], case := flags.case }

-- A reference to a group. It has to be closed, and looking behind it has to lie in front of that.
def checkBehind (index : Nat) : Read Unit := do
  let reading ← get
  match reading.behind with
  | none => return
  | some groups =>
    if (reading.closed.lookup index).isNone || index > groups then failure

def reference (flags : Flags) (index : Nat) : Read Pattern := do
  if ((← get).closed.lookup index).isNone then failure
  checkBehind index
  return again index flags.case

-- What a backslash introduces outside a set.
def readEscape [CharacterNames] (flags : Flags) (c : Char) : Read Pattern := do
  match c with
  | 'A' => return textStart
  | 'Z' => return textEnd
  | 'b' => return wordEdge (flags.contains 'a') false
  | 'B' => return wordEdge (flags.contains 'a') true
  | _ =>
    if let some test := classOf? flags c then return plainSet flags test
    if let some d := controlOf? c then return plainSet flags (.char d)
    if c = '0' then
      return plainSet flags (.code (Text.numeral 8 (← takeWhile isOctal 2)))
    if c.isDigit then
      let second ← takeWhile Char.isDigit 1
      let third ← if isOctal c && second.any isOctal then takeWhile isOctal 1 else pure []
      if third.isEmpty then return ← reference flags (Text.numeral 10 (c :: second))
      let code := Text.numeral 8 (c :: second ++ third)
      if code > 0o377 then failure
      return plainSet flags (.code code)
    return plainSet flags (.code (← literalEscape c))

-- What a backslash introduces inside a set.
def readSetEscape [CharacterNames] (flags : Flags) (c : Char) : Read CharTest := do
  if c = 'b' then return .char '\x08'
  if let some test := classOf? flags c then return test
  if let some d := controlOf? c then return .char d
  if isOctal c then
    let code := Text.numeral 8 (c :: (← takeWhile isOctal 2))
    if code > 0o377 then failure
    return .code code
  if c.isDigit then failure
  return .code (← literalEscape c)

def readSetItem [CharacterNames] (flags : Flags) : Sign → Read CharTest
  | .plain c => return .char c
  | .escaped c => readSetEscape flags c

-- The items of a set up to its closing bracket, which stands for itself as the first item.
def readSetItems [CharacterNames] (flags : Flags) : Nat → List CharTest → Read (List CharTest)
  | 0, _ => failure
  | fuel + 1, tests => do
    let sign ← takeOne
    if sign = .plain ']' && !tests.isEmpty then return tests.reverse
    let first ← readSetItem flags sign
    if ← accept '-' then
      let sign ← takeOne
      if sign = .plain ']' then return (.char '-' :: first :: tests).reverse
      match first, ← readSetItem flags sign with
      | .code a, .code b =>
        if b < a then failure
        readSetItems flags fuel (.range a b :: tests)
      | _, _ => failure
    else readSetItems flags fuel (first :: tests)

def readSet [CharacterNames] (flags : Flags) : Read Pattern := do
  let negated ← accept '^'
  let tests ← readSetItems flags ((← get).rest.length + 1) []
  return one { tests, negated, case := flags.case }

-- Bounds beyond this are refused.
def repeatLimit : Nat := 0xffffffff

def takeDigits : Read (List Char) := do takeWhile Char.isDigit (← get).rest.length

-- The bounds of a repetition in braces; text that writes no bounds stands for itself.
def readBounds : Read (Option (Nat × Option Nat)) := do
  let start ← get
  if ← isAt '\x7d' then return none
  let least ← takeDigits
  let most ← if ← accept ',' then takeDigits else pure least
  if ← accept '\x7d' then
    let low := Text.numeral 10 least
    let high := if most.isEmpty then none else some (Text.numeral 10 most)
    if low ≥ repeatLimit || high.any fun high => high ≥ repeatLimit || high < low then failure
    return some (low, high)
  else
    set start
    return none

-- The bounds that a repetition sign stands for.
def readRepetition (sign : Char) : Read (Option (Nat × Option Nat)) :=
  match sign with
  | '*' => return some (0, none)
  | '+' => return some (1, none)
  | '?' => return some (0, some 1)
  | _ => readBounds

-- A repetition takes as much as it can, unless a sign behind it says that it takes as little as it can
-- or that it gives nothing back.
def readManner (body : Pattern) (least : Nat) (most : Option Nat) : Read Pattern := do
  if ← accept '?' then return repeated body least most false
  if ← accept '+' then return atomic (repeated body least most true)
  return repeated body least most true

-- Flags for the whole pattern, or those that a group adds and takes away.
inductive FlagGroup where
  | whole (flags : Flags)
  | part (on off : Flags)

-- Flags for the whole pattern are closed by a bracket, those of a group by a colon.
def readFlags (first : Char) : Read FlagGroup := do
  let letters ← takeWhile Flags.isLetter (← get).rest.length
  let on := if first = '-' then [] else first :: letters
  if on.contains 'a' && on.contains 'u' then failure
  if first ≠ '-' then
    if ← accept ')' then return .whole on
    -- This one holds for the whole pattern or not at all.
    if on.contains 't' then failure
    if ← accept ':' then return .part on []
    expect '-'
  let off ← if first = '-' then pure letters
    else takeWhile Flags.isLetter (← get).rest.length
  expect ':'
  if off.isEmpty || off.any fun c => Flags.isType c || c = 't' || on.contains c then failure
  return .part on off

def openGroup (name : Option (List Char)) : Read Nat := do
  let index := (← get).groups + 1
  if let some name := name then
    if !isGroupName name || ((← get).names.lookup name).isSome then failure
    modify fun s => { s with names := (name, index) :: s.names }
  modify ({ · with groups := index })
  return index

def widthOf (reading : Reading) (index : Nat) : Width := (reading.closed.lookup index).getD {}

def closeGroup (index : Nat) (body : Pattern) : Read Pattern := do
  modify fun s => { s with closed := (index, body.width (widthOf s)) :: s.closed }
  return group index body

-- A number as it may be written for a group: with blanks around it, a sign in front and low lines
-- between its digits, which may be those of any script.
def groupNumber? (name : List Char) : Option Nat :=
  let digits := match Text.trim name with
    | '+' :: digits => digits
    | digits => digits
  let places := Text.splitOnChar '_' digits
  if places.all fun place => !place.isEmpty && place.all Text.isDigit then
    some (Text.numeral 10 (places.flatten.map Text.asciiDigit))
  else none

-- The group that a condition asks for, by name or by number.
def conditionGroup (name : List Char) : Read Nat := do
  if isGroupName name then
    match (← get).names.lookup name with
    | some index => return index
    | none => failure
  else
    match groupNumber? name with
    | none | some 0 => failure
    | some index =>
      modify fun s => { s with conditions := max s.conditions index }
      return index

-- Whether an item can be repeated.
inductive Item where
  | plain
  | anchor
  | repetition
  deriving DecidableEq

def isAnchor : Pattern → Bool
  | textStart | textEnd | wordEdge .. => true
  | _ => false

-- The white space that does not count in a spaced pattern.
def isSpace (c : Char) : Bool := c = ' ' || ('\t' ≤ c && c ≤ '\r')

mutual

-- Alternatives inside of a group, with the bracket that closes it.
def readGroup [CharacterNames] (flags : Flags) : Nat → Read Pattern
  | 0 => failure
  | fuel + 1 => do
    let first ← readSequence flags false fuel empty none
    if ← accept '|' then return either first (← readGroup flags fuel)
    expect ')'
    return first

-- The rest of a sequence after `done`, whose last item is kept apart since it may be repeated. At the
-- start of the whole pattern there may be flags.
def readSequence [CharacterNames] (flags : Flags) (start : Bool) :
    Nat → Pattern → Option (Pattern × Item) → Read Pattern
  | 0, _, _ => failure
  | fuel + 1, done, last => do
    let whole := match last with
      | some (p, _) => seq done p
      | none => done
    let append (p : Pattern) (item : Item) := readSequence flags false fuel whole (some (p, item))
    if (← isAt '|') || (← isAt ')') then return whole
    match ← take? with
    | none => return whole
    | some (.escaped c) =>
      let p ← readEscape flags c
      append p (if isAnchor p then .anchor else .plain)
    | some (.plain c) =>
      if flags.contains 'x' && (isSpace c || c = '#') then
        if c = '#' then discard (skipPast '\n')
        readSequence flags start fuel done last
      else match c with
      | '[' => append (← readSet flags) .plain
      | '.' =>
        let tests := if flags.contains 's' then [] else [.char '\n']
        append (one { tests, negated := true }) .plain
      | '^' => append (if flags.contains 'm' then lineStart else textStart) .anchor
      | '$' => append (if flags.contains 'm' then lineEnd else lastLineEnd) .anchor
      | '(' =>
        if ← accept '?' then
          match ← takeOne with
          | .escaped _ => failure
          | .plain ':' => append (← readGroup flags fuel) .plain
          | .plain '>' => append (atomic (← readGroup flags fuel)) .plain
          | .plain '#' =>
            if ← skipPast ')' then readSequence flags start fuel done last else failure
          | .plain '=' => append (ahead false (← readGroup flags fuel)) .plain
          | .plain '!' => append (ahead true (← readGroup flags fuel)) .plain
          | .plain '<' =>
            let negated ← match ← takeOne with
              | .plain '=' => pure false
              | .plain '!' => pure true
              | _ => failure
            let outer := (← get).behind
            modify fun s => { s with behind := some (outer.getD s.groups) }
            let p ← readGroup flags fuel
            modify ({ · with behind := outer })
            match (p.width (widthOf (← get))).fixed? with
            | some width => append (behind negated width p) .plain
            | none => failure
          | .plain '(' =>
            let index ← conditionGroup (← takeName ')')
            checkBehind index
            let yes ← readSequence flags false fuel empty none
            let no ← if ← accept '|' then readSequence flags false fuel empty none else pure empty
            expect ')'
            append (ifGroup index yes no) .plain
          | .plain 'P' =>
            if ← accept '<' then
              let index ← openGroup (some (← takeName '>'))
              append (← closeGroup index (← readGroup flags fuel)) .plain
            else
              expect '='
              match (← get).names.lookup (← takeName ')') with
              | some index => append (← reference flags index) .plain
              | none => failure
          | .plain c =>
            if c ≠ '-' && !Flags.isLetter c then failure
            match ← readFlags c with
            | .part on off => append (← readGroup (flags.within on off) fuel) .plain
            | .whole on =>
              if !start then failure
              modify fun s => { s with flags := s.flags ++ on }
              readSequence (flags ++ on) true fuel done last
        else
          let index ← openGroup none
          append (← closeGroup index (← readGroup flags fuel)) .plain
      | c =>
        if !(['*', '+', '?', '\x7b'].contains c) then append (plainSet flags (.char c)) .plain
        else match ← readRepetition c with
        | none => append (plainSet flags (.char c)) .plain
        | some (least, most) =>
          match last with
          | some (p, .plain) =>
            if flags.contains 't' then failure
            let item ← readManner p least most
            readSequence flags false fuel done (some (item, .repetition))
          | _ => failure

end

-- The alternatives of the whole pattern. The flags at its start hold in all of them.
def readAlternatives [CharacterNames] (start : Bool) : Nat → Read Pattern
  | 0 => failure
  | fuel + 1 => do
    let first ← readSequence (← get).flags start fuel empty none
    if ← accept '|' then return either first (← readAlternatives false fuel)
    return first

-- The pattern a text writes, with the number of its groups.
def read? [CharacterNames] (s : String) : Option (Pattern × Nat) := do
  let signs ← signs? s.toList
  let (p, reading) ← (readAlternatives true (3 * signs.length + 3)).run { rest := signs }
  if !reading.rest.isEmpty || reading.conditions > reading.groups then none
  if reading.flags.contains 'a' && reading.flags.contains 'u' then none
  return (p, reading.groups)

-- A pattern that the library itself writes.
def ofNotation (s : String) : Pattern := (@read? noCharacterNames s).elim never (·.1)

end Pattern

end ApiPages
