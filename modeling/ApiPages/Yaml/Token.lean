import ApiPages.Text.Scan

namespace ApiPages.Yaml

inductive Token where
  | version (major : Nat)
  | handle (name meaning : String)
  | otherDirective
  | documentStart
  | documentEnd
  | blockList
  | blockMapping
  | blockEnd
  | flowListStart
  | flowListEnd
  | flowMappingStart
  | flowMappingEnd
  | item
  | comma
  | key
  | value
  | alias (name : String)
  | anchor (name : String)
  | tag (handle : Option String) (name : String)
  | scalar (text : String) (plain : Bool)
  deriving DecidableEq, Repr

-- A place where a key may have begun.
structure Candidate where
  -- The number of tokens before it.
  tokens : Nat
  required : Bool
  offset : Nat
  line : Nat
  column : Nat

structure Scan where
  rest : List Char
  offset : Nat := 0
  line : Nat := 0
  column : Nat := 0
  -- How many flow collections are open.
  flow : Nat := 0
  -- The column of the innermost block; none outside of all blocks.
  indent : Option Nat := none
  indents : List (Option Nat) := []
  keyAllowed : Bool := true
  -- At most one candidate for each depth of flow collections.
  candidates : List (Nat × Candidate) := []
  tokens : Array Token := #[]

-- Reading tokens; a text that breaks a rule is refused as a whole.
abbrev Scanner := StateT Scan Option

namespace Scanner

def isBreak (c : Char) : Bool :=
  c = '\n' || c = '\r' || c = '\x85' || c = '\u2028' || c = '\u2029'

def isSpaceOrBreak (c : Char) : Bool := c = ' ' || c = '\t' || isBreak c

def peek (k : Nat := 0) : Scanner (Option Char) := return (← get).rest[k]?

-- Whether the character at a distance satisfies a test; the end of the text does.
def endsAt (k : Nat) (p : Char → Bool) : Scanner Bool := return (← peek k).all p

def step : Scanner Unit :=
  modify fun s => match s.rest with
    | [] => s
    | c :: rest =>
      let s := { s with rest, offset := s.offset + 1 }
      if isBreak c && !(c = '\r' && rest.head? = some '\n') then
        { s with line := s.line + 1, column := 0 }
      else if c = '\ufeff' then s
      else { s with column := s.column + 1 }

def skip : Nat → Scanner Unit
  | 0 => return
  | k + 1 => do step; skip k

def push (token : Token) : Scanner Unit := modify fun s => { s with tokens := s.tokens.push token }

-- The next characters that satisfy a test, which are passed.
def takeWhile (p : Char → Bool) : Scanner (List Char) := do
  let found := (← get).rest.takeWhile p
  skip found.length
  return found

-- A line end, which reads as a line feed unless it is a separator.
def lineBreak? : Scanner (List Char) := do
  match (← get).rest with
  | '\r' :: '\n' :: _ => skip 2; return ['\n']
  | c :: _ =>
    if c = '\u2028' || c = '\u2029' then skip 1; return [c]
    else if isBreak c then skip 1; return ['\n']
    else return []
  | [] => return []

-- Whether a document mark stands here.
def atMark (mark : String) : Scanner Bool := do
  return Text.startsWith mark.toList (← get).rest && (← endsAt 3 isSpaceOrBreak)

def dropCandidate (flow : Nat) : Scanner Unit :=
  modify fun s => { s with candidates := s.candidates.filter (·.1 ≠ flow) }

-- Give up the candidate at this depth.
def giveUpCandidate : Scanner Unit := do
  let s ← get
  match s.candidates.lookup s.flow with
  | some candidate => if candidate.required then failure else dropCandidate s.flow
  | none => return

def saveCandidate : Scanner Unit := do
  let s ← get
  if s.keyAllowed then
    giveUpCandidate
    let candidate : Candidate :=
      { tokens := s.tokens.size, required := s.flow = 0 && s.indent = some s.column,
        offset := s.offset, line := s.line, column := s.column }
    modify fun s => { s with candidates := (s.flow, candidate) :: s.candidates }

def keyLimit : Nat := 1024

-- A key ends on its line.
def dropStale : Scanner Unit := do
  let s ← get
  let isStale (candidate : Candidate) : Bool :=
    candidate.line ≠ s.line || s.offset - candidate.offset > keyLimit
  if s.candidates.any fun (_, candidate) => isStale candidate && candidate.required then failure
  set { s with candidates := s.candidates.filter fun (_, candidate) => !isStale candidate }

def allowKey (allowed : Bool) : Scanner Unit := modify ({ · with keyAllowed := allowed })

-- Close the blocks that are indented further than a column.
def closeBlocks (column : Option Nat) : Scanner Unit := do
  let s ← get
  if s.flow = 0 then
    for _ in s.indents do
      let s ← get
      let deeper : Bool := match s.indent, column with
        | some indent, some column => decide (indent > column)
        | some _, none => true
        | none, _ => false
      if deeper then
        set { s with indent := s.indents.headD none, indents := s.indents.drop 1,
                     tokens := s.tokens.push .blockEnd }

-- Open a block at a column, if it is indented further.
def openBlock (column : Nat) : Scanner Bool := do
  let s ← get
  if s.indent.all (· < column) then
    set { s with indent := some column, indents := s.indent :: s.indents }
    return true
  return false

def insertToken (place : Nat) (token : Token) : Scanner Unit :=
  modify fun s =>
    { s with tokens := (s.tokens.toList.take place ++ token :: s.tokens.toList.drop place).toArray }

-- Blanks inside a plain scalar; none when a document mark ends it.
def plainSpaces : Scanner (List Char) := do
  let blanks ← takeWhile (· = ' ')
  if (← peek).any isBreak then
    let first ← lineBreak?
    allowKey true
    if (← atMark "---") || (← atMark "...") then return []
    let rec breaks : Nat → List Char → Scanner (Option (List Char))
      | 0, found => return some found
      | fuel + 1, found => do
        match ← peek with
        | some ' ' => step; breaks fuel found
        | some c =>
          if isBreak c then
            let found := found ++ (← lineBreak?)
            if (← atMark "---") || (← atMark "...") then return none
            breaks fuel found
          else return some found
        | none => return some found
    match ← breaks (← get).rest.length [] with
    | none => return []
    | some found =>
      if first ≠ ['\n'] then return first ++ found
      else if found.isEmpty then return [' ']
      else return found
  else return blanks

-- The length of a stretch of a plain scalar.
def plainLength (flow : Bool) : List Char → Nat
  | [] => 0
  | c :: rest =>
    let ends := isSpaceOrBreak c ||
      (c = ':' && rest.head?.all fun d => isSpaceOrBreak d || (flow && ",[]\x7b\x7d".toList.contains d)) ||
      (flow && ",?[]\x7b\x7d".toList.contains c)
    if ends then 0 else plainLength flow rest + 1

def plainScalar (indent : Nat) : Nat → List Char → List Char → Scanner (List Char)
  | 0, text, _ => return text
  | fuel + 1, text, blanks => do
    let s ← get
    if s.rest.head? = some '#' then return text
    let length := plainLength (s.flow > 0) s.rest
    if length = 0 then return text
    allowKey false
    skip length
    let text := text ++ blanks ++ s.rest.take length
    let blanks ← plainSpaces
    let s ← get
    if blanks.isEmpty || s.rest.head? = some '#' || (s.flow = 0 && s.column < indent) then return text
    plainScalar indent fuel text blanks

def quotedBreaks : Nat → List Char → Scanner (List Char)
  | 0, found => return found
  | fuel + 1, found => do
    if (← atMark "---") || (← atMark "...") then failure
    discard <| takeWhile fun c => c = ' ' || c = '\t'
    if (← peek).any isBreak then quotedBreaks fuel (found ++ (← lineBreak?))
    else return found

def escaped (c : Char) : Option Char :=
  [('0', '\x00'), ('a', '\x07'), ('b', '\x08'), ('t', '\t'), ('\t', '\t'), ('n', '\n'),
   ('v', '\x0b'), ('f', '\x0c'), ('r', '\r'), ('e', '\x1b'), (' ', ' '), ('"', '"'), ('\\', '\\'),
   ('/', '/'), ('N', '\x85'), ('_', '\xa0'), ('L', '\u2028'), ('P', '\u2029')].lookup c

def escapeWidth (c : Char) : Option Nat := [('x', 2), ('u', 4), ('U', 8)].lookup c

-- The part of a quoted scalar up to its closing quote, which is passed.
def quotedScalar (quote : Char) : Nat → List Char → Scanner (List Char)
  | 0, _ => failure
  | fuel + 1, text => do
    match ← peek with
    | none => failure
    | some c =>
      if c = quote then
        if quote = '\'' && (← peek 1) = some '\'' then
          skip 2
          quotedScalar quote fuel (text ++ ['\''])
        else
          step
          return text
      else if c = ' ' || c = '\t' then
        let blanks ← takeWhile fun c => c = ' ' || c = '\t'
        match ← peek with
        | none => failure
        | some d =>
          if isBreak d then quotedScalar quote fuel (text ++ (← folded))
          else quotedScalar quote fuel (text ++ blanks)
      else if isBreak c then quotedScalar quote fuel (text ++ (← folded))
      else if c = '\\' && quote = '"' then
        step
        match ← peek with
        | none => failure
        | some d =>
          if let some e := escaped d then
            step
            quotedScalar quote fuel (text ++ [e])
          else if let some width := escapeWidth d then
            step
            let digits := (← get).rest.take width
            if digits.length < width || !digits.all Text.isHex then failure
            let code := Text.numeral 16 digits
            if !code.isValidChar then failure
            skip width
            quotedScalar quote fuel (text ++ [Char.ofNat code])
          else if isBreak d then
            discard lineBreak?
            quotedScalar quote fuel (text ++ (← quotedBreaks (← get).rest.length []))
          else failure
      else
        step
        quotedScalar quote fuel (text ++ [c])
where
  -- A line end inside of quotes: one alone is a space.
  folded : Scanner (List Char) := do
    let first ← lineBreak?
    let breaks ← quotedBreaks ((← get).rest.length + 1) []
    if first ≠ ['\n'] then return first ++ breaks
    else if breaks.isEmpty then return [' ']
    else return breaks

inductive Chomping where
  | strip
  | clip
  | keep
  deriving DecidableEq

def chomping? : Scanner (Option Chomping) := do
  match ← peek with
  | some '+' => step; return some .keep
  | some '-' => step; return some .strip
  | _ => return none

def indentDigit? : Scanner (Option Nat) := do
  match ← peek with
  | some c =>
    if c.isDigit then
      if c = '0' then failure
      step
      return some (c.toNat - '0'.toNat)
    else return none
  | none => return none

-- The rest of a line that may hold only blanks and a comment.
def skipLine : Scanner Unit := do
  discard <| takeWhile (· = ' ')
  if (← peek) = some '#' then discard <| takeWhile (!isBreak ·)
  if !(← endsAt 0 isBreak) then failure
  discard lineBreak?

-- Empty lines before an indented line, with the blanks in front of it up to a column.
def blockBreaks (indent : Nat) : Nat → List Char → Scanner (List Char)
  | 0, found => return found
  | fuel + 1, found => do
    let s ← get
    skip ((s.rest.take (indent - s.column)).takeWhile (· = ' ')).length
    if (← peek).any isBreak then blockBreaks indent fuel (found ++ (← lineBreak?))
    else return found

-- Empty lines at the start, and the column of the furthest blank in front of the text.
def blockIndent : Nat → List Char → Nat → Scanner (List Char × Nat)
  | 0, found, column => return (found, column)
  | fuel + 1, found, column => do
    match ← peek with
    | some ' ' =>
      step
      blockIndent fuel found (max column (← get).column)
    | some c =>
      if isBreak c then blockIndent fuel (found ++ (← lineBreak?)) column
      else return (found, column)
    | none => return (found, column)

-- The lines of a block scalar; what follows the last one is kept apart.
def blockLines (fold : Bool) (indent : Nat) :
    Nat → List Char → List Char → List Char → Scanner (List Char × List Char × List Char)
  | 0, text, _, breaks => return (text, [], breaks)
  | fuel + 1, text, last, breaks => do
    let s ← get
    if s.column ≠ indent || s.rest.isEmpty then return (text, last, breaks)
    let isBlank (c : Char) : Bool := c = ' ' || c = '\t'
    let dense := !s.rest.head?.any isBlank
    let line ← takeWhile (!isBreak ·)
    let text := text ++ breaks ++ line
    let last ← lineBreak?
    let breaks ← blockBreaks indent ((← get).rest.length + 1) []
    let s ← get
    if s.column = indent && !s.rest.isEmpty then
      if fold && last = ['\n'] && dense && !s.rest.head?.any isBlank then
        blockLines fold indent fuel (if breaks.isEmpty then text ++ [' '] else text) last breaks
      else blockLines fold indent fuel (text ++ last) last breaks
    else return (text, last, breaks)

def blockScalar (fold : Bool) : Scanner Unit := do
  step
  let first ← chomping?
  let digit ← indentDigit?
  let chomping ← match first with
    | some chomping => pure chomping
    | none => if digit.isSome then pure ((← chomping?).getD .clip) else pure .clip
  if !(← endsAt 0 fun c => c = ' ' || isBreak c) then failure
  skipLine
  let s ← get
  let least := match s.indent with
    | some indent => indent + 1
    | none => 1
  let fuel := s.rest.length + 1
  let (breaks, indent) ← match digit with
    | none => do
      let (breaks, column) ← blockIndent fuel [] 0
      pure (breaks, max least column)
    | some digit => do
      let indent := least + digit - 1
      pure (← blockBreaks indent fuel [], indent)
  let (text, last, breaks) ← blockLines fold indent fuel [] [] breaks
  let text := if chomping = .strip then text else text ++ last
  let text := if chomping = .keep then text ++ breaks else text
  push (.scalar (String.ofList text) false)

def isWordChar (c : Char) : Bool := c.isAlphanum || c = '-' || c = '_'

def name : Scanner String := do
  step
  let found ← takeWhile isWordChar
  if found.isEmpty then failure
  if !(← endsAt 0 fun c => isSpaceOrBreak c || "?:,]\x7d%@`".toList.contains c) then failure
  return String.ofList found

def isTagChar (c : Char) : Bool :=
  c.isAlphanum || "-;/?:@&=+$,_.!~*'()[]%".toList.contains c

def tagName : Scanner String := do
  let found ← takeWhile isTagChar
  if found.isEmpty then failure
  return String.ofList found

-- A handle from one exclamation mark to the next.
def tagHandle : Scanner String := do
  if (← peek) ≠ some '!' then failure
  step
  if (← peek) = some ' ' then return "!"
  let found ← takeWhile isWordChar
  if (← peek) ≠ some '!' then failure
  step
  return "!" ++ String.ofList found ++ "!"

def tagToken : Scanner Unit := do
  let token ← match ← peek 1 with
    | some '<' => do
      skip 2
      let found ← tagName
      if (← peek) ≠ some '>' then failure
      step
      pure (Token.tag none found)
    | some c =>
      if isSpaceOrBreak c then do
        step
        pure (Token.tag none "!")
      else do
        let ahead := ((← get).rest.drop 1).takeWhile fun c => c ≠ ' ' && !isBreak c
        if ahead.contains '!' then
          let handle ← tagHandle
          pure (Token.tag (some handle) (← tagName))
        else
          step
          pure (Token.tag (some "!") (← tagName))
    | none => do
      step
      pure (Token.tag none "!")
  if !(← endsAt 0 fun c => c = ' ' || isBreak c) then failure
  push token

def directive : Scanner Unit := do
  step
  let found ← takeWhile isWordChar
  if found.isEmpty || !(← endsAt 0 fun c => c = ' ' || isBreak c) then failure
  if found = "YAML".toList then
    discard <| takeWhile (· = ' ')
    let major ← takeWhile Char.isDigit
    if major.isEmpty || (← peek) ≠ some '.' then failure
    step
    let minor ← takeWhile Char.isDigit
    if minor.isEmpty || !(← endsAt 0 fun c => c = ' ' || isBreak c) then failure
    skipLine
    push (.version (Text.numeral 10 major))
  else if found = "TAG".toList then
    discard <| takeWhile (· = ' ')
    let handle ← tagHandle
    if (← peek) ≠ some ' ' then failure
    discard <| takeWhile (· = ' ')
    let meaning ← tagName
    if !(← endsAt 0 fun c => c = ' ' || isBreak c) then failure
    skipLine
    push (.handle handle meaning)
  else
    discard <| takeWhile (!isBreak ·)
    skipLine
    push .otherDirective

def skipBlanks : Nat → Scanner Unit
  | 0 => return
  | fuel + 1 => do
    discard <| takeWhile (· = ' ')
    if (← peek) = some '#' then discard <| takeWhile (!isBreak ·)
    if (← peek).any isBreak then
      discard lineBreak?
      if (← get).flow = 0 then allowKey true
      skipBlanks fuel

def documentMark (token : Token) : Scanner Unit := do
  closeBlocks none
  giveUpCandidate
  allowKey false
  skip 3
  push token

def flowStart (token : Token) : Scanner Unit := do
  saveCandidate
  modify fun s => { s with flow := s.flow + 1, keyAllowed := true }
  step
  push token

def flowEnd (token : Token) : Scanner Unit := do
  giveUpCandidate
  modify fun s => { s with flow := s.flow - 1, keyAllowed := false }
  step
  push token

-- A sign that opens an entry of a block; the block is opened if need be.
def blockSign (block sign : Token) (allowed : Bool) : Scanner Unit := do
  let s ← get
  if s.flow = 0 then
    if !s.keyAllowed then failure
    if ← openBlock s.column then push block
  allowKey allowed
  giveUpCandidate
  step
  push sign

def valueSign : Scanner Unit := do
  let s ← get
  match s.candidates.lookup s.flow with
  | some candidate =>
    dropCandidate s.flow
    insertToken candidate.tokens .key
    if s.flow = 0 then
      if ← openBlock candidate.column then insertToken candidate.tokens .blockMapping
    allowKey false
    step
    push .value
  | none => blockSign .blockMapping .value (s.flow = 0)

def startsPlain : Scanner Bool := do
  let s ← get
  match s.rest with
  | [] => return false
  | c :: rest =>
    if !isSpaceOrBreak c && !"-?:,[]\x7b\x7d#&*!|>'\"%@`".toList.contains c then return true
    return !rest.head?.all isSpaceOrBreak && (c = '-' || (s.flow = 0 && (c = '?' || c = ':')))

def quotedToken (quote : Char) : Scanner Unit := do
  saveCandidate
  allowKey false
  step
  let text ← quotedScalar quote ((← get).rest.length + 1) []
  push (.scalar (String.ofList text) false)

-- Read the next tokens; false at the end of the text.
def next : Scanner Bool := do
  skipBlanks ((← get).rest.length + 1)
  dropStale
  closeBlocks (some (← get).column)
  let s ← get
  let spaced ← endsAt 1 isSpaceOrBreak
  let inFlow : Bool := s.flow > 0
  match s.rest with
  | [] =>
    closeBlocks none
    giveUpCandidate
    return false
  | c :: _ =>
    if c = '%' && s.column = 0 then
      closeBlocks none
      giveUpCandidate
      allowKey false
      directive
    else if s.column = 0 && (← atMark "---") then documentMark .documentStart
    else if s.column = 0 && (← atMark "...") then documentMark .documentEnd
    else if c = '[' then flowStart .flowListStart
    else if c = '\x7b' then flowStart .flowMappingStart
    else if c = ']' then flowEnd .flowListEnd
    else if c = '\x7d' then flowEnd .flowMappingEnd
    else if c = ',' then
      allowKey true
      giveUpCandidate
      step
      push .comma
    else if c = '-' && spaced then blockSign .blockList .item true
    else if c = '?' && (inFlow || spaced) then blockSign .blockMapping .key (!inFlow)
    else if c = ':' && (inFlow || spaced) then valueSign
    else if c = '*' then
      saveCandidate
      allowKey false
      push (.alias (← name))
    else if c = '&' then
      saveCandidate
      allowKey false
      push (.anchor (← name))
    else if c = '!' then
      saveCandidate
      allowKey false
      tagToken
    else if (c = '|' || c = '>') && !inFlow then
      allowKey true
      giveUpCandidate
      blockScalar (c = '>')
    else if c = '\'' || c = '"' then quotedToken c
    else if ← startsPlain then
      saveCandidate
      allowKey false
      let indent := match s.indent with
        | some indent => indent + 1
        | none => 0
      let text ← plainScalar indent (s.rest.length + 1) [] []
      push (.scalar (String.ofList text) true)
    else failure
    return true

def all : Nat → Scanner Unit
  | 0 => failure
  | fuel + 1 => do if ← next then all fuel

end Scanner

-- Characters that a text may hold.
def isAllowed (c : Char) : Bool :=
  c = '\t' || c = '\n' || c = '\r' || (' ' ≤ c && c ≤ '~') || c = '\x85' ||
    ('\xa0' ≤ c && c ≠ '\ufffe' && c ≠ '\uffff')

-- The tokens of a text; a byte order mark at the start is passed over.
def tokens? (text : List Char) : Option (List Token) :=
  if text.all isAllowed then
    let rest := match text with
      | '\ufeff' :: rest => rest
      | _ => text
    (Scanner.all (rest.length + 2) { rest }).map fun (_, s) => s.tokens.toList
  else none

end ApiPages.Yaml
