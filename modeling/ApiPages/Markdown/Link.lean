import ApiPages.Markdown.Mark
import ApiPages.Pattern.Reader

namespace ApiPages.Markdown

-- The text up to the bracket that closes one already open, and the place behind it.
def bracketText (depth : Nat) (acc : List Char) : List Char → Option (List Char × Nat)
  | [] => none
  | c :: rest =>
    if c = ']' then
      match depth with
      | 0 => some (acc.reverse, acc.length + 1)
      | depth + 1 => bracketText depth (c :: acc) rest
    else bracketText (if c = '[' then depth + 1 else depth) (c :: acc) rest

def addressPattern : Pattern := Pattern.ofNotation
  "(?s)\\(\\s*(?:(<[^<>]*>)\\s*(?:('[^']*'|\"[^\"]*\")\\s*)?\\))?"

-- The state of the search for the end of an address. Places are counted from the parenthesis on.
structure AddressScan where
  index : Nat
  brackets : Int := 1
  -- The brackets still open if the title turns out to be none.
  backup : Int := 1
  inTitle : Bool := false
  quote : Option Char := none
  quoteStart : Nat := 0
  quoteEnd : Option Nat := none
  other : Option Char := none
  otherStart : Nat := 0
  otherEnd : Option Nat := none
  fallback : Option Nat := none
  -- The last character that is no space.
  last : Option Char := none

def AddressScan.titled (x : AddressScan) : Bool := x.quoteEnd.isSome && x.quote == x.last

def AddressScan.otherTitled (x : AddressScan) : Bool := x.otherEnd.isSome && x.other == x.last

def AddressScan.step (x : AddressScan) (c : Char) : AddressScan :=
  let i := x.index + 1
  if c = '(' then
    if !x.inTitle then { x with brackets := x.brackets + 1 }
    else if x.backup > 0 then { x with backup := x.backup - 1 }
    else x
  else if c = ')' then
    if x.titled || x.otherTitled then { x with brackets := 0 }
    else if !x.inTitle then { x with brackets := x.brackets - 1 }
    else if x.backup > 0 then
      { x with backup := x.backup - 1,
               fallback := if x.backup = 1 then some i else x.fallback }
    else x
  else if c = '\'' || c = '"' then
    match x.quote with
    | none =>
      { x with inTitle := true, backup := x.brackets, brackets := 1, quoteStart := i, quote := some c }
    | some q =>
      if c ≠ q && x.other.isNone then { x with otherStart := i, other := some c }
      else if c = q then { x with quoteEnd := some i }
      else if x.other = some c then { x with otherEnd := some i }
      else x
  else x

def scanAddress (x : AddressScan) : List Char → AddressScan
  | [] => x
  | c :: rest =>
    let x := x.step c
    let x := { x with index := x.index + 1 }
    if x.brackets = 0 then x
    else scanAddress { x with last := if c = ' ' then x.last else some c } rest

def slice (cs : List Char) (start stop : Nat) : List Char := (cs.take stop).drop start

structure Address where
  href : List Char
  title : Option (List Char)
  -- The number of characters it takes.
  length : Nat

-- The address with its title at the start of a text.
def readAddress? (cs : List Char) : Option Address :=
  match addressPattern.matchAt (Place.ofText cs) with
  | none => none
  | some t =>
    match t.group? 1 with
    | some bracketed =>
      some { href := Text.trim ((bracketed.drop 1).dropLast)
             title := (t.group? 2).map fun title => (title.drop 1).dropLast
             length := t.offset }
    | none =>
      let start := t.offset
      let x := scanAddress { index := start } t.rest
      let x := if x.brackets ≠ 0 ∧ x.backup = 0 then
          { x with brackets := 0, index := x.fallback.getD x.index }
        else x
      if x.brackets ≠ 0 then none
      else if x.titled then
        some { href := slice cs start (x.quoteStart - 1)
               title := some (slice cs x.quoteStart (x.quoteEnd.getD 0 - 1)), length := x.index }
      else if x.otherTitled then
        some { href := slice cs start (x.otherStart - 1)
               title := some (slice cs x.otherStart (x.otherEnd.getD 0 - 1)), length := x.index }
      else some { href := slice cs start (x.index - 1), title := none, length := x.index }

-- A text without the quotes around it.
def dequote (cs : List Char) : List Char :=
  let quotedBy (c : Char) : Bool := cs.head? = some c && cs.getLast? = some c
  if quotedBy '"' || quotedBy '\'' then (cs.drop 1).dropLast else cs

def namePattern : Pattern := Pattern.ofNotation "\\s?\\[([^\\]]*)\\]"

-- The name in brackets behind a text, and the number of characters it takes.
def readName? (cs : List Char) : Option (List Char × Nat) :=
  (namePattern.matchAt (Place.ofText cs)).map fun t => ((t.group? 1).getD [], t.offset)

-- Runs of blanks become one space.
def joinBlanks (inRun : Bool) : List Char → List Char
  | [] => []
  | c :: rest =>
    if Text.isBlank c then (if inRun then joinBlanks true rest else ' ' :: joinBlanks true rest)
    else c :: joinBlanks false rest

end ApiPages.Markdown
