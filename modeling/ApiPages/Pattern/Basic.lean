import ApiPages.Text.Fold
import ApiPages.Text.Letter

namespace ApiPages

-- A test on one character. Codes may be any number, also one that no character has.
inductive CharTest where
  | code (code : Nat)
  | range (first last : Nat)
  | digit
  | word
  | blank
  | letter
  | namePart
  | nameStart
  | mark
  | connector
  | asciiDigit
  | asciiWord
  | asciiBlank
  | outside (test : CharTest)
  deriving DecidableEq, Repr

namespace CharTest

def char (c : Char) : CharTest := code c.toNat

def isAsciiWord (c : Char) : Bool := c.isAlphanum || c == '_'

def accepts : CharTest → Char → Bool
  | code n, d => d.toNat == n
  | range first last, d => first ≤ d.toNat && d.toNat ≤ last
  | digit, d => Text.isDigit d
  | word, d => Text.isWord d
  | blank, d => Text.isBlank d
  | letter, d => Text.isLetter d
  | namePart, d => Text.isNamePart d
  | nameStart, d => Text.isNameStart d
  | mark, d => Text.isMark d
  | connector, d => Text.isConnector d
  | asciiDigit, d => d.isDigit
  | asciiWord, d => isAsciiWord d
  | asciiBlank, d => d == ' ' || ('\t' ≤ d && d ≤ '\r')
  | outside test, d => !test.accepts d

end CharTest

-- Which characters count as the same: only equal ones, or also those that differ in case, within
-- ASCII or at all.
inductive CaseRule where
  | exact
  | ascii
  | full
  deriving DecidableEq, Repr

namespace CaseRule

def lower : CaseRule → Char → Char
  | exact, c => c
  | ascii, c => c.toLower
  | full, c => Char.ofNat (Text.lowerCode c.toNat)

def variants : CaseRule → Char → List Char
  | exact, c => [c]
  | ascii, c => [c.toLower, c.toUpper]
  | full, c => (Text.caseVariants c.toNat).map Char.ofNat

end CaseRule

-- A set of characters: those that some test accepts, or all others.
structure CharSet where
  tests : List CharTest
  negated : Bool := false
  case : CaseRule := .exact
  deriving DecidableEq, Repr

-- Whether a test accepts a character in one of its cases. Classes are asked about its lower-case form.
def CharTest.acceptsBy (rule : CaseRule) (test : CharTest) (c : Char) : Bool :=
  match test with
  | code _ | range .. => (rule.variants c).any test.accepts
  | test => test.accepts (rule.lower c)

def CharSet.accepts (set : CharSet) (c : Char) : Bool :=
  set.negated != set.tests.any (·.acceptsBy set.case c)

inductive Pattern where
  | empty
  | never
  | one (set : CharSet)
  | seq (first second : Pattern)
  | either (first second : Pattern)
  | repeated (body : Pattern) (least : Nat) (most : Option Nat) (greedy : Bool)
  -- A body whose first way to match is final.
  | atomic (body : Pattern)
  | group (index : Nat) (body : Pattern)
  -- The text that a group has captured, once more.
  | again (index : Nat) (case : CaseRule)
  | ahead (negated : Bool) (body : Pattern)
  | behind (negated : Bool) (width : Nat) (body : Pattern)
  | textStart
  | textEnd
  -- The end of the text, or the line feed that ends it.
  | lastLineEnd
  | lineStart
  | lineEnd
  | wordEdge (ascii negated : Bool)
  | ifGroup (index : Nat) (yes no : Pattern)
  deriving Repr

-- A place in a text: what lies before it, nearest first, and what follows.
structure Place where
  before : List Char
  rest : List Char
  offset : Nat := 0
  -- The captured groups, the latest first.
  groups : List (Nat × List Char) := []

namespace Place

def ofText (text : List Char) : Place := { before := [], rest := text }

def next? (s : Place) : Option (Char × Place) :=
  match s.rest with
  | [] => none
  | c :: rest => some (c, { s with before := c :: s.before, rest, offset := s.offset + 1 })

def advance (s : Place) : Nat → Place
  | 0 => s
  | k + 1 =>
    match s.next? with
    | some (_, s) => s.advance k
    | none => s

def back (s : Place) (width : Nat) : Place :=
  { s with before := s.before.drop width, rest := (s.before.take width).reverse ++ s.rest,
           offset := s.offset - width }

-- Whether a word begins or ends here, or neither. An empty text has no such place.
def atWordEdge (s : Place) (ascii negated : Bool) : Bool :=
  let isWord := if ascii then CharTest.isAsciiWord else Text.isWord
  let isEdge := s.before.head?.any isWord != s.rest.head?.any isWord
  !(s.before.isEmpty && s.rest.isEmpty) && isEdge != negated

def group? (s : Place) (index : Nat) : Option (List Char) := s.groups.lookup index

end Place

namespace Pattern

abbrev Step := Place → (Place → Option Place) → Option Place

-- Repeat a step. An optional round that would start where the round before it started is not
-- tried, so the length of the rest bounds the rounds.
def loop (step : Step) (least : Nat) (most : Option Nat) (greedy : Bool) :
    Nat → Nat → Option Nat → Step
  | 0, _, _ => fun s k => k s
  | fuel + 1, count, last => fun s k =>
    let round (last : Option Nat) :=
      step s fun s => loop step least most greedy fuel (count + 1) last s k
    if count < least then round last
    else if most.any (· ≤ count) || last == some s.offset then k s
    else if greedy then
      match round (some s.offset) with
      | some found => some found
      | none => k s
    else
      match k s with
      | some found => some found
      | none => round (some s.offset)

-- Whether a pattern matches from a place on so that what follows matches too.
-- Matching backtracks: alternatives are tried from the left, a greedy repetition takes as much as
-- it can, and the first way to match the whole counts.
def run : Pattern → Step
  | empty => fun s k => k s
  | never => fun _ _ => none
  | one set => fun s k =>
    match s.next? with
    | some (c, s) => if set.accepts c then k s else none
    | none => none
  | seq first second => fun s k => run first s fun s => run second s k
  | either first second => fun s k =>
    match run first s k with
    | some found => some found
    | none => run second s k
  | repeated body least most greedy => fun s k =>
    loop (run body) least most greedy (least + s.rest.length + 2) 0 none s k
  | atomic body => fun s k =>
    match run body s some with
    | some s => k s
    | none => none
  | group index body => fun s k =>
    run body s fun t =>
      k { t with groups := (index, s.rest.take (t.offset - s.offset)) :: t.groups }
  | again index case => fun s k =>
    match s.group? index with
    | none => none
    | some captured =>
      let here := s.rest.take captured.length
      if here.map case.lower = captured.map case.lower then k (s.advance captured.length) else none
  | ahead negated body => fun s k =>
    match run body s some with
    | some t => if negated then none else k { s with groups := t.groups }
    | none => if negated then k s else none
  | behind negated width body => fun s k =>
    let found :=
      if s.before.length < width then none
      else run body (s.back width) fun t => if t.offset = s.offset then some t else none
    match found with
    | some t => if negated then none else k { s with groups := t.groups }
    | none => if negated then k s else none
  | textStart => fun s k => if s.before.isEmpty then k s else none
  | textEnd => fun s k => if s.rest.isEmpty then k s else none
  | lastLineEnd => fun s k => if s.rest.isEmpty || s.rest == ['\n'] then k s else none
  | lineStart => fun s k => if s.before.head?.all (· == '\n') then k s else none
  | lineEnd => fun s k => if s.rest.head?.all (· == '\n') then k s else none
  | wordEdge ascii negated => fun s k => if s.atWordEdge ascii negated then k s else none
  | ifGroup index yes no => fun s k =>
    if (s.group? index).isSome then run yes s k else run no s k

-- The place after a match that starts at a place.
def matchAt (p : Pattern) (s : Place) : Option Place := run p { s with groups := [] } some

-- The first place from which a pattern matches, and the place after the match.
def searchFrom (p : Pattern) : Nat → Place → Option (Place × Place)
  | 0, _ => none
  | fuel + 1, s =>
    match p.matchAt s with
    | some t => some (s, t)
    | none =>
      match s.next? with
      | some (_, s) => searchFrom p fuel s
      | none => none

def search (p : Pattern) (s : Place) : Option (Place × Place) :=
  searchFrom p (s.rest.length + 1) s

-- The text between two places, the first of which lies before the second.
def between (s t : Place) : List Char := s.rest.take (t.offset - s.offset)

end Pattern

-- How many characters a match can have; without a number for the most there may be any number.
structure Width where
  least : Nat := 0
  most : Option Nat := some 0

namespace Width

def one : Width := ⟨1, some 1⟩

def plus (a b : Width) : Width := ⟨a.least + b.least, do return (← a.most) + (← b.most)⟩

def or (a b : Width) : Width := ⟨min a.least b.least, do return max (← a.most) (← b.most)⟩

def times (a : Width) (least : Nat) : Option Nat → Width
  | some 0 => {}
  | some most => ⟨a.least * least, a.most.map (· * most)⟩
  | none => ⟨a.least * least, if a.most = some 0 then some 0 else none⟩

-- The greatest width of what is looked for behind a place.
def behindLimit : Nat := 0xffffffff

def fixed? (a : Width) : Option Nat :=
  if a.most = some a.least ∧ a.least ≤ behindLimit then some a.least else none

end Width

namespace Pattern

-- How many characters a match of a pattern can have where `group` tells it for the groups.
def width (group : Nat → Width) : Pattern → Width
  | one _ => .one
  | seq first second => (width group first).plus (width group second)
  | either first second => (width group first).or (width group second)
  | repeated body least most _ => (width group body).times least most
  | atomic body | .group _ body => width group body
  | again index _ => group index
  | ifGroup _ yes no => (width group yes).or (width group no)
  | _ => {}

def ofChar (c : Char) : Pattern := one { tests := [.char c] }

def ofText (s : List Char) : Pattern := s.foldr (fun c p => seq (ofChar c) p) empty

end Pattern

end ApiPages
