import ApiPages.Text.Letter

namespace ApiPages.Text

-- Drop the characters at the end that satisfy a test.
def dropEndWhile (p : Char → Bool) (cs : List Char) : List Char :=
  (cs.reverse.dropWhile p).reverse

def trimWhile (p : Char → Bool) (cs : List Char) : List Char :=
  dropEndWhile p (cs.dropWhile p)

-- Drop the blanks at both ends.
def trim (cs : List Char) : List Char := trimWhile isBlank cs

def trimmed (s : String) : String := String.ofList (trim s.toList)

def isBlankText (s : String) : Bool := s.toList.all isBlank

-- The rest after a given start, when the text has that start.
def dropStart? : List Char → List Char → Option (List Char)
  | [], cs => some cs
  | _ :: _, [] => none
  | p :: ps, c :: cs => if p = c then dropStart? ps cs else none

def startsWith (start cs : List Char) : Bool := (dropStart? start cs).isSome

def endsWith (ending cs : List Char) : Bool := startsWith ending.reverse cs.reverse

-- Every occurrence of `old`, found from the left without overlap, gives way to `new`.
-- An empty `old` replaces nothing. `skip` counts the characters of a match still to pass.
def replaceFrom (old new : List Char) (skip : Nat) : List Char → List Char
  | [] => []
  | c :: cs =>
    match skip with
    | k + 1 => replaceFrom old new k cs
    | 0 =>
      if !old.isEmpty && startsWith old (c :: cs) then new ++ replaceFrom old new (old.length - 1) cs
      else c :: replaceFrom old new 0 cs

def replaceAll (old new : String) (s : String) : String :=
  String.ofList (replaceFrom old.toList new.toList 0 s.toList)

-- The pieces between separators, in order; there is always one more piece than separators.
def splitOnChar (sep : Char) : List Char → List (List Char)
  | [] => [[]]
  | c :: cs =>
    if c = sep then [] :: splitOnChar sep cs
    else match splitOnChar sep cs with
      | [] => [[c]]
      | piece :: pieces => (c :: piece) :: pieces

def joinWith (sep : List Char) : List (List Char) → List Char
  | [] => []
  | [piece] => piece
  | piece :: pieces => piece ++ sep ++ joinWith sep pieces

def lines (s : List Char) : List (List Char) := splitOnChar '\n' s

def unlines (ls : List (List Char)) : List Char := joinWith ['\n'] ls

-- The maximal runs of characters that are not blank.
def words (cs : List Char) : List (List Char) :=
  let step (c : Char) (acc : List Char × List (List Char)) :=
    if isBlank c then ([], if acc.1.isEmpty then acc.2 else acc.1 :: acc.2)
    else (c :: acc.1, acc.2)
  let (piece, pieces) := cs.foldr step ([], [])
  if piece.isEmpty then pieces else piece :: pieces

def wordsOf (s : String) : List String := (words s.toList).map String.ofList

-- Leading and trailing parts around the first place where a test on the rest succeeds.
def breakAt (p : List Char → Bool) : List Char → Option (List Char × List Char)
  | [] => if p [] then some ([], []) else none
  | c :: cs =>
    if p (c :: cs) then some ([], c :: cs)
    else (breakAt p cs).map fun (before, rest) => (c :: before, rest)

-- The text before the first occurrence of `mark` and the text after it.
def cutAt (mark : List Char) (cs : List Char) : Option (List Char × List Char) :=
  (breakAt (startsWith mark) cs).map fun (before, rest) => (before, rest.drop mark.length)

def contains (part cs : List Char) : Bool := (breakAt (startsWith part) cs).isSome

-- The ASCII digit for a decimal digit of any script; the digits of a script follow one another.
def asciiDigit (c : Char) : Char :=
  match digitRanges.find? fun (first, last) => first ≤ c.toNat && c.toNat ≤ last with
  | some (first, _) => Char.ofNat (0x30 + (c.toNat - first) % 10)
  | none => c

def digitValue (c : Char) : Nat :=
  if c.isDigit then c.toNat - '0'.toNat
  else if 'a' ≤ c && c ≤ 'z' then c.toNat - 'a'.toNat + 10
  else c.toNat - 'A'.toNat + 10

-- The number a run of digits writes in a base, most significant digit first.
def numeral (base : Nat) (cs : List Char) : Nat :=
  cs.foldl (fun n c => n * base + digitValue c) 0

-- Digits of a number in a base up to sixteen, padded on the left with zeros.
def padLeft (width : Nat) (fill : Char) (cs : List Char) : List Char :=
  List.replicate (width - cs.length) fill ++ cs

def hexText (width n : Nat) : List Char := padLeft width '0' (Nat.toDigits 16 n)

-- Any line ending becomes a line feed.
def unifyLineEnds : List Char → List Char
  | [] => []
  | '\r' :: '\n' :: cs => '\n' :: unifyLineEnds cs
  | '\r' :: cs => '\n' :: unifyLineEnds cs
  | c :: cs => c :: unifyLineEnds cs

end ApiPages.Text
