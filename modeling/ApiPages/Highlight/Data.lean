import ApiPages.Highlight.Token
import ApiPages.Text.Scan

namespace ApiPages.Highlight.Data

def isBlank (c : Char) : Bool := c = ' ' || c = '\n' || c = '\r' || c = '\t'

def isInteger (c : Char) : Bool := c = '-' || c.isDigit

def isNumber (c : Char) : Bool := isInteger c || c = '.' || c = 'e' || c = 'E' || c = '+'

def isConstant (c : Char) : Bool := "truefalsn".toList.contains c

def isPunctuation (c : Char) : Bool := "\x7b\x7d[],".toList.contains c

-- What the characters of a text are read as.
inductive Escape where
  | none
  | started
  | code (left : Nat)

-- The length of a text after its opening quote, with the closing one.
def textLength (escape : Escape) : List Char → Option Nat
  | [] => Option.none
  | c :: rest =>
    let next (escape : Escape) : Option Nat := (textLength escape rest).map (· + 1)
    match escape with
    | .code (left + 1) =>
      if Text.isHex c && left > 0 then next (.code left) else next .none
    | .code 0 => next .none
    | .started => if c = 'u' then next (.code 4) else next .none
    | .none =>
      if c = '\\' then next .started
      else if c = '"' then some 1
      else next .none

-- Give the tokens that wait; the texts among them are names before a colon.
def release (waiting : List Token) (name : Bool) : List Token :=
  waiting.map fun token =>
    if name && token.kind == Kinds.string then { token with kind := Kinds.key } else token

def token (kind : TokenKind) (text : List Char) : Token := ⟨kind, String.ofList text⟩

-- Tokens from a place on; texts, and blanks and comments behind them, wait for what follows.
def tokens : Nat → List Token → List Char → List Token
  | 0, waiting, cs => waiting ++ [token Kinds.error cs]
  | _, waiting, [] => waiting
  | fuel + 1, waiting, c :: rest =>
    let cs := c :: rest
    -- A token that may stand between a name and its colon.
    let between (kind : TokenKind) (size : Nat) : List Token :=
      let found := token kind (cs.take size)
      if waiting.isEmpty then found :: tokens fuel [] (cs.drop size)
      else tokens fuel (waiting ++ [found]) (cs.drop size)
    let plain (name : Bool) (kind : TokenKind) (size : Nat) : List Token :=
      release waiting name ++ token kind (cs.take size) :: tokens fuel [] (cs.drop size)
    let run (p : Char → Bool) : Nat := 1 + (rest.takeWhile p).length
    if c = '"' then
      match textLength .none rest with
      | some size =>
        tokens fuel (waiting ++ [token Kinds.string (cs.take (size + 1))]) (cs.drop (size + 1))
      | none => waiting ++ [token Kinds.error cs]
    else if isBlank c then between Kinds.blank (run isBlank)
    else if c = 'f' || c = 'n' || c = 't' then plain false Kinds.constant (run isConstant)
    else if isInteger c then plain false Kinds.number (run isNumber)
    else if c = ':' then plain true Kinds.punctuation (run isPunctuation)
    else if isPunctuation c then plain false Kinds.punctuation (run isPunctuation)
    else if c = '/' then
      match rest with
      | '/' :: tail => between Kinds.comment (2 + (tail.takeWhile (· ≠ '\n')).length)
      | '*' :: tail =>
        match Text.cutAt ['*', '/'] tail with
        | some (inside, _) => between Kinds.comment (inside.length + 4)
        | none => waiting ++ [token Kinds.error cs]
      | _ => plain false Kinds.error 1
    else plain false Kinds.error 1

-- The lexer for JSON. It checks nothing: a text is a member name when a colon follows it, with
-- blanks and comments between them, and is a value otherwise.
def read (code : List Char) : List Token := tokens (code.length + 1) [] code

end ApiPages.Highlight.Data
