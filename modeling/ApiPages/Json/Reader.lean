import ApiPages.Json.Basic

namespace ApiPages.Json

inductive Expectation where
  | value
  | memberName
  | colon
  | comma
  | closedText
  | noControl
  | escape
  | codeEscape
  | endOfText
  | noByteOrderMark

def Expectation.message : Expectation → String
  | .value => "Expecting value"
  | .memberName => "Expecting property name enclosed in double quotes"
  | .colon => "Expecting ':' delimiter"
  | .comma => "Expecting ',' delimiter"
  | .closedText => "Unterminated string starting at"
  | .noControl => "Invalid control character at"
  | .escape => "Invalid \\escape"
  | .codeEscape => "Invalid \\uXXXX escape"
  | .endOfText => "Extra data"
  | .noByteOrderMark => "Unexpected UTF-8 BOM (decode using utf-8-sig)"

-- What was expected, and the text that stands there instead up to the end.
structure Refusal where
  expected : Expectation
  rest : List Char

-- The message with the place of the refusal in the whole text.
def Refusal.message (text : List Char) (refusal : Refusal) : String :=
  let offset := text.length - refusal.rest.length
  let before := text.take offset
  let line := before.count '\n' + 1
  let column := (before.reverse.takeWhile (· ≠ '\n')).length + 1
  refusal.expected.message ++ ": line " ++ toString line ++ " column " ++ toString column ++
    " (char " ++ toString offset ++ ")"

def isSpace (c : Char) : Bool := c = ' ' || c = '\t' || c = '\n' || c = '\r'

def skipSpace (cs : List Char) : List Char := cs.dropWhile isSpace

-- Four hexadecimal digits, with at least one character after them.
def readCode? : List Char → Option (Nat × List Char)
  | a :: b :: c :: d :: rest =>
    if [a, b, c, d].all Text.isHex then some (Text.numeral 16 [a, b, c, d], rest) else none
  | _ => none

def isHighHalf (code : Nat) : Bool := 0xd800 ≤ code && code < 0xdc00

def isLowHalf (code : Nat) : Bool := 0xdc00 ≤ code && code < 0xe000

-- A code unit that is half of a pair without its other half has no character of its own.
def charOfCode (code : Nat) : Char :=
  if isHighHalf code || isLowHalf code then Char.ofNat 0xfffd else Char.ofNat code

def simpleEscape? : Char → Option Char
  | '"' => some '"'
  | '\\' => some '\\'
  | '/' => some '/'
  | 'b' => some '\x08'
  | 'f' => some '\x0c'
  | 'n' => some '\n'
  | 'r' => some '\r'
  | 't' => some '\t'
  | _ => none

-- The characters up to the closing quote; `opening` is the text from the opening quote on.
-- The characters read so far are kept last first.
def readText (opening : List Char) :
    Nat → List Char → List Char → Except Refusal (String × List Char)
  | 0, _, _ => .error ⟨.closedText, opening⟩
  | fuel + 1, acc, cs =>
    match cs with
    | [] => .error ⟨.closedText, opening⟩
    | '"' :: rest => .ok (String.ofList acc.reverse, rest)
    | '\\' :: [] => .error ⟨.closedText, opening⟩
    | '\\' :: 'u' :: rest =>
      if rest.length ≤ 4 then .error ⟨.codeEscape, 'u' :: rest⟩
      else match readCode? rest with
        | none => .error ⟨.codeEscape, 'u' :: rest⟩
        | some (high, rest) =>
          match isHighHalf high && rest.length > 6, rest with
          | true, '\\' :: 'u' :: tail =>
            match readCode? tail with
            | none => .error ⟨.codeEscape, 'u' :: tail⟩
            | some (low, tail) =>
              if isLowHalf low then
                let code := 0x10000 + (high - 0xd800) * 0x400 + (low - 0xdc00)
                readText opening fuel (Char.ofNat code :: acc) tail
              else readText opening fuel (charOfCode high :: acc) rest
          | _, _ => readText opening fuel (charOfCode high :: acc) rest
    | '\\' :: c :: rest =>
      match simpleEscape? c with
      | some d => readText opening fuel (d :: acc) rest
      | none => .error ⟨.escape, cs⟩
    | c :: rest =>
      if c.val < 0x20 then .error ⟨.noControl, cs⟩ else readText opening fuel (c :: acc) rest

-- A fraction needs a digit after its point.
def readFraction : List Char → List Char × List Char
  | '.' :: d :: rest =>
    if d.isDigit then (d :: rest.takeWhile Char.isDigit, rest.dropWhile Char.isDigit)
    else ([], '.' :: d :: rest)
  | cs => ([], cs)

-- An exponent needs a digit after its mark and sign.
def readExponent (cs : List Char) : Option Int × List Char :=
  match cs with
  | e :: rest =>
    if e = 'e' || e = 'E' then
      let (negative, digits) := match rest with
        | '-' :: tail => (true, tail)
        | '+' :: tail => (false, tail)
        | tail => (false, tail)
      let number := digits.takeWhile Char.isDigit
      if number.isEmpty then (none, cs)
      else
        let size : Int := Text.numeral 10 number
        (some (if negative then -size else size), digits.dropWhile Char.isDigit)
    else (none, cs)
  | [] => (none, cs)

def readNumber (start : List Char) : Except Refusal (Json × List Char) :=
  let (negative, cs) := match start with
    | '-' :: rest => (true, rest)
    | _ => (false, start)
  match cs with
  | d :: rest =>
    if d.isDigit then
      let whole := if d = '0' then [d] else d :: rest.takeWhile Char.isDigit
      let after := if d = '0' then rest else rest.dropWhile Char.isDigit
      let (fraction, after) := readFraction after
      let (exponent, after) := readExponent after
      if fraction.isEmpty && exponent.isNone then
        let size : Int := Text.numeral 10 whole
        .ok (.int (if negative then -size else size), after)
      else
        let place := exponent.getD 0 - fraction.length
        .ok (.float (Text.ofDecimal negative (whole ++ fraction) place), after)
    else .error ⟨.value, start⟩
  | [] => .error ⟨.value, start⟩

def readWord (cs : List Char) : Except Refusal (Json × List Char) :=
  let words : List (String × Json) :=
    [("null", .null), ("true", .bool true), ("false", .bool false), ("NaN", .float (0.0 / 0.0)),
     ("Infinity", .float (1.0 / 0.0)), ("-Infinity", .float (-1.0 / 0.0))]
  match words.findSome? fun (word, json) =>
      (Text.dropStart? word.toList cs).map fun rest => (json, rest) with
  | some found => .ok found
  | none => readNumber cs

mutual

def readValue : Nat → List Char → Except Refusal (Json × List Char)
  | 0, cs => .error ⟨.value, cs⟩
  | fuel + 1, cs =>
    match cs with
    | '"' :: rest => do
      let (s, rest) ← readText cs (rest.length + 1) [] rest
      return (.text s, rest)
    | '{' :: rest =>
      match skipSpace rest with
      | '}' :: rest => .ok (.object [], rest)
      | rest => do
        let (members, rest) ← readMembers fuel rest
        return (ofMembers members, rest)
    | '[' :: rest =>
      match skipSpace rest with
      | ']' :: rest => .ok (.list [], rest)
      | rest => do
        let (items, rest) ← readItems fuel rest
        return (.list items, rest)
    | _ => readWord cs

def readMembers : Nat → List Char → Except Refusal (List (String × Json) × List Char)
  | 0, cs => .error ⟨.value, cs⟩
  | fuel + 1, cs =>
    match cs with
    | '"' :: rest => do
      let (name, rest) ← readText cs (rest.length + 1) [] rest
      match skipSpace rest with
      | ':' :: rest =>
        let (value, rest) ← readValue fuel (skipSpace rest)
        match skipSpace rest with
        | '}' :: rest => return ([(name, value)], rest)
        | ',' :: rest =>
          let (members, rest) ← readMembers fuel (skipSpace rest)
          return ((name, value) :: members, rest)
        | rest => throw ⟨.comma, rest⟩
      | rest => throw ⟨.colon, rest⟩
    | _ => .error ⟨.memberName, cs⟩

def readItems : Nat → List Char → Except Refusal (List Json × List Char)
  | 0, cs => .error ⟨.value, cs⟩
  | fuel + 1, cs => do
    let (value, rest) ← readValue fuel cs
    match skipSpace rest with
    | ']' :: rest => return ([value], rest)
    | ',' :: rest =>
      let (items, rest) ← readItems fuel (skipSpace rest)
      return (value :: items, rest)
    | rest => throw ⟨.comma, rest⟩

end

-- The value a text writes, or what is wrong with the text. Each level of reading passes a
-- character, so the length of the text bounds the depth.
-- The numbers `NaN`, `Infinity` and `-Infinity` are accepted, and of a repeated member name the
-- last value counts.
def read (s : String) : Except String Json :=
  let text := s.toList
  let outcome : Except Refusal Json := do
    if text.head? = some '\ufeff' then throw ⟨.noByteOrderMark, text⟩
    let (json, rest) ← readValue (2 * text.length + 2) (skipSpace text)
    match skipSpace rest with
    | [] => return json
    | rest => throw ⟨.endOfText, rest⟩
  match outcome with
  | .ok json => .ok json
  | .error refusal => .error (refusal.message text)

end ApiPages.Json
