import ApiPages.Pattern.Reader
import ApiPages.Yaml.Basic

namespace ApiPages.Yaml

inductive ReadError where
  -- The text breaks a rule, or a tag does not fit what it stands at.
  | malformed
  | notTruth
  | notNumber
  | notMoment
  deriving DecidableEq

namespace Tag

def standard (name : String) : String := "tag:yaml.org,2002:" ++ name

def null : String := standard "null"
def truth : String := standard "bool"
def whole : String := standard "int"
def real : String := standard "float"
def moment : String := standard "timestamp"
def text : String := standard "str"
def list : String := standard "seq"
def mapping : String := standard "map"
def merge : String := standard "merge"
def default : String := standard "value"

end Tag

def truthForm : Pattern := Pattern.ofNotation
  "(?:yes|Yes|YES|no|No|NO|true|True|TRUE|false|False|FALSE|on|On|ON|off|Off|OFF)\\Z"

def realForm : Pattern := Pattern.ofNotation <|
  "(?:[-+]?(?:[0-9][0-9_]*)\\.[0-9_]*(?:[eE][-+][0-9]+)?|\\.[0-9][0-9_]*(?:[eE][-+][0-9]+)?|" ++
  "[-+]?[0-9][0-9_]*(?::[0-5]?[0-9])+\\.[0-9_]*|[-+]?\\.(?:inf|Inf|INF)|\\.(?:nan|NaN|NAN))\\Z"

def wholeForm : Pattern := Pattern.ofNotation <|
  "(?:[-+]?0b[0-1_]+|[-+]?0[0-7_]+|[-+]?(?:0|[1-9][0-9_]*)|[-+]?0x[0-9a-fA-F_]+|" ++
  "[-+]?[1-9][0-9_]*(?::[0-5]?[0-9])+)\\Z"

def nullForm : Pattern := Pattern.ofNotation "(?:~|null|Null|NULL|)\\Z"

def dateForm : Pattern := Pattern.ofNotation "(\\d\\d\\d\\d)-(\\d\\d)-(\\d\\d)\\Z"

def momentForm : Pattern := Pattern.ofNotation <|
  "([0-9][0-9][0-9][0-9])-([0-9][0-9]?)-([0-9][0-9]?)(?:[Tt]|[ \\t]+)([0-9][0-9]?):([0-9][0-9]):" ++
  "([0-9][0-9])(?:\\.([0-9]*))?(?:[ \\t]*(Z|([-+])([0-9][0-9]?)(?::([0-9][0-9]))?))?\\Z"

def fits (form : Pattern) (cs : List Char) : Bool := (form.matchAt (Place.ofText cs)).isSome

-- The tag of a plain scalar.
def plainTag (text : String) : String :=
  let cs := text.toList
  if fits truthForm cs then Tag.truth
  else if fits realForm cs then Tag.real
  else if fits wholeForm cs then Tag.whole
  else if text = "<<" then Tag.merge
  else if fits nullForm cs then Tag.null
  else if fits dateForm cs || fits momentForm cs then Tag.moment
  else if text = "=" then Tag.default
  else Tag.text

def readTruth (text : String) : Except ReadError Bool :=
  let word := text.toLower
  if ["yes", "true", "on"].contains word then .ok true
  else if ["no", "false", "off"].contains word then .ok false
  else .error .notTruth

-- A sign in front of a number, and the rest.
def signed (cs : List Char) : Bool × List Char :=
  match cs with
  | '-' :: rest => (true, rest)
  | '+' :: rest => (false, rest)
  | _ => (false, cs)

def digits? (base : Nat) (cs : List Char) : Option Nat :=
  let isDigit (c : Char) : Bool := Text.isHex c && Text.digitValue c < base
  if cs.isEmpty || !cs.all isDigit then none else some (Text.numeral base cs)

-- Low lines are only for show; colons separate places of base sixty.
def readWhole (text : String) : Except ReadError Int :=
  let (negative, cs) := signed (text.toList.filter (· ≠ '_'))
  let found : Option Nat :=
    match cs with
    | ['0'] => some 0
    | '0' :: 'b' :: rest => digits? 2 rest
    | '0' :: 'x' :: rest => digits? 16 (rest.map Char.toLower)
    | '0' :: _ => digits? 8 cs
    | _ => (Text.splitOnChar ':' cs).foldlM (fun n part => (digits? 10 part).map (n * 60 + ·)) 0
  match found with
  | some n => .ok (if negative then -(n : Int) else n)
  | none => .error .notNumber

def decimalForm : Pattern := Pattern.ofNotation "([0-9]*)(?:\\.([0-9]*))?(?:e([-+]?)([0-9]+))?\\Z"

def readDecimal? (cs : List Char) : Option Float := do
  let t ← decimalForm.matchAt (Place.ofText cs)
  let part (index : Nat) : List Char := (t.group? index).getD []
  let digits := part 1 ++ part 2
  if digits.isEmpty then none
  let power : Int := Text.numeral 10 (part 4)
  let power := if part 3 = ['-'] then -power else power
  return Text.ofDecimal false digits (power - (part 2).length)

def infinity : Float := 1.0 / 0.0

def readReal (text : String) : Except ReadError Float :=
  let (negative, cs) := signed ((text.toList.filter (· ≠ '_')).map Char.toLower)
  let found : Option Float :=
    if cs = ".inf".toList then some infinity
    else if cs = ".nan".toList then some (0.0 / 0.0)
    else do
      let parts ← (Text.splitOnChar ':' cs).mapM readDecimal?
      let (total, _) := parts.reverse.foldl
        (fun (total, base) part => (total + part * base, base * 60.0)) ((0.0 : Float), (1.0 : Float))
      return if parts.length = 1 then parts.headD 0.0 else total
  match found with
  | some x => .ok (if negative then -x else x)
  | none => .error .notNumber

def isLeap (year : Nat) : Bool := (year % 4 = 0 && year % 100 ≠ 0) || year % 400 = 0

def monthDays (year month : Nat) : Nat :=
  if month = 2 then (if isLeap year then 29 else 28)
  else if [4, 6, 9, 11].contains month then 30
  else 31

def places (width n : Nat) : String := String.ofList (Text.padLeft width '0' (toString n).toList)

-- A date, or a moment with its distance from the world's clock.
def readMoment (text : String) : Except ReadError Stamp := do
  let s := Place.ofText text.toList
  let found := (momentForm.matchAt s).map (·, true) |>.orElse fun _ =>
    (dateForm.matchAt s).map (·, false)
  match found with
  | none => throw .notMoment
  | some (t, timed) =>
    let part (index : Nat) : List Char := (t.group? index).getD []
    let number (index : Nat) : Nat := Text.numeral 10 (part index)
    let (year, month, day) := (number 1, number 2, number 3)
    if year = 0 || month = 0 || month > 12 || day = 0 || day > monthDays year month then
      throw .notNumber
    let date := places 4 year ++ "-" ++ places 2 month ++ "-" ++ places 2 day
    let listed (numbers : List Nat) : String := ", ".intercalate (numbers.map toString)
    if !timed then
      return { plain := date, quoted := "datetime.date(" ++ listed [year, month, day] ++ ")" }
    let (hour, minute, second) := (number 4, number 5, number 6)
    if hour > 23 || minute > 59 || second > 59 then throw .notNumber
    let fraction := (part 7).take 6
    let micro := Text.numeral 10 (fraction ++ List.replicate (6 - fraction.length) '0')
    let offset := number 10 * 60 + number 11
    if offset ≥ 24 * 60 then throw .notNumber
    let zone :=
      if (part 8).isEmpty then ""
      else if offset = 0 then "+00:00"
      else String.ofList (part 9) ++ places 2 (offset / 60) ++ ":" ++ places 2 (offset % 60)
    let shown := places 2 hour ++ ":" ++ places 2 minute ++ ":" ++ places 2 second ++
      (if micro = 0 then "" else "." ++ places 6 micro)
    let numbers := [year, month, day, hour, minute] ++
      (if micro ≠ 0 then [second, micro] else if second ≠ 0 then [second] else [])
    return { plain := date ++ " " ++ shown ++ zone,
             quoted := "datetime.datetime(" ++ listed numbers ++ ")" }

-- The value of a scalar with a tag.
def readScalar (tag text : String) : Except ReadError Yaml :=
  if tag = Tag.text then .ok (.text text)
  else if tag = Tag.null then .ok .null
  else if tag = Tag.truth then return .scalar (.bool (← readTruth text))
  else if tag = Tag.whole then return .scalar (.int (← readWhole text))
  else if tag = Tag.real then return .scalar (.float (← readReal text))
  else if tag = Tag.moment then return .stamp (← readMoment text)
  else .error .malformed

end ApiPages.Yaml
