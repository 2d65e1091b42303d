import ApiPages.Text.Quoted
import ApiPages.Text.Decimal

namespace ApiPages

-- A single value that is not null.
inductive Scalar where
  | bool (value : Bool)
  | int (value : Int)
  | float (value : Float)
  | text (value : String)

namespace Scalar

-- How a value reads in running text; text stands for itself.
def plain : Scalar → String
  | .bool true => "True"
  | .bool false => "False"
  | .int n => toString n
  | .float x => Text.decimal x
  | .text s => s

-- How a value reads inside a list or a message; text stands in quotes.
def quoted : Scalar → String
  | .text s => Text.quoted s
  | s => s.plain

-- False, zero and the empty text say nothing.
def isVoid : Scalar → Bool
  | .bool b => !b
  | .int n => n == 0
  | .float x => x == 0.0
  | .text s => s.isEmpty

end Scalar

-- An object keeps its members in order, each name once. Numbers without a fraction or an exponent
-- are integers of any size.
inductive Json where
  | null
  | scalar (value : Scalar)
  | list (items : List Json)
  | object (members : List (String × Json))

namespace Json

@[match_pattern] abbrev bool (b : Bool) : Json := .scalar (.bool b)

@[match_pattern] abbrev int (n : Int) : Json := .scalar (.int n)

@[match_pattern] abbrev float (x : Float) : Json := .scalar (.float x)

@[match_pattern] abbrev text (s : String) : Json := .scalar (.text s)

instance : Inhabited Json := ⟨null⟩

def isObject : Json → Bool
  | .object _ => true
  | _ => false

-- The value a name stands for.
def lookup (name : String) : List (String × Json) → Option Json
  | [] => none
  | (key, value) :: rest => if key = name then some value else lookup name rest

def get? (json : Json) (name : String) : Option Json :=
  match json with
  | .object members => lookup name members
  | _ => none

-- A member that is missing reads as null.
def get (json : Json) (name : String) : Json := (json.get? name).getD .null

-- Null, false, zero and everything empty say nothing.
def isVoid : Json → Bool
  | .null => true
  | .scalar s => s.isVoid
  | .list items => items.isEmpty
  | .object members => members.isEmpty

mutual

-- How a value reads inside a list or a message.
def quoted : Json → String
  | .null => "None"
  | .scalar s => s.quoted
  | .list items => "[" ++ ", ".intercalate (quotedItems items) ++ "]"
  | .object members => "\x7b" ++ ", ".intercalate (quotedMembers members) ++ "\x7d"

def quotedItems : List Json → List String
  | [] => []
  | item :: rest => item.quoted :: quotedItems rest

def quotedMembers : List (String × Json) → List String
  | [] => []
  | (name, value) :: rest => (Text.quoted name ++ ": " ++ value.quoted) :: quotedMembers rest

end

-- How a value reads in running text.
def plain : Json → String
  | .scalar s => s.plain
  | json => json.quoted

-- The name of the value's sort.
def sortName : Json → String
  | .null => "NoneType"
  | .bool _ => "bool"
  | .int _ => "int"
  | .float _ => "float"
  | .text _ => "str"
  | .list _ => "list"
  | .object _ => "dict"

-- Give a name a value: in place when the name is there, else as the last member.
def setMember (name : String) (value : Json) : List (String × Json) → List (String × Json)
  | [] => [(name, value)]
  | (key, old) :: rest =>
    if key = name then (key, value) :: rest else (key, old) :: setMember name value rest

def ofMembers (members : List (String × Json)) : Json :=
  .object (members.foldl (fun acc (name, value) => setMember name value acc) [])

end Json

end ApiPages
