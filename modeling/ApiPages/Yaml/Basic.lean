import ApiPages.Json.Basic

namespace ApiPages

-- A date or another single value that is neither text nor number.
structure Stamp where
  plain : String
  quoted : String
  deriving DecidableEq

inductive Yaml.Key where
  | null
  | scalar (value : Scalar)
  | stamp (value : Stamp)

-- The keys of a mapping are single values; a number and a truth value that are equal as numbers are
-- the same key. A mapping keeps its members in order, each key once.
inductive Yaml where
  | null
  | scalar (value : Scalar)
  | stamp (value : Stamp)
  | list (items : List Yaml)
  | mapping (members : List (Yaml.Key × Yaml))

namespace Yaml

instance : Inhabited Yaml := ⟨null⟩

@[match_pattern] protected abbrev text (s : String) : Yaml := .scalar (.text s)

namespace Key

@[match_pattern] abbrev text (s : String) : Key := .scalar (.text s)

-- What tells keys apart.
inductive Identity where
  | null
  | whole (n : Int)
  | real (bits : UInt64)
  | text (s : String)
  | stamp (value : Stamp)
  deriving DecidableEq

-- The whole number that a number without a fraction is.
def wholeOf? (x : Float) : Option Int :=
  if x.isFinite then
    let size := Text.neighbourhood (x.toBits &&& 0x7fffffffffffffff)
    if size.value % size.den = 0 then
      some (if x < 0.0 then -(size.value / size.den : Nat) else (size.value / size.den : Nat))
    else none
  else none

def identity : Key → Identity
  | null => .null
  | scalar (.bool b) => .whole (if b then 1 else 0)
  | scalar (.int n) => .whole n
  | scalar (.float x) => ((wholeOf? x).map .whole).getD (.real x.toBits)
  | scalar (.text s) => .text s
  | stamp value => .stamp value

-- How a key reads in running text.
def plain : Key → String
  | null => "None"
  | scalar s => s.plain
  | stamp value => value.plain

def quoted : Key → String
  | null => "None"
  | scalar s => s.quoted
  | stamp value => value.quoted

end Key

abbrev Members := List (Key × Yaml)

-- The value under a key.
def find (key : Key) : Members → Option Yaml
  | [] => none
  | (other, value) :: rest => if other.identity = key.identity then some value else find key rest

-- Give a key a value: in place when the key is there, else as the last member.
def put (key : Key) (value : Yaml) : Members → Members
  | [] => [(key, value)]
  | (other, old) :: rest =>
    if other.identity = key.identity then (other, value) :: rest
    else (other, old) :: put key value rest

def ofMembers (members : Members) : Yaml :=
  .mapping (members.foldl (fun found (key, value) => put key value found) [])

-- The members of a mapping; anything else has none.
def members : Yaml → Members
  | .mapping members => members
  | _ => []

def items : Yaml → List Yaml
  | .list items => items
  | _ => []

-- The value under a name; a missing one reads as null.
protected def get (value : Yaml) (name : String) : Yaml :=
  (find (.text name) value.members).getD .null

mutual

-- How a value reads inside a list.
def quoted : Yaml → String
  | .null => "None"
  | .scalar s => s.quoted
  | .stamp value => value.quoted
  | .list items => "[" ++ ", ".intercalate (quotedItems items) ++ "]"
  | .mapping members => "\x7b" ++ ", ".intercalate (quotedMembers members) ++ "\x7d"

def quotedItems : List Yaml → List String
  | [] => []
  | item :: rest => item.quoted :: quotedItems rest

def quotedMembers : List (Key × Yaml) → List String
  | [] => []
  | (key, value) :: rest => (key.quoted ++ ": " ++ value.quoted) :: quotedMembers rest

end

-- How a value reads in running text.
def plain : Yaml → String
  | .scalar s => s.plain
  | .stamp value => value.plain
  | value => value.quoted

mutual

-- A value laid over what stands in its place: two mappings are merged, anything else is replaced.
def overlay (current : Option Yaml) : Yaml → Yaml
  | .mapping overrides =>
    match current with
    | some (.mapping base) => .mapping (mergeInto base overrides)
    | _ => .mapping overrides
  | value => value

def mergeInto (base : Members) : List (Key × Yaml) → Members
  | [] => base
  | (key, value) :: rest => mergeInto (put key (overlay (find key base) value) base) rest

end

-- A mapping changed by another one, member by member at every depth.
def merge (base overrides : Members) : Members := mergeInto base overrides

mutual

def ofJson : Json → Yaml
  | .null => .null
  | .scalar s => .scalar s
  | .list items => .list (ofItems items)
  | .object members => .mapping (ofObject members)

def ofItems : List Json → List Yaml
  | [] => []
  | item :: rest => ofJson item :: ofItems rest

def ofObject : List (String × Json) → Members
  | [] => []
  | (name, value) :: rest => (.text name, ofJson value) :: ofObject rest

end

end Yaml

end ApiPages
