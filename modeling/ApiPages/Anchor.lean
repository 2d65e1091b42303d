import ApiPages.Text.Lower
import ApiPages.Text.Scan

namespace ApiPages

namespace Anchor

def globalsMark : String := "globals-"

def isCapitalized (name : String) : Bool :=
  match name.toList with
  | c :: _ => 'A' ≤ c && c ≤ 'Z'
  | [] => false

-- A run of blanks becomes one hyphen. `inRun` tells that the run has had its hyphen.
def hyphenate (inRun : Bool) : List Char → List Char
  | [] => []
  | c :: rest =>
    if Text.isBlank c then (if inRun then hyphenate true rest else '-' :: hyphenate true rest)
    else c :: hyphenate false rest

-- The characters that an anchor keeps.
def isSlugChar (c : Char) : Bool :=
  Text.isWord c || c == '.' || c == '$' || c == '~' || c == '-'

-- Trimmed and in lower case, with hyphens for blanks and without other punctuation.
def slugify (value : String) : String :=
  let lowered := (Text.lower (Text.trimmed value)).toList
  String.ofList ((hyphenate false lowered).filter isSlugChar)

-- The name of a top-level symbol; names without a capital are kept apart from class names.
def qualified (name : String) : String :=
  if isCapitalized name then name else globalsMark ++ name

def ofSymbol (name : String) : String := slugify (qualified name)

-- The anchor of a member: a static one has its dot, an instance one a hyphen.
def ofMember (owner member separator : String) : String :=
  let joiner := if separator = "#" then "-" else separator
  Text.lower (owner ++ joiner ++ member)

def suffixed (slug : String) (k : Nat) : String := slug ++ "-" ++ toString k

-- The first free numbered anchor from `k` on, when at most `fuel` of them are taken.
def firstFree (slug : String) (seen : List String) : Nat → Nat → String
  | 0, k => suffixed slug k
  | fuel + 1, k =>
    if seen.contains (suffixed slug k) then firstFree slug seen fuel (k + 1) else suffixed slug k

-- The anchor itself when it is free, else the free one with the least number from two on.
def unique (slug : String) (seen : List String) : String :=
  if seen.contains slug then firstFree slug seen seen.length 2 else slug

-- Give a wish its anchor, which is taken from then on.
def reserve (slug : String) : StateM (List String) String := do
  let given := unique slug (← get)
  modify (given :: ·)
  return given

theorem run_reserve (slug : String) (seen : List String) :
    (reserve slug).run seen = (unique slug seen, unique slug seen :: seen) := rfl

def replaceFirst (old new : Char) : List Char → List Char
  | [] => []
  | c :: rest => if c = old then new :: rest else c :: replaceFirst old new rest

-- The anchor that a mention of a symbol or of its member in running text points at.
def ofMention (name : String) : String :=
  let target := String.ofList (replaceFirst '#' '-' (Text.lower name).toList)
  if isCapitalized name then target else globalsMark ++ target

-- The identity of the page with a title.
def ofPage (title : String) : String :=
  Text.lower (String.ofList (title.toList.map fun c => if Text.isBlank c then '-' else c))

end Anchor

end ApiPages
