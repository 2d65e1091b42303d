import ApiPages.Text.Scan

namespace ApiPages

-- A list of names. Empty names and single dots are left out, two dots stay until a path is
-- resolved.
structure Path where
  -- The slashes that an absolute path starts with; two are kept apart from one.
  slashes : Nat := 0
  names : List String := []
  deriving DecidableEq, Repr

namespace Path

def ofText (s : String) : Path :=
  let cs := s.toList
  let names := ((Text.splitOnChar '/' cs).map String.ofList).filter fun name =>
    name ≠ "" ∧ name ≠ "."
  match (cs.takeWhile (· = '/')).length with
  | 0 => { names }
  | 2 => { slashes := 2, names }
  | _ => { slashes := 1, names }

def isAbsolute (p : Path) : Bool := p.slashes > 0

def text (p : Path) : String :=
  let s := String.ofList (List.replicate p.slashes '/') ++ "/".intercalate p.names
  if s.isEmpty then "." else s

-- A path seen from another one; an absolute path stands for itself.
def join (p q : Path) : Path :=
  if q.isAbsolute then q else { p with names := p.names ++ q.names }

def child (p : Path) (s : String) : Path := p.join (ofText s)

-- The last name of a path.
def name (p : Path) : String := p.names.getLast?.getD ""

def parent (p : Path) : Path := { p with names := p.names.dropLast }

-- Names without two dots; above the root there is only the root.
def withoutDots (names : List String) : List String :=
  names.foldl (fun found name => if name = ".." then found.dropLast else found ++ [name]) []

-- The absolute path without dots, seen from a directory.
def resolve (base p : Path) : Path := { slashes := 1, names := withoutDots (base.join p).names }

-- The part of a path below a directory, if it lies there.
def below? (base p : Path) : Option Path :=
  if base.slashes = p.slashes && base.names.isPrefixOf p.names then
    some { names := p.names.drop base.names.length }
  else none

end Path

end ApiPages
