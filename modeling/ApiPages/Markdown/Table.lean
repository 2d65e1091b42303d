import ApiPages.Markdown.Source
import ApiPages.Markup.Tree

namespace ApiPages.Markdown.Table

def trimSpaces (cs : List Char) : List Char := Text.trimWhile (· = ' ') cs

-- Whether a line ends with a bar that no backslash takes away.
def endsWithBar (cs : List Char) : Bool :=
  match cs.reverse with
  | '|' :: rest => (rest.takeWhile (· = '\\')).length % 2 = 0
  | _ => false

-- The signs of a row that matter: runs of backquotes with their first and last place, behind a
-- backslash or not, and bars.
inductive Sign where
  | ticks (size : Nat) (first last : Nat) (escaped : Bool)
  | bar (place : Nat)

def signs : Nat → Nat → List Char → List Sign
  | 0, _, _ => []
  | fuel + 1, place, cs =>
    match cs with
    | [] => []
    | '\\' :: '\\' :: rest => signs fuel (place + 2) rest
    | '\\' :: '`' :: rest =>
      let size := 1 + (rest.takeWhile (· = '`')).length
      .ticks size place (place + size) true :: signs fuel (place + 1 + size) (rest.drop (size - 1))
    | '`' :: rest =>
      let size := 1 + (rest.takeWhile (· = '`')).length
      .ticks size place (place + size - 1) false :: signs fuel (place + size) (rest.drop (size - 1))
    | '\\' :: '|' :: rest => signs fuel (place + 2) rest
    | '|' :: rest => .bar place :: signs fuel (place + 1) rest
    | _ :: rest => signs fuel (place + 1) rest

-- The stretches between runs of backquotes of one size. A run behind a backslash opens one with a
-- backquote less than it has.
def codeStretches : Nat → List (Nat × Nat × Nat × Bool) → List (Nat × Nat)
  | 0, _ => []
  | _, [] => []
  | fuel + 1, (size, first, _, escaped) :: rest =>
    let wanted := if escaped then size - 1 else size
    if wanted = 0 then codeStretches fuel rest
    else match rest.dropWhile fun (other, _) => other ≠ wanted with
      | (_, _, last, _) :: after => (first, last) :: codeStretches fuel after
      | [] => codeStretches fuel rest

def cutAtPlaces (cs : List Char) (start : Nat) : List Nat → List (List Char)
  | [] => [cs]
  | place :: rest =>
    cs.take (place - start) :: cutAtPlaces (cs.drop (place - start + 1)) (place + 1) rest

-- The cells of a row without its outer bars.
def splitCells (row : List Char) : List (List Char) :=
  let found := signs (row.length + 1) 0 row
  let ticks := found.filterMap fun sign =>
    match sign with
    | .ticks size first last escaped => some (size, first, last, escaped)
    | .bar _ => none
  let bars := found.filterMap fun sign =>
    match sign with
    | .bar place => some place
    | _ => none
  let stretches := codeStretches (ticks.length + 1) ticks
  let inCode (place : Nat) : Bool := stretches.any fun (first, last) => first ≤ place && place ≤ last
  cutAtPlaces row 0 (bars.filter (!inCode ·))

-- The cells of a row; a bordered table's rows may have bars around them.
def cells (bordered : Bool) (row : List Char) : List (List Char) :=
  if bordered then
    let row := match row with
      | '|' :: rest => rest
      | row => row
    splitCells (if endsWithBar row then Text.dropEndWhile (· = '\\') row.dropLast else row)
  else splitCells row

structure Shape where
  bordered : Bool
  separator : List (List Char)

-- The shape of the table that a block is, if its first two lines make one.
def shape? (block : List Char) : Option Shape :=
  match (Text.lines block).map trimSpaces with
  | header :: second :: more =>
    let rest := second :: more
    let bordered := header.head? = some '|' || endsWithBar header
    let columns := (cells bordered header).length
    let hasBar (row : List Char) : Bool := row.head? = some '|' || endsWithBar row
    if columns > 1 || (bordered && rest.all hasBar) then
      let separator := cells bordered second
      let isRule (cell : List Char) : Bool :=
        cell.all fun c => c = '|' || c = ':' || c = '-' || c = ' '
      if separator.length = columns && separator.all isRule then some { bordered, separator }
      else none
    else none
  | _ => none

def alignment? (cell : List Char) : Option String :=
  let cell := trimSpaces cell
  match cell.head? == some ':', cell.getLast? == some ':' with
  | true, true => some "center"
  | true, false => some "left"
  | false, true => some "right"
  | false, false => none

-- A row with as many cells as the table has columns.
def rowTree (tag : String) (columns : List (Option String)) (found : List (List Char)) : Tree :=
  let children := (List.range columns.length).map fun i =>
    let text := String.ofList (trimSpaces ((found[i]?).getD []))
    match (columns[i]?).join with
    | some side => { tag, text, attributes := [("style", "text-align: " ++ side ++ ";")] : Tree }
    | none => { tag, text }
  { tag := "tr", children }

def toTree (shape : Shape) (block : List Char) : Tree :=
  let columns := shape.separator.map alignment?
  let row (tag : String) (line : List Char) : Tree :=
    rowTree tag columns (cells shape.bordered (trimSpaces line))
  let ls := Text.lines block
  let body := match ls.drop 2 with
    | [] => [rowTree "td" (columns.map fun _ => none) []]
    | rows => rows.map (row "td")
  { tag := "table"
    children := [{ tag := "thead", children := [row "th" (ls.headD [])] },
      { tag := "tbody", children := body }] }

end ApiPages.Markdown.Table
