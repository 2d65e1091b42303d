namespace ApiPages

-- The text before the first child is kept apart and, after each child, the text up to the next one
-- is kept with the child as its tail.
structure Tree where
  tag : String
  attributes : List (String × String) := []
  text : String := ""
  -- The text is final: no markup is looked for in it.
  final : Bool := false
  children : List Tree := []
  tail : String := ""

instance : Inhabited Tree := ⟨{ tag := "" }⟩

namespace Tree

def attribute? (t : Tree) (name : String) : Option String := t.attributes.lookup name

def setAttribute (t : Tree) (name value : String) : Tree :=
  { t with attributes := t.attributes ++ [(name, value)] }

def lastChild? (t : Tree) : Option Tree := t.children.getLast?

def addChild (t child : Tree) : Tree := { t with children := t.children ++ [child] }

-- Change the last child, if there is one.
def mapLast (t : Tree) (f : Tree → Tree) : Tree :=
  match t.children.getLast? with
  | some child => { t with children := t.children.dropLast ++ [f child] }
  | none => t

-- Add text after everything that the element holds.
def addText (t : Tree) (text : String) : Tree :=
  match t.children.getLast? with
  | some child =>
    { t with children := t.children.dropLast ++ [{ child with tail := child.tail ++ text }] }
  | none => { t with text := t.text ++ text }

mutual

-- All texts and tails inside an element in order.
def innerText : Tree → String
  | ⟨_, _, text, _, children, _⟩ => text ++ innerTexts children

def innerTexts : List Tree → String
  | [] => ""
  | t@⟨_, _, _, _, _, tail⟩ :: rest => t.innerText ++ tail ++ innerTexts rest

end

end Tree

end ApiPages
