import ApiPages.Json.Basic

namespace ApiPages

mutual

structure Element where
  tag : String
  -- Attributes in order; a value is open data.
  properties : List (String × Json) := []
  children : List Node := []
  -- The anchor of the element.
  slug : Option String := none
  -- Where the source of what the element shows can be edited.
  editUrl : Option String := none
  noClass : Bool := false
  noSlug : Bool := false

inductive Node where
  | text (value : String)
  | element (element : Element)

end

instance : Inhabited Node := ⟨.text ""⟩

namespace Node

def empty : Node := .text ""

-- An element without attributes or hints.
def tag (name : String) (children : List Node) : Node := .element { tag := name, children }

def span (children : List Node) (className : String) : Node :=
  .element { tag := "span", properties := [("className", .list [.text className])], children }

def link (href : String) (label : String) : Node :=
  .element { tag := "a", properties := [("href", .text href)], children := [.text label] }

-- Code without the class that code carries by itself.
def bareCode (children : List Node) : Node :=
  .element { tag := "code", children, noClass := true }

-- Groups of nodes one after the other, with a text between each two.
def join (separator : String) (groups : List (List Node)) : List Node :=
  match groups with
  | [] => []
  | group :: rest => group ++ rest.flatMap fun next => .text separator :: next

mutual

def toText : Node → String
  | .text value => value
  | .element ⟨_, _, children, _, _, _, _⟩ => toTexts children

-- The text of the nodes, without any markup.
def toTexts : List Node → String
  | [] => ""
  | node :: rest => node.toText ++ toTexts rest

end

-- The children of the first element.
def firstBlockChildren : List Node → List Node
  | [] => []
  | .text _ :: rest => firstBlockChildren rest
  | .element e :: _ => e.children

mutual

def sectionCount : Node → Nat
  | .text _ => 0
  | .element ⟨tag, _, children, _, _, _, _⟩ =>
    (if tag = "section" ∨ tag = "article" then 1 else 0) + sectionCounts children

-- The sections and articles among the nodes, at any depth.
def sectionCounts : List Node → Nat
  | [] => 0
  | node :: rest => node.sectionCount + sectionCounts rest

end

end Node

end ApiPages
