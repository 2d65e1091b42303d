import ApiPages.Document.Node

namespace ApiPages

namespace Html

def escapeChar (c : Char) : List Char :=
  match c with
  | '&' => "&amp;".toList
  | '<' => "&lt;".toList
  | '>' => "&gt;".toList
  | '"' => "&#34;".toList
  | '\'' => "&#39;".toList
  | c => [c]

def escape (s : String) : String := String.ofList (s.toList.flatMap escapeChar)

-- Elements that have no content and no closing tag.
def voidTags : List String := ["br", "hr", "img", "input", "meta", "link"]

def isVoidTag (tag : String) : Bool := voidTags.contains tag

-- The attributes of an element by their HTML names. The anchor comes first, and a property of the
-- same name takes its place; code has a class unless it says otherwise.
def attributes (e : Element) : List (String × Json) :=
  let anchor : List (String × Json) :=
    match e.slug with
    | some slug => if slug.isEmpty || e.noSlug then [] else [("id", .text slug)]
    | none => []
  let named := e.properties.foldl (fun acc (key, value) =>
    Json.setMember (if key = "className" then "class" else key) value acc) anchor
  if e.tag = "code" ∧ e.noClass = false ∧ (Json.lookup "class" named).isNone then
    Json.setMember "class" (.list [.text "code"]) named
  else named

-- Null and false leave the attribute out, true writes its name alone, and the items of a list are
-- set apart by spaces.
def attributeText (key : String) (value : Json) : String :=
  match value with
  | .null => ""
  | .bool false => ""
  | .bool true => " " ++ key
  | .list items => " " ++ key ++ "=\"" ++ escape (" ".intercalate (items.map Json.plain)) ++ "\""
  | value => " " ++ key ++ "=\"" ++ escape value.plain ++ "\""

def openTag (e : Element) : String :=
  "<" ++ e.tag ++ String.join ((attributes e).map fun (key, value) => attributeText key value) ++ ">"

def editLink (e : Element) : String :=
  match e.editUrl with
  | some url =>
    if url.isEmpty then ""
    else "<a class=\"title_edit\" href=\"" ++ escape url ++ "\">Edit</a>"
  | none => ""

mutual

def ofNode : Node → String
  | .text value => escape value
  | .element e@⟨tag, _, children, _, _, _, _⟩ =>
    if isVoidTag tag then openTag e
    else openTag e ++ ofNodes children ++ editLink e ++ "</" ++ tag ++ ">"

def ofNodes : List Node → String
  | [] => ""
  | node :: rest => ofNode node ++ ofNodes rest

end

end Html

end ApiPages
