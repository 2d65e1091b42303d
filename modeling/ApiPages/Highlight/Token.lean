import ApiPages.Document.Node

namespace ApiPages.Highlight

-- A path from the general to the special; the class of a token is that of the longest family in the
-- table that its kind belongs to.
abbrev TokenKind := List String

structure Token where
  kind : TokenKind
  text : String

namespace Kinds

def text : TokenKind := ["Text"]
def blank : TokenKind := ["Text", "Whitespace"]
def error : TokenKind := ["Error"]
def comment : TokenKind := ["Comment"]
def keyword : TokenKind := ["Keyword"]
def constant : TokenKind := ["Keyword", "Constant"]
def operator : TokenKind := ["Operator"]
def wordOperator : TokenKind := ["Operator", "Word"]
def punctuation : TokenKind := ["Punctuation"]
def name : TokenKind := ["Name"]
def builtin : TokenKind := ["Name", "Builtin"]
def function : TokenKind := ["Name", "Function"]
def class_ : TokenKind := ["Name", "Class"]
def key : TokenKind := ["Name", "Tag"]
def decorator : TokenKind := ["Name", "Decorator"]
def string : TokenKind := ["Literal", "String"]
def regex : TokenKind := ["Literal", "String", "Regex"]
def number : TokenKind := ["Literal", "Number"]

end Kinds

-- Families and their classes; a family comes before the families that contain it.
def classTable : List (TokenKind × String) :=
  [(["Comment"], "comment"), (["Keyword", "Constant"], "literal"), (["Keyword"], "keyword"),
   (["Operator", "Word"], "keyword"), (["Literal", "String", "Regex"], "regexp"),
   (["Literal", "String"], "string"), (["Literal", "Number"], "number"),
   (["Name", "Builtin"], "built_in"), (["Name", "Function"], "title"), (["Name", "Class"], "title"),
   (["Name", "Tag"], "name"), (["Name", "Attribute"], "attr"), (["Name", "Decorator"], "meta"),
   (["Literal"], "literal")]

def tokenClass? (kind : TokenKind) : Option String :=
  (classTable.find? fun (family, _) => family.isPrefixOf kind).map (·.2)

-- Spans for the tokens that have a class; the text of the others in between is joined.
-- `pending` is the text not yet written.
def tokenNodesFrom (mark : String) (pending : String) : List Token → List Node
  | [] => if pending.isEmpty then [] else [.text pending]
  | token :: rest =>
    if token.text.isEmpty then tokenNodesFrom mark pending rest
    else match tokenClass? token.kind with
      | none => tokenNodesFrom mark (pending ++ token.text) rest
      | some name =>
        let span := Node.span [.text token.text] (mark ++ name)
        (if pending.isEmpty then [span] else [.text pending, span]) ++ tokenNodesFrom mark "" rest

def tokenNodes (mark : String) (tokens : List Token) : List Node := tokenNodesFrom mark "" tokens

end ApiPages.Highlight
