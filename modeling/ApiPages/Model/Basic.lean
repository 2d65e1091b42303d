import ApiPages.Json.Basic

namespace ApiPages

-- What a declaration or a signature is.
inductive Kind where
  | class_
  | function
  | variable_
  | interface
  | typeAlias
  | method
  | property
  | parameter
  | typeParameter
  | constructor
  | constructorSignature
  | callSignature
  | indexSignature
  | typeLiteral
  | objectLiteral
  | accessor
  | getSignature
  | setSignature
  | enumeration
  | enumerationMember
  | namespace_
  | module_
  | project
  | event
  | reference
  deriving DecidableEq, Repr

namespace Kind

def all : List Kind :=
  [class_, function, variable_, interface, typeAlias, method, property, parameter, typeParameter,
   constructor, constructorSignature, callSignature, indexSignature, typeLiteral, objectLiteral,
   accessor, getSignature, setSignature, enumeration, enumerationMember, namespace_, module_,
   project, event, reference]

def text : Kind → String
  | class_ => "Class"
  | function => "Function"
  | variable_ => "Variable"
  | interface => "Interface"
  | typeAlias => "Type alias"
  | method => "Method"
  | property => "Property"
  | parameter => "Parameter"
  | typeParameter => "Type parameter"
  | constructor => "Constructor"
  | constructorSignature => "Constructor signature"
  | callSignature => "Call signature"
  | indexSignature => "Index signature"
  | typeLiteral => "Type literal"
  | objectLiteral => "Object literal"
  | accessor => "Accessor"
  | getSignature => "Get signature"
  | setSignature => "Set signature"
  | enumeration => "Enumeration"
  | enumerationMember => "Enumeration member"
  | namespace_ => "Namespace"
  | module_ => "Module"
  | project => "Project"
  | event => "Event"
  | reference => "Reference"

def ofText? (s : String) : Option Kind := all.find? (·.text = s)

end Kind

-- A symbol's number. A truth value counts as the number one or zero but is shown as itself.
inductive SymbolId where
  | number (n : Int)
  | truth (b : Bool)
  deriving DecidableEq, Repr

namespace SymbolId

def value : SymbolId → Int
  | number n => n
  | truth true => 1
  | truth false => 0

def ofJson? : Json → Option SymbolId
  | .int n => some (number n)
  | .bool b => some (truth b)
  | _ => none

end SymbolId

structure Flags where
  isOptional : Bool := false
  isStatic : Bool := false
  deriving DecidableEq, Repr

-- Free-text documentation.
structure Comment where
  shortText : String := ""
  text : String := ""
  returns : String := ""
  deriving DecidableEq, Repr

-- The summary and the details, as two paragraphs.
def Comment.body (comment : Comment) : String := comment.shortText ++ "\n\n" ++ comment.text

mutual

-- A named symbol.
structure Declaration where
  name : String
  kind : Option Kind := none
  id : Option SymbolId := none
  flags : Flags := {}
  comment : Option Comment := none
  type : Option TypeExpr := none
  signatures : List Signature := []
  children : List Declaration := []
  extendedTypes : List TypeExpr := []
  indexSignature : Option Signature := none
  typeParameters : List Declaration := []
  sources : List String := []

-- A way to call, construct or index a symbol.
structure Signature where
  name : String := ""
  kind : Option Kind := none
  parameters : List Declaration := []
  typeParameters : List Declaration := []
  type : Option TypeExpr := none
  comment : Option Comment := none

-- A mention of a named type, with its declaration embedded or given by number.
structure Reference where
  name : String
  arguments : List TypeExpr := []
  -- The fully qualified symbol, taken as the extractor wrote it.
  symbol : Json := .null
  target : Option Declaration := none
  targetId : Option SymbolId := none

inductive TypeExpr where
  | reference (reference : Reference)
  | literal (value : String)
  | intrinsic (name : String)
  | parameter (name : String)
  | indexed (object index : TypeExpr)
  | union (members : List TypeExpr)
  | intersection (members : List TypeExpr)
  | array (element : TypeExpr)
  | tuple (elements : List TypeExpr)
  | shape (declaration : Declaration)
  | conditional (check : TypeExpr) (extends_ : Option TypeExpr) (ifTrue ifFalse : TypeExpr)
  | operator (name : String) (target : TypeExpr)
  | query (target : TypeExpr)

end

instance : Inhabited Declaration := ⟨{ name := "" }⟩

instance : Inhabited TypeExpr := ⟨.intrinsic ""⟩

def anonymousName : String := "__type"

namespace Declaration

def isAnonymous (d : Declaration) : Bool := d.name == anonymousName

def isCallable (d : Declaration) : Bool :=
  d.kind == some .method || d.kind == some .function || !d.signatures.isEmpty

-- The declaration's own comment, else that of its first signature.
def documentation (d : Declaration) : Option Comment :=
  match d.comment with
  | some comment => some comment
  | none => d.signatures.head?.bind (·.comment)

end Declaration

-- The bare name of a type that has one.
def TypeExpr.name? : TypeExpr → Option String
  | .reference r => some r.name
  | .intrinsic name => some name
  | .parameter name => some name
  | _ => none

end ApiPages
