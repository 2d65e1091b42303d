import ApiPages.Anchor
import ApiPages.Page.Context

namespace ApiPages

abbrev Rendered := Except Fault (List Node)

-- Generic arguments longer than this have a space in front of them.
def wrapThreshold : Nat := 25

namespace Context

-- A name with its link, if it is linked at all.
def nameNode (ctx : Context) (name : String) : Node :=
  if ctx.tables.simple.contains name then .text name
  else match ctx.tables.external.lookup name with
    | some url => Node.link url name
    | none => Node.link ("#" ++ Anchor.ofSymbol name) name

def isInline (ctx : Context) (name : String) : Bool := ctx.tables.inline.contains name

-- A name without a link; the placeholder stands for a type of the page.
def plainNameNodes (ctx : Context) (name : String) : Rendered :=
  match ctx.tables.substitution with
  | some substitution =>
    if name = substitution.name then
      let name := substitution.resolve ctx.page
      if ctx.isInline name then .error (.input (.inlineUnresolved name)) else .ok [ctx.nameNode name]
    else .ok [.text name]
  | none => .ok [.text name]

-- A name followed by its generic arguments.
def referenceNodes (ctx : Context) (name : String) (arguments : List (List Node)) : List Node :=
  if arguments.isEmpty then [ctx.nameNode name]
  else
    let body := Node.join ", " arguments
    let opening := if (Node.toTexts body).length > wrapThreshold then " <" else "<"
    ctx.nameNode name :: .text opening :: (body ++ [.text ">"])

end Context

-- The shape of a declaration around what it holds.
def frameNodes (name : String) (flags : Flags) (isCall : Bool) (body : List Node) : List Node :=
  if name = anonymousName then
    if isCall then body
    else if body.isEmpty then [.text "\x7b \x7d"]
    else .text "\x7b " :: (body ++ [.text " \x7d"])
  else .text ((if flags.isOptional then name ++ "?" else name) ++ ": ") :: body

def indexNodes (name : String) (key value : List Node) : List Node :=
  .text ("[" ++ name ++ ": ") :: (key ++ .text "]: " :: value)

def callNodes (parameters : List (List Node)) (result : List Node) : List Node :=
  .text "(" :: (Node.join ", " parameters ++ .text ") => " :: result)

mutual

-- The nodes of a type. `expand` gives the type that an inline name with a number stands for.
def typeNodes (ctx : Context) (expand : String → SymbolId → Rendered) : TypeExpr → Rendered
  | .reference ⟨name, arguments, _, target, targetId⟩ =>
    if ctx.isInline name then
      match target with
      | some ⟨_, _, _, _, _, type, _, _, _, _, _, _⟩ =>
        match type with
        | some type => typeNodes ctx expand type
        | none => .error (.input (.inlineUnresolved name))
      | none =>
        match targetId with
        | some id => expand name id
        | none => .error (.input (.inlineUnresolved name))
    else if ctx.tables.templateless.contains name then .ok (ctx.referenceNodes name [])
    else do return ctx.referenceNodes name (← typeGroups ctx expand arguments)
  | .literal value => .ok [Node.span [.text ("'" ++ value ++ "'")] (ctx.className "string")]
  | .intrinsic name => ctx.plainNameNodes name
  | .parameter name => ctx.plainNameNodes name
  | .indexed object index => do
    return (← typeNodes ctx expand object) ++
      .text "[" :: ((← typeNodes ctx expand index) ++ [.text "]"])
  | .union members => do return Node.join " | " (← typeGroups ctx expand members)
  | .intersection members => do return Node.join " & " (← typeGroups ctx expand members)
  | .array element => do return (← typeNodes ctx expand element) ++ [.text "[]"]
  | .tuple elements => do
    return .text "[" :: (Node.join ", " (← typeGroups ctx expand elements) ++ [.text "]"])
  | .shape d => declarationNodes ctx expand d
  | .conditional check _ ifTrue ifFalse => do
    return (← typeNodes ctx expand check) ++ .text " ? " :: ((← typeNodes ctx expand ifTrue) ++
      .text " : " :: (← typeNodes ctx expand ifFalse))
  | .operator name target => do
    return Node.span [.text (" " ++ name ++ " ")] (ctx.className "keyword") ::
      (← typeNodes ctx expand target)
  | .query target => do return .text "typeof " :: (← typeNodes ctx expand target)

def typeGroups (ctx : Context) (expand : String → SymbolId → Rendered) :
    List TypeExpr → Except Fault (List (List Node))
  | [] => .ok []
  | type :: rest => do return (← typeNodes ctx expand type) :: (← typeGroups ctx expand rest)

def typeNodes? (ctx : Context) (expand : String → SymbolId → Rendered) : Option TypeExpr → Rendered
  | none => .ok []
  | some type => typeNodes ctx expand type

def declarationNodes (ctx : Context) (expand : String → SymbolId → Rendered) :
    Declaration → Rendered
  | ⟨name, _, _, flags, _, type, signatures, children, _, index, _, _⟩ => do
    let body ← match type with
      | some type => typeNodes ctx expand type
      | none =>
        match children with
        | [] =>
          match index with
          | some index => indexSignatureNodes ctx expand name index
          | none => firstSignatureNodes ctx expand signatures
        | child :: rest => do
          let first ← declarationNodes ctx expand child
          pure (Node.join ", " (first :: (← declarationGroups ctx expand rest)))
    return frameNodes name flags (!signatures.isEmpty) body

def declarationGroups (ctx : Context) (expand : String → SymbolId → Rendered) :
    List Declaration → Except Fault (List (List Node))
  | [] => .ok []
  | d :: rest => do return (← declarationNodes ctx expand d) :: (← declarationGroups ctx expand rest)

def firstSignatureNodes (ctx : Context) (expand : String → SymbolId → Rendered) :
    List Signature → Rendered
  | [] => .ok []
  | signature :: _ => signatureNodes ctx expand signature

-- The form of a function: its parameters and what it gives.
def signatureNodes (ctx : Context) (expand : String → SymbolId → Rendered) : Signature → Rendered
  | ⟨_, _, parameters, _, type, _⟩ => do
    return callNodes (← declarationGroups ctx expand parameters) (← typeNodes? ctx expand type)

-- The form of an index signature inside of a declaration with a name.
def indexSignatureNodes (ctx : Context) (expand : String → SymbolId → Rendered) (owner : String) :
    Signature → Rendered
  | ⟨_, _, parameters, _, type, _⟩ =>
    match parameters with
    | [] => .error (.input (.indexWithoutKey owner))
    | ⟨name, _, _, _, _, keyType, _, _, _, _, _, _⟩ :: _ => do
      return indexNodes name (← typeNodes? ctx expand keyType) (← typeNodes? ctx expand type)

end

namespace Context

-- The type behind an inline name with a number, looked up through at most so many others.
-- What is embedded in a reference is entered directly, what is known by its number is looked up; as
-- there are only so many numbers, a chain of more look-ups than symbols has come back to one of
-- them and would never end.
def expandSymbol (ctx : Context) : Nat → String → SymbolId → Rendered
  | 0, _, _ => .error .tooDeep
  | depth + 1, name, id =>
    match ctx.symbols.lookup? id with
    | some d =>
      match d.type with
      | some type => typeNodes ctx (ctx.expandSymbol depth) type
      | none => .error (.input (.inlineUnresolved name))
    | none => .error (.input (.inlineUnresolved name))

-- Look-ups in a chain that ends meet each symbol once and may end at an unknown one.
def expand (ctx : Context) : String → SymbolId → Rendered :=
  ctx.expandSymbol (ctx.symbols.length + 1)

def type (ctx : Context) (type : TypeExpr) : Rendered := typeNodes ctx ctx.expand type

def type? (ctx : Context) (type : Option TypeExpr) : Rendered := typeNodes? ctx ctx.expand type

def declaration (ctx : Context) (d : Declaration) : Rendered := declarationNodes ctx ctx.expand d

def signature (ctx : Context) (s : Signature) : Rendered := signatureNodes ctx ctx.expand s

end Context

end ApiPages
