import ApiPages.Page.Base
import ApiPages.Page.Order
import ApiPages.Page.Table

namespace ApiPages.Context

def hiddenMembers : List String := ["constructor", "Error"]

def extraClass : String := "title_extra"

def extra (s : String) : Node := Node.span [.text s] extraClass

def anchored (tag slug : String) (children : List Node) : Node :=
  .element { tag, children, slug := some slug }

-- The sentence that names the first parent.
def parents (ctx : Context) (types : List TypeExpr) : Rendered :=
  match types with
  | [] => .ok []
  | parent :: _ => do
    let symbol := match parent with
      | .reference r => r.symbol
      | _ => .null
    let name ← ctx.tables.relabelParent (parent.name?.getD "") symbol
    let link :=
      if ctx.tables.simple.contains name then Node.tag "code" [.text name]
      else match ctx.tables.external.lookup name with
        | some url => Node.link url name
        | none => Node.link ("#" ++ Text.lower name) name
    return [Node.tag "p" [.text "Extends ", link, .text "."]]

def typeLine (ctx : Context) (type : Option TypeExpr) : Rendered :=
  match type with
  | none => .ok []
  | some type => do
    return [Node.tag "p" [.text "Type: ", Node.bareCode (← ctx.type type), .text ". "]]

-- A table for every signature with parameters.
def parameterTables (ctx : Context) (d : Declaration) : Rendered :=
  (d.signatures.filter (!·.parameters.isEmpty)).mapM fun s => ctx.table "Parameter" s.parameters

-- A table for every signature with a type parameter that has a comment.
def templateTables (ctx : Context) (d : Declaration) : Rendered :=
  match d.signatures.filter (·.typeParameters.any (·.comment.isSome)) with
  | [] => .ok []
  | documented => do
    return Node.tag "p" [.text "Type templates for TypeScript:"] ::
      (← documented.mapM fun s => ctx.table "Templates" s.typeParameters)

def voidName : String := "void"

-- What the first signature gives, unless that is nothing.
def returnLine (ctx : Context) (d : Declaration) : Rendered :=
  match d.signatures with
  | [] => .ok []
  | first :: _ =>
    match first.type with
    | none => .ok []
    | some type =>
      if type.name? = some voidName then .ok []
      else do
        let description := match d.documentation with
          | some comment => Prose.render ctx.style comment.returns
          | none => []
        return [Node.tag "p" (.text "Returns " :: Node.bareCode (← ctx.type type) :: .text ". " ::
          Node.firstBlockChildren description)]

def visibleMembers (members : List Declaration) : List Declaration :=
  Declaration.sortMembers (members.filter fun member => !hiddenMembers.contains member.name)

-- The title of a member: its owner, its name and, for a method, its arguments.
def memberTitle (owner separator : String) (member : Declaration) : List Node :=
  extra (owner ++ separator) :: .text member.name ::
    if member.kind = some .method then [extra member.argumentsText] else []

def memberSection (ctx : Context) (owner separator slug : String) (member : Declaration) :
    Except Fault Node := do
  return Node.tag "section"
    (anchored "h2" slug [Node.bareCode (memberTitle owner separator member)] ::
      (ctx.comment member.documentation ++ (← ctx.typeLine member.type) ++
        (← ctx.parameterTables member) ++ (← ctx.templateTables member) ++
        (← ctx.returnLine member)))

-- Sections for members in the given order, and the anchors taken after them.
def sectionsFor (ctx : Context) (owner separator : String) (seen : List String) :
    List Declaration → Except Fault (List Node × List String)
  | [] => .ok ([], seen)
  | member :: rest => do
    let (slug, taken) := (Anchor.reserve (Anchor.ofMember owner member.name separator)).run seen
    let first ← ctx.memberSection owner separator slug member
    let (others, seen) ← ctx.sectionsFor owner separator taken rest
    return (first :: others, seen)

def memberSections (ctx : Context) (owner : String) (members : List Declaration)
    (separator : String) (seen : List String) : Except Fault (List Node × List String) :=
  ctx.sectionsFor owner separator seen (visibleMembers members)

def isConstructor (member : Declaration) : Bool :=
  member.kind = some .constructor || member.name = "constructor"

-- The parameters of the first constructor, unless they are to be hidden.
def constructorTables (ctx : Context) (d : Declaration) : Rendered :=
  match d.children.find? isConstructor with
  | some found =>
    if ctx.tables.hideConstructor.contains d.name then .ok [] else ctx.parameterTables found
  | none => .ok []

def staticMark : String := "."

def instanceMark : String := "#"

def classSection (ctx : Context) (d : Declaration) : Except Fault Node := do
  let parameters ← ctx.constructorTables d
  let slug := Text.lower d.name
  let editUrl ← ctx.editUrls.build d.sources.head?
  let parents ← ctx.parents d.extendedTypes
  let (statics, seen) ←
    ctx.memberSections d.name (d.children.filter (·.flags.isStatic)) staticMark [slug]
  let (instances, _) ←
    ctx.memberSections d.name (d.children.filter (!·.flags.isStatic)) instanceMark seen
  return Node.tag "article"
    (.element { tag := "h1", children := [.text d.name], slug := some slug, editUrl } ::
      (parents ++ ctx.comment d.comment ++ parameters ++ statics ++ instances))

def functionSection (ctx : Context) (d : Declaration) : Except Fault Node := do
  let comment := match d.signatures with
    | first :: _ => first.comment
    | [] => d.comment
  let slug := Anchor.ofSymbol d.name
  let parameters ← ctx.parameterTables d
  let templates ← ctx.templateTables d
  let returned ← ctx.returnLine d
  let (members, _) ← ctx.memberSections d.name d.children instanceMark [slug]
  return Node.tag "section"
    (anchored "h2" slug [Node.bareCode [.text d.name, extra d.argumentsText]] ::
      (ctx.comment comment ++ parameters ++ templates ++ returned ++ members))

def isDocumented (children : List Declaration) : Bool :=
  match children with
  | first :: _ => first.comment.isSome
  | [] => false

-- Whether the sentence that names a base is shown: the base is known and not inline.
def showsBase (ctx : Context) (base : TypeExpr) : Bool :=
  match base with
  | .reference r =>
    !ctx.isInline r.name && match ctx.resolve r with
      | none => false
      | some target => !(target.type.bind TypeExpr.name?).any ctx.isInline
  | _ => false

def baseLine (ctx : Context) (base : TypeExpr) : Rendered :=
  if ctx.showsBase base then do
    return [Node.tag "p" (.text "Extends " :: ((← ctx.type base) ++ [.text "."]))]
  else .ok []

-- The fields of a documented object, after those of its base; else the type in a line.
def variableBody (ctx : Context) (type : Option TypeExpr) : Rendered :=
  match type with
  | some (.shape d) =>
    if isDocumented d.children then do return [← ctx.table "Property" d.children]
    else ctx.typeLine type
  | some (.intersection (base :: .shape d :: _)) =>
    if isDocumented d.children then do
      let fields ← ctx.baseChildren base
      let table ← ctx.table "Property" (fields ++ d.children)
      return (← ctx.baseLine base) ++ [table]
    else ctx.typeLine type
  | type => ctx.typeLine type

def variableSection (ctx : Context) (d : Declaration) : Except Fault Node := do
  return Node.tag "section"
    (anchored "h2" (Anchor.ofSymbol d.name) [Node.bareCode [.text d.name]] ::
      (ctx.comment d.comment ++ (← ctx.variableBody d.type)))

-- The section of a symbol in a group: that of a function if it can be called.
def symbolSection (ctx : Context) (d : Declaration) : Except Fault Node :=
  if d.signatures.isEmpty then ctx.variableSection d else ctx.functionSection d

end ApiPages.Context
