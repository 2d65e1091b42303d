import ApiPages.Page.TypeNodes

namespace ApiPages.Context

def row (cells : List Node) : Node := Node.tag "tr" cells

def heading (label : String) : Node := Node.tag "th" [.text label]

def headerRow (label : String) (described : Bool) : Node :=
  row [heading label, heading "Type", if described then heading "Description" else Node.empty]

-- What stands behind the name of an optional member.
def optionalMark : List Node :=
  [.text " ", .element { tag := "span", properties := [("aria-title", .text "Optional")],
                         children := [.text "?"] }]

def nameCell (member : Declaration) : Node :=
  Node.tag "td" (Node.tag "code" [.text member.name] ::
    if member.flags.isOptional then optionalMark else [Node.empty])

-- The type of a member; a member with signatures shows the first one.
def memberType (ctx : Context) (member : Declaration) : Rendered :=
  match member.signatures with
  | signature :: _ => ctx.signature signature
  | [] => ctx.type? member.type

def descriptionCell (ctx : Context) (member : Declaration) : Node :=
  Node.tag "td" (Node.firstBlockChildren (ctx.comment member.documentation))

def memberRow (ctx : Context) (described : Bool) (member : Declaration) : Except Fault Node := do
  let type ← ctx.memberType member
  return row [nameCell member, Node.tag "td" [Node.bareCode type],
    if described then ctx.descriptionCell member else Node.empty]

-- Every row has three children.
def table (ctx : Context) (label : String) (members : List Declaration) : Except Fault Node := do
  let described := members.any (·.documentation.isSome)
  return Node.tag "table" (headerRow label described :: (← members.mapM (ctx.memberRow described)))

end ApiPages.Context
