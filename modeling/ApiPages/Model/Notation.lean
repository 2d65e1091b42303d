import ApiPages.Model.Basic

namespace ApiPages

namespace Notation

def record (name : String) (fields : List (String × String)) : String :=
  name ++ "(" ++ ", ".intercalate (fields.map fun (key, value) => key ++ "=" ++ value) ++ ")"

-- A sequence of one item keeps a comma after it.
def sequence : List String → String
  | [] => "()"
  | [item] => "(" ++ item ++ ",)"
  | items => "(" ++ ", ".intercalate items ++ ")"

def truth (b : Bool) : String := (Scalar.bool b).plain

def absent : String := Json.null.plain

def kind : Option Kind → String
  | none => absent
  | some k =>
    let constant := (Text.replaceAll " " "_" k.text).toUpper
    "<Kind." ++ constant ++ ": " ++ Text.quoted k.text ++ ">"

def id : Option SymbolId → String
  | none => absent
  | some (.number n) => toString n
  | some (.truth b) => truth b

def flags (f : Flags) : String :=
  record "Flags" [("is_optional", truth f.isOptional), ("is_static", truth f.isStatic)]

def comment : Option Comment → String
  | none => absent
  | some c => record "Comment" [("short_text", Text.quoted c.shortText),
      ("text", Text.quoted c.text), ("returns", Text.quoted c.returns)]

mutual

def declaration : Declaration → String
  | ⟨name, k, i, f, c, t, ss, children, parents, index, parameters, sources⟩ =>
    record "Declaration" [("name", Text.quoted name), ("kind", kind k), ("id", id i),
      ("flags", flags f), ("comment", comment c), ("type", type? t),
      ("signatures", sequence (signatures ss)), ("children", sequence (declarations children)),
      ("extended_types", sequence (types parents)), ("index_signature", signature? index),
      ("type_parameters", sequence (declarations parameters)),
      ("sources", sequence (sources.map Text.quoted))]

def declarations : List Declaration → List String
  | [] => []
  | d :: rest => declaration d :: declarations rest

def declaration? : Option Declaration → String
  | none => absent
  | some d => declaration d

def signature : Signature → String
  | ⟨name, k, parameters, typeParameters, t, c⟩ =>
    record "Signature" [("name", Text.quoted name), ("kind", kind k),
      ("parameters", sequence (declarations parameters)),
      ("type_parameters", sequence (declarations typeParameters)), ("type", type? t),
      ("comment", comment c)]

def signatures : List Signature → List String
  | [] => []
  | s :: rest => signature s :: signatures rest

def signature? : Option Signature → String
  | none => absent
  | some s => signature s

def type : TypeExpr → String
  | .reference ⟨name, arguments, symbol, target, targetId⟩ =>
    record "ReferenceType" [("name", Text.quoted name),
      ("type_arguments", sequence (types arguments)), ("symbol", symbol.quoted),
      ("target", declaration? target), ("target_id", id targetId)]
  | .literal value => record "StringLiteralType" [("value", Text.quoted value)]
  | .intrinsic name => record "IntrinsicType" [("name", Text.quoted name)]
  | .parameter name => record "TypeParameterType" [("name", Text.quoted name)]
  | .indexed object index =>
    record "IndexedAccessType" [("object_type", type object), ("index_type", type index)]
  | .union members => record "UnionType" [("types", sequence (types members))]
  | .intersection members => record "IntersectionType" [("types", sequence (types members))]
  | .array element => record "ArrayType" [("element_type", type element)]
  | .tuple elements => record "TupleType" [("elements", sequence (types elements))]
  | .shape d => record "ReflectionType" [("declaration", declaration d)]
  | .conditional check extends_ ifTrue ifFalse =>
    record "ConditionalType" [("check_type", type check), ("extends_type", type? extends_),
      ("true_type", type ifTrue), ("false_type", type ifFalse)]
  | .operator name target =>
    record "TypeOperatorType" [("operator", Text.quoted name), ("target", type target)]
  | .query target => record "QueryType" [("query_type", type target)]

def types : List TypeExpr → List String
  | [] => []
  | t :: rest => type t :: types rest

def type? : Option TypeExpr → String
  | none => absent
  | some t => type t

end

end Notation

end ApiPages
