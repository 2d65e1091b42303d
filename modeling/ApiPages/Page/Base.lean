import ApiPages.Page.Context

namespace ApiPages

-- The keys that a text, or a choice of texts, gives.
def TypeExpr.literalKeys? : TypeExpr → Option (List String)
  | .literal value => some [value]
  | .union members => members.mapM fun member =>
      match member with
      | .literal value => some value
      | _ => none
  | _ => none

def omitName : String := "Omit"

abbrev Fields := Except Fault (List Declaration)

-- The fields of a type. `expand` gives those behind a name with a number.
-- References are followed, and the keys that are left out on the way are dropped.
def baseFields (expand : String → SymbolId → Fields) : TypeExpr → Fields
  | .shape d => .ok d.children
  | .reference ⟨name, arguments, _, target, targetId⟩ =>
    if name = omitName then
      match arguments with
      | [source, keys] =>
        match keys.literalKeys? with
        | some omitted => do
          return (← baseFields expand source).filter fun field => !omitted.contains field.name
        | none => .error (.input (.omitKeys keys))
      | arguments => .error (.input (.omitArguments arguments))
    else
      match target with
      | some ⟨_, _, _, _, _, type, _, children, _, _, _, _⟩ =>
        match type with
        | some type => baseFields expand type
        | none => .ok children
      | none =>
        match targetId with
        | some id => expand name id
        | none => .error (.input (.baseUnresolved name))
  | base => .error (.input (.baseUnsupported base))

namespace Context

def expandFields (ctx : Context) : Nat → String → SymbolId → Fields
  | 0, _, _ => .error .tooDeep
  | depth + 1, name, id =>
    match ctx.symbols.lookup? id with
    | some d =>
      match d.type with
      | some type => baseFields (ctx.expandFields depth) type
      | none => .ok d.children
    | none => .error (.input (.baseUnresolved name))

def baseChildren (ctx : Context) (base : TypeExpr) : Fields :=
  baseFields (ctx.expandFields (ctx.symbols.length + 1)) base

-- The fields of a base type that need not be given.
def baseChildren? (ctx : Context) : Option TypeExpr → Fields
  | some base => ctx.baseChildren base
  | none => .error (.input .baseMissing)

end Context

end ApiPages
