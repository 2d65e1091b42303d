import ApiPages.Model.Basic

namespace ApiPages

mutual

-- Depth first: the declaration itself, then its children, the parameters of its signatures and what
-- its type holds. Return types, index signatures, type parameters and parents are not entered.
def Declaration.walk : Declaration → List Declaration
  | d@⟨_, _, _, _, _, type, signatures, children, _, _, _, _⟩ =>
    d :: (walkAll children ++ walkSignatures signatures ++ walkType? type)

def walkAll : List Declaration → List Declaration
  | [] => []
  | d :: rest => d.walk ++ walkAll rest

def walkSignatures : List Signature → List Declaration
  | [] => []
  | ⟨_, _, parameters, _, _, _⟩ :: rest => walkAll parameters ++ walkSignatures rest

def walkType? : Option TypeExpr → List Declaration
  | none => []
  | some type => type.walk

def walkTarget? : Option Declaration → List Declaration
  | none => []
  | some d => d.walk

def TypeExpr.walk : TypeExpr → List Declaration
  | .shape d => d.walk
  | .reference ⟨_, arguments, _, target, _⟩ => walkTarget? target ++ walkTypes arguments
  | .union members => walkTypes members
  | .intersection members => walkTypes members
  | .tuple elements => walkTypes elements
  | .array element => element.walk
  | _ => []

def walkTypes : List TypeExpr → List Declaration
  | [] => []
  | type :: rest => type.walk ++ walkTypes rest

end

end ApiPages
