import ApiPages.Anchor
import ApiPages.Model.Basic

namespace ApiPages.Declaration

-- A truth value that is false comes before one that is true.
def flagBefore (a b : Bool) (rest : Bool) : Bool := if a = b then rest else !a

def isPlainName (d : Declaration) : Bool := !Anchor.isCapitalized d.name

def nameBefore (a b : Declaration) : Bool :=
  flagBefore a.isPlainName b.isPlainName (a.name ≤ b.name)

def memberBefore (a b : Declaration) : Bool :=
  flagBefore a.isCallable b.isCallable (nameBefore a b)

def sortByName (ds : List Declaration) : List Declaration := ds.mergeSort nameBefore

def sortMembers (ds : List Declaration) : List Declaration := ds.mergeSort memberBefore

-- The names of the parameters of the first signature; optional ones are marked.
def argumentsText (d : Declaration) : String :=
  let parameters := (d.signatures.head?.map (·.parameters)).getD []
  let names := parameters.map fun p => if p.flags.isOptional then p.name ++ "?" else p.name
  "(" ++ ", ".intercalate names ++ ")"

end ApiPages.Declaration
