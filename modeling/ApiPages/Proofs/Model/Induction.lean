import ApiPages.Model.Basic

namespace ApiPages

theorem Reference.parts_lt (r : Reference) :
    sizeOf r.arguments < sizeOf r ∧ sizeOf r.target < sizeOf r := by
  cases r
  simp only [Reference.mk.sizeOf_spec]
  omega

theorem Declaration.parts_lt (d : Declaration) :
    sizeOf d.type < sizeOf d ∧ sizeOf d.signatures < sizeOf d ∧ sizeOf d.children < sizeOf d ∧
      sizeOf d.extendedTypes < sizeOf d ∧ sizeOf d.indexSignature < sizeOf d ∧
      sizeOf d.typeParameters < sizeOf d := by
  cases d
  simp only [Declaration.mk.sizeOf_spec]
  omega

theorem Signature.parts_lt (s : Signature) :
    sizeOf s.parameters < sizeOf s ∧ sizeOf s.typeParameters < sizeOf s ∧
      sizeOf s.type < sizeOf s := by
  cases s
  simp only [Signature.mk.sizeOf_spec]
  omega

theorem sizeOf_lt_of_mem_option {α : Type} [SizeOf α] {a : α} {o : Option α} (h : a ∈ o) :
    sizeOf a < sizeOf o := by
  cases h
  simp

-- Properties of types, declarations and signatures that each of them has when its parts have them.
structure Hereditary (onType : TypeExpr → Prop) (onDeclaration : Declaration → Prop)
    (onSignature : Signature → Prop) : Prop where
  reference : ∀ r : Reference, (∀ type ∈ r.arguments, onType type) →
    (∀ d ∈ r.target, onDeclaration d) → onType (.reference r)
  literal : ∀ value, onType (.literal value)
  intrinsic : ∀ name, onType (.intrinsic name)
  parameter : ∀ name, onType (.parameter name)
  indexed : ∀ object index, onType object → onType index → onType (.indexed object index)
  union : ∀ members, (∀ type ∈ members, onType type) → onType (.union members)
  intersection : ∀ members, (∀ type ∈ members, onType type) → onType (.intersection members)
  array : ∀ element, onType element → onType (.array element)
  tuple : ∀ elements, (∀ type ∈ elements, onType type) → onType (.tuple elements)
  shape : ∀ d, onDeclaration d → onType (.shape d)
  conditional : ∀ check extends_ ifTrue ifFalse, onType check → (∀ type ∈ extends_, onType type) →
    onType ifTrue → onType ifFalse → onType (.conditional check extends_ ifTrue ifFalse)
  operator : ∀ name target, onType target → onType (.operator name target)
  query : ∀ target, onType target → onType (.query target)
  declaration : ∀ d : Declaration, (∀ type ∈ d.type, onType type) →
    (∀ s ∈ d.signatures, onSignature s) → (∀ child ∈ d.children, onDeclaration child) →
    (∀ type ∈ d.extendedTypes, onType type) → (∀ s ∈ d.indexSignature, onSignature s) →
    (∀ p ∈ d.typeParameters, onDeclaration p) → onDeclaration d
  signature : ∀ s : Signature, (∀ p ∈ s.parameters, onDeclaration p) →
    (∀ p ∈ s.typeParameters, onDeclaration p) → (∀ type ∈ s.type, onType type) → onSignature s

namespace Hereditary

variable {onType : TypeExpr → Prop} {onDeclaration : Declaration → Prop}
  {onSignature : Signature → Prop}

mutual

theorem forType (h : Hereditary onType onDeclaration onSignature) : (type : TypeExpr) → onType type
  | .reference r => h.reference r (fun type _ => forType h type) fun d _ => forDeclaration h d
  | .literal value => h.literal value
  | .intrinsic name => h.intrinsic name
  | .parameter name => h.parameter name
  | .indexed object index => h.indexed object index (forType h object) (forType h index)
  | .union members => h.union members fun type _ => forType h type
  | .intersection members => h.intersection members fun type _ => forType h type
  | .array element => h.array element (forType h element)
  | .tuple elements => h.tuple elements fun type _ => forType h type
  | .shape d => h.shape d (forDeclaration h d)
  | .conditional check extends_ ifTrue ifFalse =>
      h.conditional check extends_ ifTrue ifFalse (forType h check) (fun type _ => forType h type)
        (forType h ifTrue) (forType h ifFalse)
  | .operator name target => h.operator name target (forType h target)
  | .query target => h.query target (forType h target)
termination_by type => sizeOf type
decreasing_by
  · have := Nat.lt_trans (List.sizeOf_lt_of_mem ‹type ∈ r.arguments›) r.parts_lt.1
    simp only [TypeExpr.reference.sizeOf_spec]
    omega
  · have := Nat.lt_trans (sizeOf_lt_of_mem_option ‹d ∈ r.target›) r.parts_lt.2
    simp only [TypeExpr.reference.sizeOf_spec]
    omega
  · simp only [TypeExpr.indexed.sizeOf_spec]; omega
  · simp only [TypeExpr.indexed.sizeOf_spec]; omega
  · have := List.sizeOf_lt_of_mem ‹type ∈ members›
    simp only [TypeExpr.union.sizeOf_spec]
    omega
  · have := List.sizeOf_lt_of_mem ‹type ∈ members›
    simp only [TypeExpr.intersection.sizeOf_spec]
    omega
  · simp only [TypeExpr.array.sizeOf_spec]; omega
  · have := List.sizeOf_lt_of_mem ‹type ∈ elements›
    simp only [TypeExpr.tuple.sizeOf_spec]
    omega
  · simp only [TypeExpr.shape.sizeOf_spec]; omega
  · simp only [TypeExpr.conditional.sizeOf_spec]; omega
  · have := sizeOf_lt_of_mem_option ‹type ∈ extends_›
    simp only [TypeExpr.conditional.sizeOf_spec]
    omega
  · simp only [TypeExpr.conditional.sizeOf_spec]; omega
  · simp only [TypeExpr.conditional.sizeOf_spec]; omega
  · simp only [TypeExpr.operator.sizeOf_spec]; omega
  · simp only [TypeExpr.query.sizeOf_spec]; omega

theorem forDeclaration (h : Hereditary onType onDeclaration onSignature) (d : Declaration) :
    onDeclaration d :=
  h.declaration d (fun type _ => forType h type) (fun s _ => forSignature h s)
    (fun child _ => forDeclaration h child) (fun type _ => forType h type)
    (fun s _ => forSignature h s) fun p _ => forDeclaration h p
termination_by sizeOf d
decreasing_by
  · exact Nat.lt_trans (sizeOf_lt_of_mem_option ‹type ∈ d.type›) d.parts_lt.1
  · exact Nat.lt_trans (List.sizeOf_lt_of_mem ‹s ∈ d.signatures›) d.parts_lt.2.1
  · exact Nat.lt_trans (List.sizeOf_lt_of_mem ‹child ∈ d.children›) d.parts_lt.2.2.1
  · exact Nat.lt_trans (List.sizeOf_lt_of_mem ‹type ∈ d.extendedTypes›) d.parts_lt.2.2.2.1
  · exact Nat.lt_trans (sizeOf_lt_of_mem_option ‹s ∈ d.indexSignature›) d.parts_lt.2.2.2.2.1
  · exact Nat.lt_trans (List.sizeOf_lt_of_mem ‹p ∈ d.typeParameters›) d.parts_lt.2.2.2.2.2

theorem forSignature (h : Hereditary onType onDeclaration onSignature) (s : Signature) :
    onSignature s :=
  h.signature s (fun p _ => forDeclaration h p) (fun p _ => forDeclaration h p)
    fun type _ => forType h type
termination_by sizeOf s
decreasing_by
  · exact Nat.lt_trans (List.sizeOf_lt_of_mem ‹p ∈ s.parameters›) s.parts_lt.1
  · exact Nat.lt_trans (List.sizeOf_lt_of_mem ‹p ∈ s.typeParameters›) s.parts_lt.2.1
  · exact Nat.lt_trans (sizeOf_lt_of_mem_option ‹type ∈ s.type›) s.parts_lt.2.2

end

end Hereditary

end ApiPages
