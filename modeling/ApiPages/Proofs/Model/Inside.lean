import ApiPages.Proofs.Model.Induction
import Mathlib.Data.Set.Finite.Lattice
import Mathlib.Logic.Relation

namespace ApiPages

-- A type, a declaration or a signature.
inductive ModelPart where
  | type (type : TypeExpr)
  | declaration (d : Declaration)
  | signature (s : Signature)

namespace ModelPart

-- What a type holds directly.
@[simp] def ofType : TypeExpr → List ModelPart
  | .reference r => r.arguments.map .type ++ r.target.toList.map .declaration
  | .literal _ => []
  | .intrinsic _ => []
  | .parameter _ => []
  | .indexed object index => [.type object, .type index]
  | .union members => members.map .type
  | .intersection members => members.map .type
  | .array element => [.type element]
  | .tuple elements => elements.map .type
  | .shape d => [.declaration d]
  | .conditional check extends_ ifTrue ifFalse =>
    .type check :: extends_.toList.map .type ++ [.type ifTrue, .type ifFalse]
  | .operator _ target => [.type target]
  | .query target => [.type target]

@[simp] def ofDeclaration (d : Declaration) : List ModelPart :=
  d.type.toList.map .type ++ d.signatures.map .signature ++ d.children.map .declaration ++
    d.extendedTypes.map .type ++ d.indexSignature.toList.map .signature ++
    d.typeParameters.map .declaration

@[simp] def ofSignature (s : Signature) : List ModelPart :=
  s.parameters.map .declaration ++ s.typeParameters.map .declaration ++ s.type.toList.map .type

@[simp] def inner : ModelPart → List ModelPart
  | .type t => ofType t
  | .declaration d => ofDeclaration d
  | .signature s => ofSignature s

-- What a part has whenever everything directly in it has it, every part has.
theorem induction {holds : ModelPart → Prop}
    (h : ∀ whole : ModelPart, (∀ part ∈ whole.inner, holds part) → holds whole)
    (whole : ModelPart) : holds whole := by
  have hall : Hereditary (fun type => holds (.type type)) (fun d => holds (.declaration d))
      (fun s => holds (.signature s)) := by
    constructor
    all_goals
      intros
      apply h
      simp only [inner, ofType, ofDeclaration, ofSignature, List.mem_append, List.mem_map,
        List.mem_cons, Option.mem_toList]
      grind
  cases whole with
  | type type => exact hall.forType type
  | declaration d => exact hall.forDeclaration d
  | signature s => exact hall.forSignature s

-- A part is the whole or stands inside it, however deep.
def Occurs (part whole : ModelPart) : Prop :=
  Relation.ReflTransGen (fun outer part => part ∈ outer.inner) whole part

theorem Occurs.refl (whole : ModelPart) : Occurs whole whole := Relation.ReflTransGen.refl

theorem Occurs.of_inner {part middle whole : ModelPart} (hm : middle ∈ whole.inner)
    (h : Occurs part middle) : Occurs part whole := Relation.ReflTransGen.head hm h

theorem Occurs.trans {part middle whole : ModelPart} (h : Occurs part middle)
    (hm : Occurs middle whole) : Occurs part whole := Relation.ReflTransGen.trans hm h

theorem Occurs.inner {part whole : ModelPart} (h : part ∈ whole.inner) : Occurs part whole :=
  Relation.ReflTransGen.single h

-- What stands in a part has the property if the part has it.
def Inherited (holds : ModelPart → Prop) : Prop :=
  ∀ whole part, holds whole → part ∈ whole.inner → holds part

theorem Inherited.occurs {holds : ModelPart → Prop} (h : Inherited holds) {part whole : ModelPart}
    (hp : part.Occurs whole) (hw : holds whole) : holds part := by
  induction hp with
  | refl => exact hw
  | tail _ hm ih => exact h _ _ ih hm

-- A part occurs where it stands itself or in something that is held directly.
theorem occurs_iff {part whole : ModelPart} :
    Occurs part whole ↔ whole = part ∨ ∃ middle ∈ whole.inner, Occurs part middle :=
  Relation.ReflTransGen.cases_head_iff

-- A part stands inside the whole and is not just the whole itself.
def Inside (part whole : ModelPart) : Prop := ∃ middle ∈ whole.inner, Occurs part middle

theorem Inside.inner {part whole : ModelPart} (h : part ∈ whole.inner) : Inside part whole :=
  ⟨part, h, .refl part⟩

theorem Inside.of_inner {part middle whole : ModelPart} (hm : middle ∈ whole.inner)
    (h : Inside part middle) : Inside part whole :=
  ⟨middle, hm, occurs_iff.mpr (.inr h)⟩

theorem Inside.occurs {part whole : ModelPart} (h : Inside part whole) : Occurs part whole :=
  occurs_iff.mpr (.inr h)

-- What a part has whenever everything inside it has it, however deep, every part has.
theorem insideInduction {holds : ModelPart → Prop}
    (h : ∀ whole : ModelPart, (∀ part, part.Inside whole → holds part) → holds whole)
    (whole : ModelPart) : holds whole := by
  have hall : ∀ whole part : ModelPart, part.Occurs whole → holds part := by
    intro whole
    induction whole using ModelPart.induction with
    | h whole ih =>
        intro part hpart
        rcases occurs_iff.mp hpart with rfl | ⟨middle, hm, hpart⟩
        · exact h whole fun part ⟨middle, hm, hpart⟩ => ih middle hm part hpart
        · exact ih middle hm part hpart
  exact hall whole whole (.refl whole)

-- There are only so many parts in a whole.
theorem finite_occurs (whole : ModelPart) : {part : ModelPart | part.Occurs whole}.Finite := by
  induction whole using ModelPart.induction with
  | h whole ih =>
      have hinner := Set.Finite.biUnion (List.finite_toSet whole.inner) ih
      refine ((Set.finite_singleton whole).union hinner).subset fun part hpart => ?_
      rcases occurs_iff.mp hpart with rfl | ⟨middle, hm, hpart⟩
      · exact .inl rfl
      · exact .inr (Set.mem_biUnion hm hpart)

end ModelPart

end ApiPages
