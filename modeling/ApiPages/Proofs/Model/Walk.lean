import ApiPages.Model.Walk
import ApiPages.Proofs.Model.Inside

namespace ApiPages

theorem walkAll_eq_flatMap (ds : List Declaration) : walkAll ds = ds.flatMap (·.walk) := by
  induction ds with
  | nil => rw [walkAll]; rfl
  | cons d rest ih => rw [walkAll, ih, List.flatMap_cons]

theorem walkTypes_eq_flatMap (types : List TypeExpr) : walkTypes types = types.flatMap (·.walk) := by
  induction types with
  | nil => rw [walkTypes]; rfl
  | cons type rest ih => rw [walkTypes, ih, List.flatMap_cons]

theorem walkSignatures_eq_flatMap (signatures : List Signature) :
    walkSignatures signatures = signatures.flatMap fun s => walkAll s.parameters := by
  induction signatures with
  | nil => rw [walkSignatures]; rfl
  | cons s rest ih => cases s; rw [walkSignatures, ih, List.flatMap_cons]

theorem walkType?_eq_flatMap (type : Option TypeExpr) :
    walkType? type = type.toList.flatMap (·.walk) := by
  cases type <;> simp [walkType?]

theorem walkTarget?_eq_flatMap (target : Option Declaration) :
    walkTarget? target = target.toList.flatMap (·.walk) := by
  cases target <;> simp [walkTarget?]

namespace ModelPart

-- The parts that a walk enters, in its order.
def entered : ModelPart → List ModelPart
  | .type (.reference r) => r.target.toList.map .declaration ++ r.arguments.map .type
  | .type (.union members) => members.map .type
  | .type (.intersection members) => members.map .type
  | .type (.array element) => [.type element]
  | .type (.tuple elements) => elements.map .type
  | .type (.shape d) => [.declaration d]
  | .type _ => []
  | .declaration d =>
    d.children.map .declaration ++ d.signatures.map .signature ++ d.type.toList.map .type
  | .signature s => s.parameters.map .declaration

-- The parts that a walk passes by.
def passed : ModelPart → List ModelPart
  | .type (.indexed object index) => [.type object, .type index]
  | .type (.conditional check extends_ ifTrue ifFalse) =>
    .type check :: extends_.toList.map .type ++ [.type ifTrue, .type ifFalse]
  | .type (.operator _ target) => [.type target]
  | .type (.query target) => [.type target]
  | .type _ => []
  | .declaration d =>
    d.extendedTypes.map .type ++ d.indexSignature.toList.map .signature ++
      d.typeParameters.map .declaration
  | .signature s => s.typeParameters.map .declaration ++ s.type.toList.map .type

theorem mem_inner_iff {part whole : ModelPart} :
    part ∈ whole.inner ↔ part ∈ whole.entered ∨ part ∈ whole.passed := by
  cases whole with
  | type type =>
      cases type with
      | reference r =>
          simp only [inner, ofType, entered, passed, List.mem_append, List.not_mem_nil, or_false]
          exact or_comm
      | _ => simp [entered, passed]
  | declaration d =>
      simp only [inner, ofDeclaration, entered, passed, List.mem_append]
      grind
  | signature s =>
      simp only [inner, ofSignature, entered, passed, List.mem_append]
      grind

-- A walk over one part comes to another one.
def WalksTo (whole part : ModelPart) : Prop :=
  Relation.ReflTransGen (fun outer part => part ∈ outer.entered) whole part

def walk : ModelPart → List Declaration
  | .type t => t.walk
  | .declaration d => d.walk
  | .signature s => walkAll s.parameters

def own : ModelPart → List Declaration
  | .declaration d => [d]
  | _ => []

-- A walk yields the declaration itself and then what the walks over the entered parts yield.
theorem walk_eq (whole : ModelPart) : whole.walk = whole.own ++ whole.entered.flatMap walk := by
  cases whole with
  | type type =>
      cases type with
      | reference r =>
          cases r
          simp [walk, own, entered, TypeExpr.walk, walkTarget?_eq_flatMap, walkTypes_eq_flatMap,
            List.flatMap_map]
      | _ =>
          simp [walk, own, entered, TypeExpr.walk, walkTypes_eq_flatMap, List.flatMap_map]
  | declaration d =>
      cases d
      simp [walk, own, entered, Declaration.walk, walkAll_eq_flatMap, walkSignatures_eq_flatMap,
        walkType?_eq_flatMap, List.flatMap_map]
  | signature s => simp [walk, own, entered, walkAll_eq_flatMap, List.flatMap_map]

theorem mem_own_iff {whole : ModelPart} {found : Declaration} :
    found ∈ whole.own ↔ whole = .declaration found := by
  cases whole with
  | type type => simp [own]
  | declaration d => simp [own, eq_comm]
  | signature s => simp [own]

theorem mem_walk_iff {whole : ModelPart} {found : Declaration} :
    found ∈ whole.walk ↔ whole.WalksTo (.declaration found) := by
  constructor
  · -- By induction on the part: what its walk yields comes from the walk over a part of it.
    induction whole using ModelPart.induction with
    | _ whole ih =>
        intro hfound
        rw [walk_eq, List.mem_append, mem_own_iff, List.mem_flatMap] at hfound
        rcases hfound with rfl | ⟨part, hpart, hfound⟩
        · exact .refl
        · exact .head hpart (ih part (mem_inner_iff.mpr (.inl hpart)) hfound)
  · intro hwalks
    induction hwalks using Relation.ReflTransGen.head_induction_on with
    | refl =>
        rw [walk_eq]
        exact List.mem_append_left _ (mem_own_iff.mpr rfl)
    | head hpart _ ih =>
        rw [walk_eq]
        exact List.mem_append_right _ (List.mem_flatMap.mpr ⟨_, hpart, ih⟩)

theorem WalksTo.occurs {whole part : ModelPart} (h : whole.WalksTo part) : part.Occurs whole :=
  Relation.ReflTransGen.mono (fun _ _ hpart => mem_inner_iff.mpr (.inl hpart)) _ _ h

-- What a walk does not come to stands in a part that it passes by.
theorem Occurs.walksTo_or_passed {part whole : ModelPart} (h : part.Occurs whole) :
    whole.WalksTo part ∨
      ∃ holder middle, whole.WalksTo holder ∧ middle ∈ holder.passed ∧ part.Occurs middle := by
  induction h using Relation.ReflTransGen.head_induction_on with
  | refl => exact .inl .refl
  | @head whole next hnext hpart ih =>
      rcases mem_inner_iff.mp hnext with hentered | hpassed
      · rcases ih with hwalks | ⟨holder, middle, hholder, hmiddle, hoccurs⟩
        · exact .inl (.head hentered hwalks)
        · exact .inr ⟨holder, middle, .head hentered hholder, hmiddle, hoccurs⟩
      · exact .inr ⟨whole, next, .refl, hpassed, hpart⟩

end ModelPart

theorem mem_walkAll_iff {ds : List Declaration} {found : Declaration} :
    found ∈ walkAll ds ↔ ∃ d ∈ ds, (ModelPart.declaration d).WalksTo (.declaration found) := by
  rw [walkAll_eq_flatMap, List.mem_flatMap]
  simp only [← ModelPart.mem_walk_iff, ModelPart.walk]

-- What a walk over declarations yields stands in one of them.
theorem occurs_of_mem_walkAll {ds : List Declaration} {found : Declaration}
    (h : found ∈ walkAll ds) :
    ∃ d ∈ ds, (ModelPart.declaration found).Occurs (.declaration d) := by
  obtain ⟨d, hd, hwalks⟩ := mem_walkAll_iff.mp h
  exact ⟨d, hd, hwalks.occurs⟩

end ApiPages
