import ApiPages.Proofs.Model.Inside
import ApiPages.Proofs.Page.TypeNodes

namespace ApiPages

open Outcome

-- A step of a list is reached when every step before it succeeds.
inductive Reached {α : Type} (succeeds : α → Prop) : List α → α → Prop
  | head (a : α) (rest : List α) : Reached succeeds (a :: rest) a
  | tail {a b : α} {rest : List α} (h : succeeds a) (hb : Reached succeeds rest b) :
      Reached succeeds (a :: rest) b

namespace Reached

variable {α β : Type} {succeeds : α → Prop} {a : α} {steps others : List α}

theorem mem (h : Reached succeeds steps a) : a ∈ steps := by
  induction h with
  | head => exact List.mem_cons_self
  | tail _ _ ih => exact List.mem_cons_of_mem _ ih

theorem append_left (h : Reached succeeds steps a) : Reached succeeds (steps ++ others) a := by
  induction h with
  | head => exact .head _ _
  | tail ha _ ih => exact .tail ha ih

theorem append_right (hs : ∀ b ∈ steps, succeeds b) (h : Reached succeeds others a) :
    Reached succeeds (steps ++ others) a := by
  induction steps with
  | nil => exact h
  | cons b rest ih =>
      rw [List.forall_mem_cons] at hs
      exact .tail hs.1 (ih hs.2)

theorem map {succeeds : β → Prop} (f : α → β) (h : Reached (fun a => succeeds (f a)) steps a) :
    Reached succeeds (steps.map f) (f a) := by
  induction h with
  | head => exact .head _ _
  | tail ha _ ih => exact .tail ha ih

theorem imp {succeeds' : α → Prop} (himp : ∀ a, succeeds a → succeeds' a)
    (h : Reached succeeds steps a) : Reached succeeds' steps a := by
  induction h with
  | head => exact .head _ _
  | tail ha _ ih => exact .tail (himp _ ha) ih

end Reached

abbrev OutcomeRelation := (α : Type) → Except Fault α → Except Fault α → Prop

-- Results and refusals are related to themselves, and composed computations are related when their
-- parts are. What the second part does after a failure of the first does not count.
structure IsCongruence (R : OutcomeRelation) : Prop where
  ok : ∀ {α : Type} (a : α), R α (.ok a) (.ok a)
  input : ∀ {α : Type} (error : InputError), R α (.error (.input error)) (.error (.input error))
  bind : ∀ {α β : Type} {x y : Except Fault α} {f g : α → Except Fault β}, R α x y →
    (∀ a, x = .ok a → R β (f a) (g a)) → R β (x >>= f) (y >>= g)

theorem isCongruence_eq : IsCongruence fun _ x y => x = y where
  ok _ := rfl
  input _ := rfl
  bind := by
    rintro α β x _ f g rfl h
    cases x with
    | error fault => rfl
    | ok a => exact h a rfl

namespace IsCongruence

variable {R : OutcomeRelation} {α β : Type}

theorem mapM (hR : IsCongruence R) {f g : α → Except Fault β} {items : List α}
    (h : ∀ a, Reached (fun a => ∃ b, f a = .ok b) items a → R β (f a) (g a)) :
    R (List β) (items.mapM f) (items.mapM g) := by
  induction items with
  | nil => exact hR.ok []
  | cons item rest ih =>
      rw [List.mapM_cons, List.mapM_cons]
      refine hR.bind (h item (.head _ _)) fun first hfirst => ?_
      refine hR.bind (ih fun a ha => h a (.tail ⟨first, hfirst⟩ ha)) fun others _ => ?_
      exact hR.ok (first :: others)

end IsCongruence

-- The nodes of a part. `expand` gives the type behind an inline name with a number.
def partNodes (ctx : Context) (expand : String → SymbolId → Rendered) : ModelPart → Rendered
  | .type type => typeNodes ctx expand type
  | .declaration d => declarationNodes ctx expand d
  | .signature s => signatureNodes ctx expand s

-- The types in an index signature that are rendered.
def indexCalls (s : Signature) : List ModelPart :=
  match s.parameters with
  | [] => []
  | key :: _ => key.type.toList.map .type ++ s.type.toList.map .type

namespace Context

-- The parts inside a part that its rendering renders, in this order.
def typeCalls (ctx : Context) : TypeExpr → List ModelPart
  | .reference r =>
    if ctx.isInline r.name then (r.target.bind (·.type)).toList.map .type
    else if ctx.tables.templateless.contains r.name then []
    else r.arguments.map .type
  | .literal _ => []
  | .intrinsic _ => []
  | .parameter _ => []
  | .indexed object index => [.type object, .type index]
  | .union members => members.map .type
  | .intersection members => members.map .type
  | .array element => [.type element]
  | .tuple elements => elements.map .type
  | .shape d => [.declaration d]
  | .conditional check _ ifTrue ifFalse => [.type check, .type ifTrue, .type ifFalse]
  | .operator _ target => [.type target]
  | .query target => [.type target]

def declarationCalls (d : Declaration) : List ModelPart :=
  match d.type with
  | some type => [.type type]
  | none =>
    match d.children with
    | child :: rest => (child :: rest).map .declaration
    | [] =>
      match d.indexSignature with
      | some index => indexCalls index
      | none => d.signatures.head?.toList.map .signature

def signatureCalls (s : Signature) : List ModelPart :=
  s.parameters.map .declaration ++ s.type.toList.map .type

def calls (ctx : Context) : ModelPart → List ModelPart
  | .type type => ctx.typeCalls type
  | .declaration d => declarationCalls d
  | .signature s => signatureCalls s

-- A context with another page and other symbols.
def moved (ctx : Context) (page : String) (symbols : SymbolIndex) : Context :=
  { ctx with page, symbols }

end Context

section Inside

open ModelPart

variable {ctx : Context} {part : ModelPart}

theorem inside_of_mem_indexCalls {s : Signature} (h : part ∈ indexCalls s) :
    part.Inside (.signature s) := by
  unfold indexCalls at h
  split at h
  · cases h
  · rename_i key rest hs
    rcases List.mem_append.mp h with hm | hm
    · have hkey : part ∈ (ModelPart.declaration key).inner := by
        simp only [ModelPart.inner, ofDeclaration, List.mem_append]
        exact .inl (.inl (.inl (.inl (.inl hm))))
      exact (Inside.inner hkey).of_inner (by simp [hs])
    · exact .inner (List.mem_append_right _ hm)

theorem inside_of_mem_typeCalls {type : TypeExpr} (h : part ∈ ctx.typeCalls type) :
    part.Inside (.type type) := by
  unfold Context.typeCalls at h
  split at h
  · rename_i r
    split at h
    · obtain ⟨type, hm, rfl⟩ := List.mem_map.mp h
      obtain ⟨d, hd, htype⟩ := Option.bind_eq_some_iff.mp (Option.mem_toList.mp hm)
      have hinner : ModelPart.type type ∈ (ModelPart.declaration d).inner := by simp [htype]
      exact (Inside.inner hinner).of_inner (by simp [hd])
    · split at h
      · cases h
      · exact .inner (List.mem_append_left _ h)
  case h_11 => exact .inner (by simp at h ⊢; tauto)
  all_goals exact .inner h

theorem inside_of_mem_declarationCalls {d : Declaration} (h : part ∈ Context.declarationCalls d) :
    part.Inside (.declaration d) := by
  unfold Context.declarationCalls at h
  split at h
  · rename_i type htype
    rw [List.mem_singleton.mp h]
    exact .inner (by simp [htype])
  · split at h
    · rename_i child rest hc
      rw [← hc] at h
      obtain ⟨child, hm, rfl⟩ := List.mem_map.mp h
      exact .inner (by simp [hm])
    · split at h
      · rename_i index hi
        exact (inside_of_mem_indexCalls h).of_inner (by simp [hi])
      · obtain ⟨s, hm, rfl⟩ := List.mem_map.mp h
        exact .inner (by simp [List.mem_of_mem_head? (Option.mem_toList.mp hm)])

-- What a part renders stands inside it.
theorem inside_of_mem_calls {whole : ModelPart} (h : part ∈ ctx.calls whole) :
    part.Inside whole := by
  cases whole with
  | type type => exact inside_of_mem_typeCalls h
  | declaration d => exact inside_of_mem_declarationCalls h
  | signature s =>
      apply Inside.inner
      simp only [Context.calls, Context.signatureCalls, ModelPart.inner, ofSignature,
        List.mem_append] at h ⊢
      tauto

end Inside

-- What a part renders as in two contexts, or with two ways to look symbols up, is related as far as
-- the parts that the first rendering comes to satisfy an assumption.
structure Alike (R : OutcomeRelation) (ctx ctx' : Context)
    (expand expand' : String → SymbolId → Rendered) (assumed : ModelPart → Prop) : Prop where
  calls : ∀ whole part, assumed whole →
    Reached (fun part => ∃ nodes, partNodes ctx expand part = .ok nodes) (ctx.calls whole) part →
    assumed part
  plain : ∀ name, assumed (.type (.intrinsic name)) ∨ assumed (.type (.parameter name)) →
    R (List Node) (ctx.plainNameNodes name) (ctx'.plainNameNodes name)
  lookUp : ∀ r id, assumed (.type (.reference r)) → ctx.isInline r.name = true →
    r.target = none → r.targetId = some id → R (List Node) (expand r.name id) (expand' r.name id)

namespace Alike

variable {R : OutcomeRelation} {ctx : Context} {page : String} {symbols : SymbolIndex}
  {expand expand' : String → SymbolId → Rendered} {assumed : ModelPart → Prop}

theorem optional (hR : IsCongruence R) {type : Option TypeExpr}
    (htype : ∀ t ∈ type,
      R _ (typeNodes ctx expand t) (typeNodes (ctx.moved page symbols) expand' t)) :
    R _ (typeNodes? ctx expand type) (typeNodes? (ctx.moved page symbols) expand' type) := by
  cases type with
  | none => simpa only [typeNodes?] using hR.ok []
  | some type => simpa only [typeNodes?] using htype type rfl

theorem reached_optional {succeeds : ModelPart → Prop} {type : Option TypeExpr} {t : TypeExpr}
    (ht : t ∈ type) : Reached succeeds (type.toList.map .type) (.type t) := by
  cases ht
  exact .head _ _

theorem exists_of_optional {type : Option TypeExpr} {nodes : List Node}
    (h : typeNodes? ctx expand type = .ok nodes) :
    ∀ part ∈ type.toList.map ModelPart.type, ∃ nodes, partNodes ctx expand part = .ok nodes := by
  cases type with
  | none => exact List.forall_mem_nil _
  | some type =>
      rw [typeNodes?] at h
      exact List.forall_mem_singleton.mpr ⟨nodes, h⟩

section Parts

variable (hR : IsCongruence R) (h : Alike R ctx (ctx.moved page symbols) expand expand' assumed)

include hR h

theorem reference {r : Reference} (hr : assumed (.type (.reference r)))
    (harguments : ∀ type ∈ r.arguments, assumed (.type type) →
      R _ (typeNodes ctx expand type) (typeNodes (ctx.moved page symbols) expand' type))
    (htarget : ∀ d ∈ r.target, (∀ type ∈ d.type, assumed (.type type)) →
      R _ (typeNodes? ctx expand d.type) (typeNodes? (ctx.moved page symbols) expand' d.type)) :
    R _ (typeNodes ctx expand (.reference r))
      (typeNodes (ctx.moved page symbols) expand' (.reference r)) := by
  have hcalls := fun part => h.calls (.type (.reference r)) part hr
  simp only [Context.calls, Context.typeCalls] at hcalls
  rw [typeNodes_reference, typeNodes_reference]
  change R _ _ (if ctx.isInline r.name then _ else if ctx.tables.templateless.contains r.name then _
    else _)
  by_cases hinline : ctx.isInline r.name = true
  · simp only [if_pos hinline] at hcalls ⊢
    unfold expansion
    cases ht : r.target with
    | some d =>
        have hd := htarget d ht fun type hm => hcalls _ (by rw [ht]; exact reached_optional hm)
        cases htype : d.type with
        | none => simpa only [htype] using hR.input _
        | some type => simpa only [htype, typeNodes?] using hd
    | none =>
        cases hid : r.targetId with
        | none => exact hR.input _
        | some id => exact h.lookUp r id hr hinline ht hid
  · simp only [if_neg hinline] at hcalls ⊢
    by_cases hbare : ctx.tables.templateless.contains r.name = true
    · simp only [if_pos hbare]
      exact hR.ok _
    · simp only [if_neg hbare] at hcalls ⊢
      refine hR.bind (hR.mapM fun type hm => ?_) fun groups _ => hR.ok _
      exact harguments type hm.mem (hcalls _ (hm.map ModelPart.type))

theorem body {d : Declaration} (hd : assumed (.declaration d))
    (htype : ∀ type ∈ d.type, assumed (.type type) →
      R _ (typeNodes ctx expand type) (typeNodes (ctx.moved page symbols) expand' type))
    (hsignatures : ∀ s ∈ d.signatures, assumed (.signature s) →
      R _ (signatureNodes ctx expand s) (signatureNodes (ctx.moved page symbols) expand' s))
    (hchildren : ∀ child ∈ d.children, assumed (.declaration child) →
      R _ (declarationNodes ctx expand child)
        (declarationNodes (ctx.moved page symbols) expand' child))
    (hindex : ∀ s ∈ d.indexSignature,
      (∀ part, Reached (fun part => ∃ nodes, partNodes ctx expand part = .ok nodes) (indexCalls s)
        part → assumed part) →
      R _ (indexSignatureNodes ctx expand d.name s)
        (indexSignatureNodes (ctx.moved page symbols) expand' d.name s)) :
    R _ (bodyNodes ctx expand d) (bodyNodes (ctx.moved page symbols) expand' d) := by
  have hcalls := fun part => h.calls (.declaration d) part hd
  simp only [Context.calls, Context.declarationCalls] at hcalls
  unfold bodyNodes
  cases ht : d.type with
  | some type =>
      simp only [ht] at hcalls
      exact htype type ht (hcalls _ (.head _ _))
  | none =>
      cases hc : d.children with
      | cons child rest =>
          simp only [ht, hc] at hcalls
          refine hR.bind (hR.mapM fun child hm => ?_) fun groups _ => hR.ok _
          exact hchildren child (hc ▸ hm.mem) (hcalls _ (hm.map ModelPart.declaration))
      | nil =>
          cases hi : d.indexSignature with
          | some index =>
              simp only [ht, hc, hi] at hcalls
              exact hindex index hi hcalls
          | none =>
              simp only [ht, hc, hi] at hcalls
              cases hs : d.signatures with
              | nil => simpa only [firstSignatureNodes] using hR.ok []
              | cons s rest =>
                  simp only [hs] at hcalls
                  simp only [firstSignatureNodes]
                  exact hsignatures s (hs ▸ List.mem_cons_self) (hcalls _ (.head _ _))

-- By induction on the part: what it renders itself is assumed in turn.
theorem hereditary :
    Hereditary
      (fun type => assumed (.type type) →
        R _ (typeNodes ctx expand type) (typeNodes (ctx.moved page symbols) expand' type))
      (fun d => (assumed (.declaration d) →
          R _ (declarationNodes ctx expand d)
            (declarationNodes (ctx.moved page symbols) expand' d)) ∧
        ((∀ type ∈ d.type, assumed (.type type)) →
          R _ (typeNodes? ctx expand d.type) (typeNodes? (ctx.moved page symbols) expand' d.type)))
      (fun s => (assumed (.signature s) →
          R _ (signatureNodes ctx expand s) (signatureNodes (ctx.moved page symbols) expand' s)) ∧
        ∀ owner, (∀ part, Reached (fun part => ∃ nodes, partNodes ctx expand part = .ok nodes)
            (indexCalls s) part → assumed part) →
          R _ (indexSignatureNodes ctx expand owner s)
            (indexSignatureNodes (ctx.moved page symbols) expand' owner s))
    where
  reference := by
    intro r harguments htarget hr
    exact h.reference hR hr harguments fun d hd => (htarget d hd).2
  literal := by
    intro value _
    simp only [typeNodes]
    exact hR.ok _
  intrinsic := by
    intro name hname
    simp only [typeNodes]
    exact h.plain name (.inl hname)
  parameter := by
    intro name hname
    simp only [typeNodes]
    exact h.plain name (.inr hname)
  indexed := by
    intro object index hobject hindex hwhole
    have hcalls := fun part => h.calls _ part hwhole
    simp only [typeNodes]
    refine hR.bind (hobject (hcalls _ (.head _ _))) fun first hfirst => ?_
    exact hR.bind (hindex (hcalls _ (.tail ⟨first, hfirst⟩ (.head _ _)))) fun second _ => hR.ok _
  union := by
    intro members hmembers hwhole
    simp only [typeNodes, typeGroups_eq_mapM]
    refine hR.bind (hR.mapM fun type hm => ?_) fun groups _ => hR.ok _
    exact hmembers type hm.mem (h.calls _ _ hwhole (hm.map ModelPart.type))
  intersection := by
    intro members hmembers hwhole
    simp only [typeNodes, typeGroups_eq_mapM]
    refine hR.bind (hR.mapM fun type hm => ?_) fun groups _ => hR.ok _
    exact hmembers type hm.mem (h.calls _ _ hwhole (hm.map ModelPart.type))
  array := by
    intro element helement hwhole
    simp only [typeNodes]
    exact hR.bind (helement (h.calls _ _ hwhole (.head _ _))) fun inner _ => hR.ok _
  tuple := by
    intro elements helements hwhole
    simp only [typeNodes, typeGroups_eq_mapM]
    refine hR.bind (hR.mapM fun type hm => ?_) fun groups _ => hR.ok _
    exact helements type hm.mem (h.calls _ _ hwhole (hm.map ModelPart.type))
  shape := by
    intro d hd hwhole
    simp only [typeNodes]
    exact hd.1 (h.calls _ _ hwhole (.head _ _))
  conditional := by
    intro check extends_ ifTrue ifFalse hcheck _ htrue hfalse hwhole
    have hcalls := fun part => h.calls _ part hwhole
    simp only [typeNodes]
    refine hR.bind (hcheck (hcalls _ (.head _ _))) fun first hfirst => ?_
    refine hR.bind (htrue (hcalls _ (.tail ⟨first, hfirst⟩ (.head _ _)))) fun second hsecond => ?_
    have hthird := hcalls _ (.tail ⟨first, hfirst⟩ (.tail ⟨second, hsecond⟩ (.head _ _)))
    exact hR.bind (hfalse hthird) fun third _ => hR.ok _
  operator := by
    intro name target htarget hwhole
    simp only [typeNodes]
    exact hR.bind (htarget (h.calls _ _ hwhole (.head _ _))) fun inner _ => hR.ok _
  query := by
    intro target htarget hwhole
    simp only [typeNodes]
    exact hR.bind (htarget (h.calls _ _ hwhole (.head _ _))) fun inner _ => hR.ok _
  declaration := by
    intro d htype hsignatures hchildren _ hindex _
    refine ⟨fun hd => ?_, fun hd => optional hR fun type hm => htype type hm (hd type hm)⟩
    rw [declarationNodes_eq, declarationNodes_eq]
    have hbody := h.body hR hd htype (fun s hs => (hsignatures s hs).1)
      (fun child hc => (hchildren child hc).1) fun s hs => (hindex s hs).2 d.name
    exact hR.bind hbody fun body _ => hR.ok _
  signature := by
    intro s hparameters _ htype
    constructor
    · intro hs
      have hcalls := fun part => h.calls (.signature s) part hs
      rw [signatureNodes_eq, signatureNodes_eq]
      refine hR.bind (hR.mapM fun p hp => ?_) fun groups hgroups => ?_
      · exact (hparameters p hp.mem).1 (hcalls _ (hp.map ModelPart.declaration).append_left)
      · have hall : ∀ part ∈ s.parameters.map ModelPart.declaration,
            ∃ nodes, partNodes ctx expand part = .ok nodes :=
          List.forall_mem_map.mpr (exists_mapM_eq_ok_iff.mp ⟨groups, hgroups⟩)
        refine hR.bind (optional hR fun type hm => ?_) fun result _ => hR.ok _
        exact htype type hm (hcalls _ ((reached_optional hm).append_right hall))
    · intro owner hcalls
      rw [indexSignatureNodes_eq, indexSignatureNodes_eq]
      cases hs : s.parameters with
      | nil => exact hR.input _
      | cons key rest =>
          simp only [indexCalls, hs] at hcalls
          have hkey := (hparameters key (hs ▸ List.mem_cons_self)).2 fun type hm =>
            hcalls _ (reached_optional hm).append_left
          refine hR.bind hkey fun first hfirst => ?_
          refine hR.bind (optional hR fun type hm => ?_) fun second _ => hR.ok _
          exact htype type hm
            (hcalls _ ((reached_optional hm).append_right (exists_of_optional hfirst)))

theorem partNodes (part : ModelPart) (hpart : assumed part) :
    R _ (partNodes ctx expand part) (partNodes (ctx.moved page symbols) expand' part) := by
  cases part with
  | type type => exact (h.hereditary hR).forType type hpart
  | declaration d => exact ((h.hereditary hR).forDeclaration d).1 hpart
  | signature s => exact ((h.hereditary hR).forSignature s).1 hpart

end Parts

end Alike

end ApiPages
