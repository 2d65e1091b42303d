import ApiPages.Proofs.Page.Reach
import ApiPages.Proofs.Page.Vocabulary
import Mathlib.Order.WellFoundedSet

namespace ApiPages

open Outcome

namespace Context

variable {ctx : Context} {whole part : ModelPart} {error : InputError}

-- The parts that are rendered for a part. For an inline name it is the type of what it means.
def rendered (ctx : Context) : ModelPart → List ModelPart
  | .type (.reference r) =>
    if ctx.isInline r.name then ((ctx.resolve r).bind (·.type)).toList.map .type
    else ctx.typeCalls (.reference r)
  | part => ctx.calls part

-- A part is rendered for the whole, at any depth.
def Shows (ctx : Context) : ModelPart → ModelPart → Prop :=
  Relation.ReflTransGen fun whole part => part ∈ ctx.rendered whole

-- No type is rendered for itself: the inline types do not lead back to one another.
def IsNonrecursive (ctx : Context) : Prop :=
  ∀ part, ¬ Relation.TransGen (fun whole part => part ∈ ctx.rendered whole) part part

-- The parts that are refused by themselves, and how: an inline name that means nothing or something
-- without a type, a placeholder that stands for an inline name, and an index without a key.
inductive Refuses (ctx : Context) : ModelPart → InputError → Prop
  | inline {r : Reference} (hinline : ctx.isInline r.name = true)
      (htype : ∀ d, ctx.resolve r = some d → d.type = none) :
      Refuses ctx (.type (.reference r)) (.inlineUnresolved r.name)
  | placeholder {substitution : Substitution} {type : TypeExpr}
      (hsubstitution : ctx.tables.substitution = some substitution)
      (hinline : ctx.isInline (substitution.resolve ctx.page) = true)
      (htype : type = .intrinsic substitution.name ∨ type = .parameter substitution.name) :
      Refuses ctx (.type type) (.inlineUnresolved (substitution.resolve ctx.page))
  | index {d : Declaration} {index : Signature} (htype : d.type = none)
      (hchildren : d.children = []) (hindex : d.indexSignature = some index)
      (hkey : index.parameters = []) : Refuses ctx (.declaration d) (.indexWithoutKey d.name)

theorem rendered_of_refuses (h : ctx.Refuses whole error) : ctx.rendered whole = [] := by
  cases h with
  | @inline r hinline htype =>
      rw [rendered, if_pos hinline]
      cases hd : ctx.resolve r with
      | none => rfl
      | some d => rw [Option.bind_some, htype d hd]; rfl
  | placeholder _ _ htype => rcases htype with rfl | rfl <;> rfl
  | index htype hchildren hindex hkey =>
      simp only [rendered, calls, declarationCalls, htype, hchildren, hindex, indexCalls,
        hkey]

theorem plainNameNodes_placeholder {substitution : Substitution}
    (hsubstitution : ctx.tables.substitution = some substitution)
    (hinline : ctx.isInline (substitution.resolve ctx.page) = true) :
    ctx.plainNameNodes substitution.name =
      .error (.input (.inlineUnresolved (substitution.resolve ctx.page))) := by
  simp [plainNameNodes, hsubstitution, hinline]

theorem type_unresolved {r : Reference} (hinline : ctx.isInline r.name = true)
    (htype : ∀ d, ctx.resolve r = some d → d.type = none) :
    ctx.type (.reference r) = .error (.input (.inlineUnresolved r.name)) := by
  rw [Context.type, typeNodes_reference, if_pos hinline]
  unfold resolve at htype
  unfold expansion
  cases htarget : r.target with
  | some d =>
      simp only [htarget, Option.some.injEq] at htype
      simp only [htype d rfl]
  | none =>
      simp only [htarget] at htype
      cases hid : r.targetId with
      | none => rfl
      | some id =>
          simp only [hid, Option.bind_some] at htype
          simp only [expand, expandSymbol]
          cases hd : ctx.symbols.lookup? id with
          | none => rfl
          | some d => simp only [htype d hd]

theorem part_of_refuses (h : ctx.Refuses whole error) :
    ctx.part whole = .error (.input error) := by
  cases h with
  | inline hinline htype => exact type_unresolved hinline htype
  | placeholder hsubstitution hinline htype =>
      rcases htype with rfl | rfl <;>
        simp only [Context.part, partNodes, typeNodes,
          plainNameNodes_placeholder hsubstitution hinline]
  | index htype hchildren hindex hkey =>
      simp only [Context.part, partNodes, declarationNodes_eq, bodyNodes, htype, hchildren, hindex,
        indexSignatureNodes_eq, hkey]
      rfl

-- How the rendering of a part fails, if it does.
def fault? (ctx : Context) (part : ModelPart) : Option Fault := Outcome.fault? (ctx.part part)

theorem fault?_plainNameNodes {type : TypeExpr} {name : String}
    (htype : type = .intrinsic name ∨ type = .parameter name)
    (h : ∀ error, ¬ ctx.Refuses (.type type) error) :
    Outcome.fault? (ctx.plainNameNodes name) = none := by
  unfold plainNameNodes
  split
  · rename_i substitution hsubstitution
    split
    · rename_i hname
      subst hname
      dsimp only
      split
      · rename_i hinline
        exact absurd (Refuses.placeholder hsubstitution hinline htype) (h _)
      · rfl
    · rfl
  · rfl

theorem fault?_optional (type : Option TypeExpr) :
    Outcome.fault? (ctx.type? type) = (type.toList.map ModelPart.type).findSome? ctx.fault? := by
  cases type with
  | none => simp only [Context.type?, typeNodes?, fault?_ok, Option.toList_none, List.map_nil,
      List.findSome?_nil]
  | some type =>
      simp only [Context.type?, typeNodes?, Option.toList_some, List.map_singleton,
        List.findSome?_singleton]
      rfl

theorem fault?_types (types : List TypeExpr) :
    Outcome.fault? (types.mapM (typeNodes ctx ctx.expand)) =
      (types.map ModelPart.type).findSome? ctx.fault? := by
  rw [fault?_mapM, List.findSome?_map]
  rfl

theorem fault?_declarations (ds : List Declaration) :
    Outcome.fault? (ds.mapM (declarationNodes ctx ctx.expand)) =
      (ds.map ModelPart.declaration).findSome? ctx.fault? := by
  rw [fault?_mapM, List.findSome?_map]
  rfl

theorem fault?_index {owner : String} {index : Signature} (hkey : index.parameters ≠ []) :
    Outcome.fault? (indexSignatureNodes ctx ctx.expand owner index) =
      (indexCalls index).findSome? ctx.fault? := by
  rw [indexSignatureNodes_eq, indexCalls]
  cases hs : index.parameters with
  | nil => exact absurd hs hkey
  | cons key rest =>
      rw [List.findSome?_append, ← fault?_optional, ← fault?_optional]
      simp only [bind_pure_comp]
      exact fault?_bind fun _ => fault?_map _ _

-- The body of a declaration is what its first filled field holds.
theorem fault?_body {d : Declaration} (h : ∀ error, ¬ ctx.Refuses (.declaration d) error) :
    Outcome.fault? (bodyNodes ctx ctx.expand d) = (declarationCalls d).findSome? ctx.fault? := by
  unfold bodyNodes declarationCalls
  cases htype : d.type with
  | some type => simp only [List.findSome?_singleton]; rfl
  | none =>
      cases hchildren : d.children with
      | cons child rest => simp only [bind_pure_comp, fault?_map, fault?_declarations]
      | nil =>
          cases hindex : d.indexSignature with
          | some index =>
              exact fault?_index fun hkey => h _ (.index htype hchildren hindex hkey)
          | none =>
              cases d.signatures with
              | nil => rfl
              | cons s rest =>
                  simp only [firstSignatureNodes, List.head?_cons, Option.toList_some,
                    List.map_singleton, List.findSome?_singleton]
                  rfl

-- A reference fails as the type of what it means, or as one of its arguments.
theorem fault?_reference {r : Reference}
    (h : ∀ error, ¬ ctx.Refuses (.type (.reference r)) error) :
    ctx.fault? (.type (.reference r)) =
      (ctx.rendered (.type (.reference r))).findSome? ctx.fault? := by
  by_cases hinline : ctx.isInline r.name = true
  · rw [rendered, if_pos hinline]
    cases htype : (ctx.resolve r).bind (·.type) with
    | none =>
        refine absurd (Refuses.inline hinline fun d hd => ?_) (h _)
        rwa [hd, Option.bind_some] at htype
    | some type =>
        obtain ⟨d, hd, htype⟩ := Option.bind_eq_some_iff.mp htype
        have hsame : ctx.part (.type (.reference r)) = ctx.part (.type type) :=
          type_inline hinline hd htype
        simp only [fault?, hsame, Option.toList_some, List.map_singleton,
          List.findSome?_singleton]
  · rw [rendered, if_neg hinline]
    simp only [fault?, Context.part, partNodes, typeNodes_reference, typeCalls, if_neg hinline]
    split
    · rfl
    · simp only [bind_pure_comp, fault?_map, fault?_types]

-- Every other type fails as the first of the types in it.
theorem fault?_type {type : TypeExpr} (h : ∀ error, ¬ ctx.Refuses (.type type) error) :
    ctx.fault? (.type type) = (ctx.rendered (.type type)).findSome? ctx.fault? := by
  cases type with
  | reference r => exact fault?_reference h
  | intrinsic name =>
      simp only [fault?, Context.part, partNodes, typeNodes, fault?_plainNameNodes (.inl rfl) h,
        rendered, calls, typeCalls, List.findSome?_nil]
  | parameter name =>
      simp only [fault?, Context.part, partNodes, typeNodes, fault?_plainNameNodes (.inr rfl) h,
        rendered, calls, typeCalls, List.findSome?_nil]
  | indexed object index =>
      simp only [rendered, calls, typeCalls, findSome?_cons_eq_or, List.findSome?_nil,
        Option.or_none]
      simp only [fault?, Context.part, partNodes, typeNodes, bind_pure_comp]
      exact fault?_bind fun _ => fault?_map _ _
  | conditional check extends_ ifTrue ifFalse =>
      simp only [rendered, calls, typeCalls, findSome?_cons_eq_or, List.findSome?_nil,
        Option.or_none]
      simp only [fault?, Context.part, partNodes, typeNodes, bind_pure_comp]
      exact fault?_bind fun _ => fault?_bind fun _ => fault?_map _ _
  | union members =>
      simp only [fault?, Context.part, partNodes, typeNodes, bind_pure_comp, typeGroups_eq_mapM,
        fault?_map, fault?_types]
      rfl
  | intersection members =>
      simp only [fault?, Context.part, partNodes, typeNodes, bind_pure_comp, typeGroups_eq_mapM,
        fault?_map, fault?_types]
      rfl
  | tuple elements =>
      simp only [fault?, Context.part, partNodes, typeNodes, bind_pure_comp, typeGroups_eq_mapM,
        fault?_map, fault?_types]
      rfl
  | literal _ | array _ | shape _ | operator _ _ | query _ =>
      simp only [rendered, calls, typeCalls, List.findSome?_singleton, List.findSome?_nil]
      simp only [fault?, Context.part, partNodes, typeNodes, bind_pure_comp, fault?_map, fault?_ok]

-- A part that is not refused by itself fails as the first of the parts that are rendered for it.
theorem fault?_eq_findSome? (h : ∀ error, ¬ ctx.Refuses whole error) :
    ctx.fault? whole = (ctx.rendered whole).findSome? ctx.fault? := by
  cases whole with
  | type type => exact fault?_type h
  | declaration d =>
      simp only [fault?, Context.part, partNodes, declarationNodes_eq, bind_pure_comp, fault?_map]
      exact fault?_body h
  | signature s =>
      simp only [fault?, Context.part, partNodes, signatureNodes_eq, bind_pure_comp]
      rw [fault?_bind fun _ => fault?_map _ _, fault?_declarations]
      change _ = (signatureCalls s).findSome? ctx.fault?
      rw [signatureCalls, List.findSome?_append, ← fault?_optional]
      rfl

theorem fault?_of_refuses (h : ctx.Refuses whole error) :
    ctx.fault? whole = some (.input error) := by
  rw [fault?, part_of_refuses h, fault?_error]

theorem givesNodes_iff : ctx.GivesNodes part ↔ ctx.fault? part = none :=
  fault?_eq_none_iff.symm

-- What is rendered for a part stands in it, unless it is looked up by its number.
theorem rendered_cases (whole : ModelPart) :
    ctx.rendered whole = ctx.calls whole ∨
      ∃ r id, whole = .type (.reference r) ∧ ctx.isInline r.name = true ∧ r.target = none ∧
        r.targetId = some id ∧ ctx.calls whole = [] ∧
        ctx.rendered whole = ((ctx.symbols.lookup? id).bind (·.type)).toList.map .type := by
  unfold rendered
  split
  · rename_i r
    by_cases hinline : ctx.isInline r.name = true
    · simp only [if_pos hinline, calls, typeCalls, resolve]
      cases htarget : r.target with
      | some d => exact .inl rfl
      | none =>
          cases hid : r.targetId with
          | none => exact .inl rfl
          | some id => exact .inr ⟨r, id, rfl, hinline, htarget, hid, rfl, rfl⟩
    · exact .inl (if_neg hinline)
  · exact .inl rfl

-- What a rendering comes to next is rendered for the part, behind parts that give nodes.
theorem leads_iff : ctx.Leads whole part ↔ Reached ctx.GivesNodes (ctx.rendered whole) part := by
  constructor
  · rintro (h | ⟨hinline, htarget, hid, hd, htype⟩)
    · obtain hsame | ⟨r, id, -, -, -, -, hcalls, -⟩ := ctx.rendered_cases whole
      · rwa [hsame]
      · rw [hcalls] at h
        cases h
    · simp only [rendered, if_pos hinline, resolve, htarget, hid, Option.bind_some, hd, htype]
      exact .head _ _
  · intro h
    obtain hsame | ⟨r, id, rfl, hinline, htarget, hid, -, hbehind⟩ := ctx.rendered_cases whole
    · exact .inside (hsame ▸ h)
    · rw [hbehind] at h
      obtain ⟨type, htype, rfl⟩ := List.mem_map.mp h.mem
      obtain ⟨d, hd, htype⟩ := Option.bind_eq_some_iff.mp (Option.mem_toList.mp htype)
      exact .lookUp hinline htarget hid hd htype

-- The first part that fails is the one that is come to.
theorem findSome?_fault?_eq_some_iff {parts : List ModelPart} {fault : Fault} :
    parts.findSome? ctx.fault? = some fault ↔
      ∃ part, Reached ctx.GivesNodes parts part ∧ ctx.fault? part = some fault := by
  induction parts with
  | nil =>
      simp only [List.findSome?_nil, reduceCtorEq, false_iff]
      rintro ⟨part, h, -⟩
      cases h
  | cons first rest ih =>
      rw [findSome?_cons_eq_or]
      cases hfirst : ctx.fault? first with
      | some other =>
          constructor
          · rintro h
            exact ⟨first, .head _ _, hfirst.trans h⟩
          · rintro ⟨part, hpart, h⟩
            cases hpart with
            | head => exact hfirst.symm.trans h
            | tail hok _ => rw [givesNodes_iff.mp hok] at hfirst; cases hfirst
      | none =>
          rw [Option.none_or, ih]
          constructor
          · rintro ⟨part, hpart, h⟩
            exact ⟨part, .tail (givesNodes_iff.mpr hfirst) hpart, h⟩
          · rintro ⟨part, hpart, h⟩
            cases hpart with
            | head => rw [hfirst] at h; cases h
            | tail _ hpart => exact ⟨part, hpart, h⟩

-- A part fails where it is refused, or as what it leads to.
theorem fault?_eq_some_iff_leads {fault : Fault} :
    ctx.fault? whole = some fault ↔
      (∃ error, ctx.Refuses whole error ∧ fault = .input error) ∨
        ∃ part, ctx.Leads whole part ∧ ctx.fault? part = some fault := by
  by_cases hrefused : ∃ error, ctx.Refuses whole error
  · obtain ⟨error, hrefused⟩ := hrefused
    rw [fault?_of_refuses hrefused]
    constructor
    · rintro ⟨⟩
      exact .inl ⟨error, hrefused, rfl⟩
    · rintro (⟨other, hother, rfl⟩ | ⟨part, hpart, -⟩)
      · rw [← fault?_of_refuses hrefused, fault?_of_refuses hother]
      · rw [leads_iff, rendered_of_refuses hrefused] at hpart
        cases hpart
  · have hall := fun error h => hrefused ⟨error, h⟩
    rw [fault?_eq_findSome? hall, findSome?_fault?_eq_some_iff]
    simp only [leads_iff]
    constructor
    · exact .inr
    · rintro (⟨error, h, -⟩ | h)
      · exact absurd h (hall error)
      · exact h

-- What is rendered for a part stands inside it, or it is the type behind a number.
theorem inside_or_lookUp_of_mem_rendered (h : part ∈ ctx.rendered whole) :
    part.Inside whole ∨ ∃ r id d type, whole = .type (.reference r) ∧ ctx.isInline r.name = true ∧
      r.target = none ∧ r.targetId = some id ∧ ctx.symbols.lookup? id = some d ∧
      d.type = some type ∧ part = .type type := by
  obtain hsame | ⟨r, id, rfl, hinline, htarget, hid, -, hbehind⟩ := ctx.rendered_cases whole
  · exact .inl (inside_of_mem_calls (hsame ▸ h))
  · rw [hbehind] at h
    obtain ⟨type, htype, rfl⟩ := List.mem_map.mp h
    obtain ⟨d, hd, htype⟩ := Option.bind_eq_some_iff.mp (Option.mem_toList.mp htype)
    exact .inr ⟨r, id, d, type, rfl, hinline, htarget, hid, hd, htype, rfl⟩

-- All that is rendered for a part stands in it or in one of the symbols.
theorem Shows.occurs (h : ctx.Shows whole part) :
    part.Occurs whole ∨ ∃ entry ∈ ctx.symbols, part.Occurs (.declaration entry.2) := by
  induction h with
  | refl => exact .inl (.refl whole)
  | tail _ hpart ih =>
      obtain hinside | ⟨r, id, d, type, -, -, -, -, hd, htype, rfl⟩ :=
        inside_or_lookUp_of_mem_rendered hpart
      · rcases ih with hocc | ⟨entry, hm, hocc⟩
        · exact .inl (hinside.occurs.trans hocc)
        · exact .inr ⟨entry, hm, hinside.occurs.trans hocc⟩
      · rw [SymbolIndex.lookup?, Option.map_eq_some_iff] at hd
        obtain ⟨entry, hentry, rfl⟩ := hd
        exact .inr ⟨entry, List.mem_of_find?_eq_some hentry, .inner (by simp [htype])⟩

theorem finite_shows (ctx : Context) (whole : ModelPart) :
    {part | ctx.Shows whole part}.Finite := by
  have hsymbols := Set.Finite.biUnion (List.finite_toSet ctx.symbols)
    fun entry _ => ModelPart.finite_occurs (.declaration entry.2)
  refine ((ModelPart.finite_occurs whole).union hsymbols).subset fun part hpart => ?_
  rcases Shows.occurs hpart with hocc | ⟨entry, hm, hocc⟩
  · exact .inl hocc
  · exact .inr (Set.mem_biUnion hm hocc)

-- What a part has whenever all that is rendered for it has it, every part has. There are only so
-- many parts to come to, and none of them is come to again.
theorem IsNonrecursive.induction {holds : ModelPart → Prop} (h : ctx.IsNonrecursive)
    (hstep : ∀ whole, (∀ part ∈ ctx.rendered whole, holds part) → holds whole) (whole : ModelPart) :
    holds whole := by
  let below : ModelPart → ModelPart → Prop := fun part whole =>
    Relation.TransGen (fun whole part => part ∈ ctx.rendered whole) whole part
  have : IsStrictOrder ModelPart below :=
    { irrefl := h, trans := fun _ _ _ hab hbc => hbc.trans hab }
  have hwell : {part | ctx.Shows whole part}.WellFoundedOn below :=
    (ctx.finite_shows whole).wellFoundedOn
  refine hwell.induction Relation.ReflTransGen.refl fun middle hmiddle ih => ?_
  exact hstep middle fun part hpart => ih part (hmiddle.tail hpart) (.single hpart)

-- A rank that goes down along the look-ups leaves nothing to lead back to itself. By induction on
-- the depth that the look-ups fit into, then on what stands inside of a part.
theorem Descends.acc {ρ : Type} [LinearOrder ρ] {rank : Int → ρ} (h : ctx.Descends rank)
    (depth : Nat) (whole : ModelPart)
    (hfits : ∀ id, ctx.LooksUp whole id → ctx.Fits rank id depth) :
    Acc (fun part whole => part ∈ ctx.rendered whole) whole := by
  induction depth using Nat.strong_induction_on generalizing whole with
  | h depth ihdepth =>
      induction whole using ModelPart.insideInduction with
      | h whole ih =>
          refine ⟨whole, fun part hpart => ?_⟩
          obtain hinside | ⟨r, id, d, type, rfl, hinline, htarget, hid, hd, htype, rfl⟩ :=
            inside_or_lookUp_of_mem_rendered hpart
          · refine ih part hinside fun id ⟨r, hr, hrest⟩ => ?_
            exact hfits id ⟨r, hr.trans hinside.occurs, hrest⟩
          · have hid := hfits id ⟨r, .refl _, hinline, htarget, hid⟩
            obtain ⟨less, rfl⟩ : ∃ less, depth = less + 1 := ⟨depth - 1, by have := hid.1; omega⟩
            refine ihdepth less (Nat.lt_succ_self less) (.type type) fun other hlooks => ?_
            exact hid.lookup h hd htype hlooks

theorem Descends.isNonrecursive {ρ : Type} [LinearOrder ρ] {rank : Int → ρ}
    (h : ctx.Descends rank) : ctx.IsNonrecursive := by
  intro part hcycle
  have hwell : WellFounded fun part whole => part ∈ ctx.rendered whole :=
    ⟨fun whole => h.acc _ whole fun id _ => fits_of_length_lt id (Nat.lt_succ_self _)⟩
  exact hwell.transGen.irrefl.irrefl part (Relation.transGen_swap.mpr hcycle)

-- A rendering that comes to a refused part fails as this part does.
theorem fault?_of_leads (h : Relation.ReflTransGen ctx.Leads whole part)
    (hrefused : ctx.Refuses part error) : ctx.fault? whole = some (.input error) := by
  induction h using Relation.ReflTransGen.head_induction_on with
  | refl => exact fault?_of_refuses hrefused
  | head hleads _ ih => exact fault?_eq_some_iff_leads.mpr (.inr ⟨_, hleads, ih⟩)

-- By induction on what is rendered: a part that fails without being refused leads to one that fails.
theorem fault?_eq_some_iff (h : ctx.IsNonrecursive) (whole : ModelPart) (fault : Fault) :
    ctx.fault? whole = some fault ↔
      ∃ part error, Relation.ReflTransGen ctx.Leads whole part ∧ ctx.Refuses part error ∧
        fault = .input error := by
  constructor
  · intro hfault
    induction whole using h.induction with
    | hstep whole ih =>
        obtain ⟨error, hrefused, rfl⟩ | ⟨next, hleads, hnext⟩ := fault?_eq_some_iff_leads.mp hfault
        · exact ⟨whole, error, .refl, hrefused, rfl⟩
        · obtain ⟨part, error, hpart, hrest⟩ := ih next (leads_iff.mp hleads).mem hnext
          exact ⟨part, error, .head hleads hpart, hrest⟩
  · rintro ⟨part, error, hpart, hrefused, rfl⟩
    exact fault?_of_leads hpart hrefused

-- A part cannot be rendered when something in it cannot.
theorem fault?_isSome_of_shows (h : ctx.Shows whole part) (hpart : (ctx.fault? part).isSome) :
    (ctx.fault? whole).isSome := by
  induction h using Relation.ReflTransGen.head_induction_on with
  | refl => exact hpart
  | @head whole next hnext _ ih =>
      by_cases hrefused : ∃ error, ctx.Refuses whole error
      · obtain ⟨error, hrefused⟩ := hrefused
        rw [fault?_of_refuses hrefused]
        rfl
      · rw [fault?_eq_findSome? fun error h => hrefused ⟨error, h⟩, List.findSome?_isSome_iff]
        exact ⟨next, hnext, ih⟩

theorem Leads.shows (h : Relation.ReflTransGen ctx.Leads whole part) : ctx.Shows whole part :=
  Relation.ReflTransGen.mono (fun _ _ hleads => (leads_iff.mp hleads).mem) _ _ h

theorem fault?_isSome_iff (h : ctx.IsNonrecursive) (whole : ModelPart) :
    (ctx.fault? whole).isSome ↔ ∃ part error, ctx.Shows whole part ∧ ctx.Refuses part error := by
  constructor
  · intro hfault
    obtain ⟨fault, hfault⟩ := Option.isSome_iff_exists.mp hfault
    obtain ⟨part, error, hpart, hrefused, -⟩ := (fault?_eq_some_iff h whole fault).mp hfault
    exact ⟨part, error, Leads.shows hpart, hrefused⟩
  · rintro ⟨part, error, hpart, hrefused⟩
    exact fault?_isSome_of_shows hpart (by rw [fault?_of_refuses hrefused]; rfl)

-- Neither of the two messages is that for a type outside of the grammar.
theorem Refuses.message (h : ctx.Refuses part error) :
    ¬ "Unknown type".toList <+: (Fault.input error).message.toList := by
  have hhead : (Fault.input error).message.toList.head? = some 'I' := by
    cases h with
    | inline | placeholder =>
        change ("Inline type has no resolvable definition: " ++ Text.quoted _).toList.head? = _
        rw [String.toList_append, List.head?_append]
        rfl
    | index =>
        change ("Index signature has no key parameter: " ++ Text.quoted _).toList.head? = _
        rw [String.toList_append, List.head?_append]
        rfl
  rintro ⟨rest, hrest⟩
  rw [← hrest, List.head?_append] at hhead
  simp at hhead

-- A type cannot be rendered exactly if a part is rendered for it that is refused, and the first such
-- part that the rendering comes to says why.
theorem type_fails_iff (h : ctx.IsNonrecursive) (type : TypeExpr) :
    ((∃ fault, ctx.type type = .error fault) ↔
      ∃ part error, ctx.Shows (.type type) part ∧ ctx.Refuses part error) ∧
    (∀ fault, ctx.type type = .error fault ↔
      ∃ part error, Relation.ReflTransGen ctx.Leads (.type type) part ∧ ctx.Refuses part error ∧
        fault = .input error) ∧
    ∀ fault, ctx.type type = .error fault → ¬ "Unknown type".toList <+: fault.message.toList := by
  have hfault : ∀ fault, ctx.type type = .error fault ↔ ctx.fault? (.type type) = some fault :=
    fun fault => Outcome.fault?_eq_some_iff.symm
  have hexact := fun fault => (hfault fault).trans (fault?_eq_some_iff h (.type type) fault)
  refine ⟨?_, hexact, ?_⟩
  · rw [← fault?_isSome_iff h, Option.isSome_iff_exists]
    exact exists_congr hfault
  · intro fault htype
    obtain ⟨part, error, -, hrefused, rfl⟩ := (hexact fault).mp htype
    exact hrefused.message

-- An inline name for a list of what another inline name stands for, which means nothing.
def danglingContext : Context :=
  { page := "client-api", tables := { inline := ["Options", "Entry"] },
    style := { read := Markdown.read {}, classMark := "" },
    symbols :=
      [(.number 7, { name := "Options", type := some (.array (.reference { name := "Entry" })) })] }

def danglingType : TypeExpr :=
  .union [.literal "key", .reference { name := "Options", targetId := some (.number 7) }]

theorem type_fails_danglingType :
    danglingContext.IsNonrecursive ∧
      danglingContext.type danglingType = .error (.input (.inlineUnresolved "Entry")) ∧
      ∃ part error, danglingContext.Shows (.type danglingType) part ∧
        danglingContext.Refuses part error := by
  have hdescends : danglingContext.Descends (fun n : Int => n) := by
    rintro id other d type hid htype ⟨r, hr, -, -, hother⟩ -
    rw [SymbolIndex.lookup?, Option.map_eq_some_iff] at hid
    obtain ⟨entry, hentry, rfl⟩ := hid
    rw [List.mem_singleton.mp (List.mem_of_find?_eq_some hentry)] at htype
    cases htype
    obtain h | ⟨middle, hm, hr⟩ := ModelPart.occurs_iff.mp hr
    · cases h
    · rw [List.mem_singleton.mp hm] at hr
      obtain h | ⟨middle, hm, -⟩ := ModelPart.occurs_iff.mp hr
      · cases h
        cases hother
      · cases hm
  have hfault : danglingContext.type danglingType = .error (.input (.inlineUnresolved "Entry")) :=
    rfl
  exact ⟨hdescends.isNonrecursive, hfault,
    (type_fails_iff hdescends.isNonrecursive danglingType).1.mp ⟨_, hfault⟩⟩

end Context

end ApiPages
