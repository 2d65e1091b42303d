import ApiPages.Proofs.Page.Reach

namespace ApiPages.Context

variable {ctx : Context} {page : String} {symbols : SymbolIndex}

-- A limit that lies beyond the sizes of both indexes.
theorem exists_depth (ctx ctx' : Context) :
    ∃ depth, ctx.symbols.length < depth ∧ ctx'.symbols.length < depth :=
  ⟨max ctx.symbols.length ctx'.symbols.length + 1, Nat.lt_succ_of_le (Nat.le_max_left _ _),
    Nat.lt_succ_of_le (Nat.le_max_right _ _)⟩

-- Parts that their rendering does not leave, for which two contexts have the same names and the same
-- symbols.
structure AgreesOn (ctx ctx' : Context) (parts : ModelPart → Prop) : Prop where
  calls : ∀ whole part, parts whole → Reached ctx.GivesNodes (ctx.calls whole) part → parts part
  plain : ∀ name, parts (.type (.intrinsic name)) ∨ parts (.type (.parameter name)) →
    ctx.plainNameNodes name = ctx'.plainNameNodes name
  symbol : ∀ r id, parts (.type (.reference r)) → ctx.isInline r.name = true → r.target = none →
    r.targetId = some id → ctx.symbols.lookup? id = ctx'.symbols.lookup? id
  next : ∀ r id d type, parts (.type (.reference r)) → ctx.isInline r.name = true →
    r.target = none → r.targetId = some id → ctx.symbols.lookup? id = some d →
    d.type = some type → parts (.type type)

namespace AgreesOn

variable {parts : ModelPart → Prop} (h : AgreesOn ctx (ctx.moved page symbols) parts)

include h

theorem alike {depth : Nat} {expand' : String → SymbolId → Rendered}
    (hlookUp : ∀ r id, parts (.type (.reference r)) → ctx.isInline r.name = true →
      r.target = none → r.targetId = some id → ctx.expandSymbol depth r.name id = expand' r.name id) :
    Alike (fun _ x y => x = y) ctx (ctx.moved page symbols) (ctx.expandSymbol depth) expand' parts where
  calls whole part hwhole hpart :=
    h.calls whole part hwhole (hpart.imp fun _ => givesNodes_of_expandSymbol)
  plain := h.plain
  lookUp := hlookUp

-- By induction on the number of look-ups.
theorem expandSymbol_eq (depth : Nat) (r : Reference) (id : SymbolId)
    (hr : parts (.type (.reference r))) (hinline : ctx.isInline r.name = true)
    (ht : r.target = none) (hid : r.targetId = some id) :
    ctx.expandSymbol depth r.name id = (ctx.moved page symbols).expandSymbol depth r.name id := by
  induction depth generalizing r id with
  | zero => rfl
  | succ depth ih =>
      rw [expandSymbol, expandSymbol, ← h.symbol r id hr hinline ht hid]
      cases hd : ctx.symbols.lookup? id with
      | none => rfl
      | some d =>
          cases htype : d.type with
          | none => simp only [htype]
          | some type =>
              simp only [htype]
              have htype := h.next r id d type hr hinline ht hid hd htype
              exact (h.alike ih).partNodes isCongruence_eq (.type type) htype

theorem part_eq {part : ModelPart} (hpart : parts part) :
    ctx.part part = (ctx.moved page symbols).part part := by
  obtain ⟨depth, hdepth, hmoved⟩ := ctx.exists_depth (ctx.moved page symbols)
  rw [Context.part, Context.part, ← expandSymbol_eq_expand hdepth, ← expandSymbol_eq_expand hmoved]
  exact (h.alike (h.expandSymbol_eq _)).partNodes isCongruence_eq part hpart

end AgreesOn

-- Bases that following them does not leave, for which two contexts have the same symbols.
structure AgreesOnBases (ctx ctx' : Context) (bases : TypeExpr → Prop) : Prop where
  symbol : ∀ base r id, bases base → EndsIn base r → r.targetId = some id →
    ctx.symbols.lookup? id = ctx'.symbols.lookup? id
  next : ∀ base r id d type, bases base → EndsIn base r → r.targetId = some id →
    ctx.symbols.lookup? id = some d → d.type = some type → bases type

namespace AgreesOnBases

variable {bases : TypeExpr → Prop} (h : AgreesOnBases ctx (ctx.moved page symbols) bases)

include h

theorem baseFields_eq (depth : Nat) {base : TypeExpr} (hbase : bases base) :
    baseFields (ctx.expandFields depth) base =
      baseFields ((ctx.moved page symbols).expandFields depth) base := by
  induction depth generalizing base with
  | zero => rfl
  | succ depth ih =>
      refine isCongruence_eq.baseFields fun r id hr hid => ?_
      rw [expandFields, expandFields, ← h.symbol base r id hbase hr hid]
      cases hd : ctx.symbols.lookup? id with
      | none => rfl
      | some d =>
          cases htype : d.type with
          | none => simp only [htype]
          | some type =>
              simp only [htype]
              exact ih (h.next base r id d type hbase hr hid hd htype)

theorem baseChildren_eq {base : TypeExpr} (hbase : bases base) :
    ctx.baseChildren base = (ctx.moved page symbols).baseChildren base := by
  obtain ⟨depth, hdepth, hmoved⟩ := ctx.exists_depth (ctx.moved page symbols)
  rw [← baseFields_expandFields hdepth, ← baseFields_expandFields hmoved]
  exact h.baseFields_eq _ hbase

end AgreesOnBases

-- The contexts that settings make differ in nothing but the identity and the symbols.
theorem create_moved [Markdown.Extensions] (p q : String) (settings : Settings)
    (ds ds' : List Declaration) : create q settings ds' = do
      let ctx ← create p settings ds
      return ctx.moved q (SymbolIndex.ofDeclarations ds') := by
  unfold create
  cases styleOf settings <;> rfl

theorem showsBase_eq {base : TypeExpr}
    (h : ∀ r id, base = .reference r → r.targetId = some id →
      ctx.symbols.lookup? id = symbols.lookup? id) :
    ctx.showsBase base = (ctx.moved page symbols).showsBase base := by
  cases base with
  | reference r =>
      have hresolve : ctx.resolve r = (ctx.moved page symbols).resolve r := by
        unfold resolve
        cases r.target with
        | some d => rfl
        | none =>
            cases hid : r.targetId with
            | none => rfl
            | some id => exact h r id rfl hid
      simp only [showsBase, hresolve]
      rfl
  | _ => rfl

-- A page is the same with other symbols if the references in its declarations, and in those that are
-- looked up, mean the same.
theorem renderPage_eq_of_lookUps {holds : ModelPart → Prop} (hinner : ModelPart.Inherited holds)
    {ds : List Declaration} (hds : ∀ d ∈ ds, holds (.declaration d))
    (hsymbols : ∀ id d, ctx.symbols.lookup? id = some d → holds (.declaration d))
    (h : ∀ r id, holds (.type (.reference r)) → r.targetId = some id →
      ctx.symbols.lookup? id = symbols.lookup? id) :
    ctx.renderPage ds = (ctx.moved ctx.page symbols).renderPage ds := by
  have hnext : ∀ id d type, ctx.symbols.lookup? id = some d → d.type = some type →
      holds (.type type) := by
    intro id d type hd htype
    exact hinner _ _ (hsymbols id d hd) (by simp [htype])
  have hagrees : AgreesOn ctx (ctx.moved ctx.page symbols) holds :=
    { calls := fun _ _ hwhole hpart => hinner.occurs (inside_of_mem_calls hpart.mem).occurs hwhole
      plain := fun _ _ => rfl
      symbol := fun r id hr _ _ hid => h r id hr hid
      next := fun _ id d type _ _ _ _ hd htype => hnext id d type hd htype }
  have hbases : AgreesOnBases ctx (ctx.moved ctx.page symbols) fun base => holds (.type base) :=
    { symbol := fun _ r id hbase hr hid => h r id (hinner.occurs hr.occurs hbase) hid
      next := fun _ _ id d type _ _ _ hd htype => hnext id d type hd htype }
  refine (follows_renderPage isCongruence_eq ds).related fun step hstep => ?_
  have hstep := pageSteps_holds hinner hsymbols hds step hstep.mem
  cases step with
  | part part => exact hagrees.part_eq hstep
  | address file => rfl
  | parents types => rfl
  | fields base =>
      refine ⟨hbases.baseChildren_eq hstep, showsBase_eq fun r id hr hid => h r id ?_ hid⟩
      exact hr ▸ hstep

end ApiPages.Context
