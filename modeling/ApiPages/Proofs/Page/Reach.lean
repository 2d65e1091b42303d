import ApiPages.Proofs.Page.Steps

namespace ApiPages.Context

variable {ctx : Context} {ds : List Declaration}

def GivesNodes (ctx : Context) (part : ModelPart) : Prop := ∃ nodes, ctx.part part = .ok nodes

-- A rendering that gives nodes at one limit on the look-ups gives nodes at the limit that is set.
theorem givesNodes_of_expandSymbol {depth : Nat} {part : ModelPart}
    (h : ∃ nodes, partNodes ctx (ctx.expandSymbol depth) part = .ok nodes) : ctx.GivesNodes part := by
  obtain ⟨nodes, h⟩ := h
  refine ⟨nodes, ?_⟩
  have halike : Alike (fun _ x y => Refines x y) ctx ctx (ctx.expandSymbol depth) ctx.expand
      fun _ => True := by
    refine ⟨fun _ _ _ _ => trivial, fun _ _ => .inr rfl, fun r id _ _ _ _ => ?_⟩
    have hle := ctx.isLimited_expandSymbol.refines_of_le
      (Nat.le_max_left depth (ctx.symbols.length + 1)) r.name id
    rwa [expandSymbol_eq_expand (Nat.lt_of_succ_le (Nat.le_max_right _ _))] at hle
  rcases halike.partNodes isCongruence_refines part trivial with hdeep | hsame
  · rw [h] at hdeep
    cases hdeep
  · exact hsame.symm.trans h

-- A part that is rendered comes to one that is rendered in it, or to the type that is looked up for
-- it.
inductive Leads (ctx : Context) : ModelPart → ModelPart → Prop
  | inside {whole part : ModelPart} (h : Reached ctx.GivesNodes (ctx.calls whole) part) :
      Leads ctx whole part
  | lookUp {r : Reference} {id : SymbolId} {d : Declaration} {type : TypeExpr}
      (hinline : ctx.isInline r.name = true) (htarget : r.target = none)
      (hid : r.targetId = some id) (hd : ctx.symbols.lookup? id = some d)
      (htype : d.type = some type) : Leads ctx (.type (.reference r)) (.type type)

-- The page comes to a part before anything fails.
def Renders (ctx : Context) (ds : List Declaration) (part : ModelPart) : Prop :=
  ∃ start, Reached (Step.Succeeds ctx) (ctx.pageSteps ds) (.part start) ∧
    Relation.ReflTransGen ctx.Leads start part

theorem Renders.next {whole part : ModelPart} (h : ctx.Renders ds whole)
    (hleads : ctx.Leads whole part) : ctx.Renders ds part := by
  obtain ⟨start, hstart, hwhole⟩ := h
  exact ⟨start, hstart, hwhole.tail hleads⟩

-- What the steps of the page have and hand down, everything that is rendered has.
theorem Renders.invariant {holds : ModelPart → Prop}
    (hstart : ∀ start, .part start ∈ ctx.pageSteps ds → holds start)
    (hnext : ∀ whole part, holds whole → ctx.Leads whole part → holds part) {part : ModelPart}
    (h : ctx.Renders ds part) : holds part := by
  obtain ⟨start, hreached, hpart⟩ := h
  induction hpart with
  | refl => exact hstart start hreached.mem
  | tail _ hleads ih => exact hnext _ _ ih hleads

end ApiPages.Context
