import ApiPages.Proofs.Page.Agreement

namespace ApiPages

namespace Context

variable {ctx : Context} {page : String} {ds : List Declaration}

theorem agreesOn_renders
    (h : ∀ name, ctx.Renders ds (.type (.intrinsic name)) ∨ ctx.Renders ds (.type (.parameter name)) →
      ctx.plainNameNodes name = (ctx.moved page ctx.symbols).plainNameNodes name) :
    AgreesOn ctx (ctx.moved page ctx.symbols) (ctx.Renders ds) where
  calls _ _ hwhole hpart := hwhole.next (.inside hpart)
  plain := h
  symbol _ _ _ _ _ _ := rfl
  next _ _ _ _ hr hinline ht hid hd htype := hr.next (.lookUp hinline ht hid hd htype)

-- The page is the same under another identity if the names that it comes to are shown the same.
theorem renderPage_moved
    (h : ∀ name, ctx.Renders ds (.type (.intrinsic name)) ∨ ctx.Renders ds (.type (.parameter name)) →
      ctx.plainNameNodes name = (ctx.moved page ctx.symbols).plainNameNodes name) :
    ctx.renderPage ds = (ctx.moved page ctx.symbols).renderPage ds := by
  have hbases : AgreesOnBases ctx (ctx.moved page ctx.symbols) fun _ => True :=
    ⟨fun _ _ _ _ _ _ => rfl, fun _ _ _ _ _ _ _ _ _ _ => trivial⟩
  refine (follows_renderPage isCongruence_eq ds).related fun step hstep => ?_
  cases step with
  | part part => exact (agreesOn_renders h).part_eq ⟨part, hstep, .refl⟩
  | address file => rfl
  | parents types => rfl
  | fields base => exact ⟨hbases.baseChildren_eq trivial, rfl⟩

theorem plainNameNodes_moved {name : String}
    (h : ∀ s ∈ ctx.tables.substitution, name = s.name → s.resolve ctx.page = s.resolve page) :
    ctx.plainNameNodes name = (ctx.moved page ctx.symbols).plainNameNodes name := by
  cases hs : ctx.tables.substitution with
  | none =>
      have hmoved : (ctx.moved page ctx.symbols).tables.substitution = none := hs
      simp only [plainNameNodes, hs, hmoved]
  | some s =>
      have hmoved : (ctx.moved page ctx.symbols).tables.substitution = some s := hs
      by_cases hname : name = s.name
      · simp only [plainNameNodes, hs, hmoved, if_pos hname, h s hs hname]
        rfl
      · simp only [plainNameNodes, hs, hmoved, if_neg hname]

end Context

namespace Page

open Context

theorem render_eq_of_names [Markdown.Extensions] {p q : String} {settings : Settings}
    {ds : List Declaration}
    (h : ∀ ctx, Context.create p settings ds = .ok ctx → ∀ name,
      ctx.Renders ds (.type (.intrinsic name)) ∨ ctx.Renders ds (.type (.parameter name)) →
      ∀ s ∈ settings.tables.substitution, name = s.name → s.resolve p = s.resolve q) :
    render p settings ds = render q settings ds := by
  unfold render
  rw [create_moved p q settings ds ds]
  cases hctx : Context.create p settings ds with
  | error fault => rfl
  | ok ctx =>
      obtain ⟨hpage, htables, hsymbols⟩ := create_ok hctx
      rw [← hsymbols]
      refine renderPage_moved fun name hname => plainNameNodes_moved ?_
      rw [hpage, htables]
      exact h ctx hctx name hname

theorem render_identity [Markdown.Extensions] (settings : Settings) (ds : List Declaration)
    (p : String) :
    (∀ q, (∀ s ∈ settings.tables.substitution, s.resolve p = s.resolve q) →
      render p settings ds = render q settings ds) ∧
    ((∀ ctx, Context.create p settings ds = .ok ctx → ∀ s ∈ settings.tables.substitution,
        ¬ ctx.Renders ds (.type (.intrinsic s.name)) ∧
          ¬ ctx.Renders ds (.type (.parameter s.name))) →
      ∀ q r, render q settings ds = render r settings ds) := by
  constructor
  · intro q h
    exact render_eq_of_names fun _ _ _ _ s hs _ => h s hs
  · intro h
    have hall : ∀ q, render p settings ds = render q settings ds := by
      intro q
      refine render_eq_of_names fun ctx hctx name hname s hs heq => ?_
      obtain ⟨hintrinsic, hparameter⟩ := h ctx hctx s hs
      subst heq
      exact absurd hname (not_or.mpr ⟨hintrinsic, hparameter⟩)
    exact fun q r => (hall q).symm.trans (hall r)

-- A placeholder that means something else on one page.
def placeholderSettings : Settings :=
  { root := {}, outputDir := {}, highlightMark := "",
    tables :=
      { substitution := some
          { name := "M", default := "ClientMeta", pages := [("node-api", "ServerMeta")] } } }

def placeholderType (type : TypeExpr) : List Declaration :=
  [{ name := "Meta", kind := some .typeAlias, type := some type }]

-- What a type has to extend is not shown.
def hiddenPlaceholder : TypeExpr :=
  .conditional (.literal "on") (some (.parameter "M")) (.literal "yes") (.literal "no")

def placeholderContext : Context :=
  { page := "client-api", tables := placeholderSettings.tables,
    style := { read := Markdown.read {}, classMark := "" } }

attribute [local instance] Markdown.noExtensions

theorem render_identity_placeholderSettings :
    render "client-api" placeholderSettings (placeholderType (.parameter "M")) =
        render "web-api" placeholderSettings (placeholderType (.parameter "M")) ∧
      render "client-api" placeholderSettings (placeholderType hiddenPlaceholder) =
        render "node-api" placeholderSettings (placeholderType hiddenPlaceholder) := by
  constructor
  · refine (render_identity _ _ "client-api").1 "web-api" fun s hs => ?_
    cases hs
    decide
  · refine (render_identity _ _ "client-api").2 (fun ctx hctx s hs => ?_) _ _
    cases hs
    have hcreate : Context.create "client-api" placeholderSettings
        (placeholderType hiddenPlaceholder) = .ok placeholderContext := rfl
    rw [hcreate] at hctx
    cases hctx
    have hsteps : placeholderContext.pageSteps (placeholderType hiddenPlaceholder) =
        [.part (.type hiddenPlaceholder)] := by
      cbv
    let shown (part : ModelPart) : Prop :=
      part = .type hiddenPlaceholder ∨ ∃ value, part = .type (.literal value)
    have hrendered : ∀ part, placeholderContext.Renders (placeholderType hiddenPlaceholder) part →
        shown part := by
      refine fun part => Renders.invariant (fun start hstart => ?_) fun whole part hwhole hleads => ?_
      · rw [hsteps, List.mem_singleton] at hstart
        cases hstart
        exact .inl rfl
      · obtain rfl | ⟨value, rfl⟩ := hwhole
        · cases hleads with
          | inside h =>
              have hm := h.mem
              simp only [hiddenPlaceholder, Context.calls, Context.typeCalls, List.mem_cons,
                List.not_mem_nil, or_false] at hm
              obtain rfl | rfl | rfl := hm <;> exact .inr ⟨_, rfl⟩
        · cases hleads with
          | inside h => cases h
    constructor <;>
    · intro hm
      obtain hm | ⟨value, hm⟩ := hrendered _ hm <;> cases hm

end Page

end ApiPages
