import ApiPages.Proofs.Model.Faults
import ApiPages.Proofs.Page.Agreement
import ApiPages.Proofs.Page.Endless
import ApiPages.Settings.Defaults
import Mathlib

namespace ApiPages

open Outcome

namespace Settings

def defaultTemplate : String := "https://github.com/logux/\x7b0\x7d/edit/master/\x7b1\x7d"

-- The template asks for as many texts as the pattern has groups.
structure HasDefaultUrls (settings : Settings) : Prop where
  pattern : ∃ written, settings.editUrls.pattern = some written ∧ written.groups = 2
  template : settings.editUrls.template = some defaultTemplate

theorem ofYaml_defaults [CharacterNames] (root : Path) :
    ∃ settings, ofYaml root (.mapping defaults) = .ok settings ∧ settings.HasDefaultUrls ∧
      settings.extensions = ["fenced_code", "tables"] ∧ settings.templatesDir = none :=
  ⟨_, by cbv, ⟨⟨_, rfl, rfl⟩, rfl⟩, rfl, rfl⟩

theorem fill_defaultTemplate (project path : Option String) :
    ∃ url, Format.fill defaultTemplate [project, path] = .ok url := by
  cases project <;> cases path <;> exact ⟨_, rfl⟩

theorem HasDefaultUrls.build {settings : Settings} (h : settings.HasDefaultUrls)
    (file : Option String) : ∃ url, settings.editUrls.build file = .ok url := by
  obtain ⟨⟨written, hpattern, hgroups⟩, htemplate⟩ := h
  have hgiven : given (some defaultTemplate) = some defaultTemplate := rfl
  unfold EditUrls.build
  rw [hpattern, htemplate, hgiven]
  split
  · rename_i found template _ hfound htext
    cases htext
    obtain ⟨hsome, -⟩ := Option.filter_eq_some_iff.mp hfound
    cases hsome
    dsimp only
    split
    · exact ⟨none, rfl⟩
    · rename_i t _
      obtain ⟨url, hurl⟩ := fill_defaultTemplate ((t.group? 1).map String.ofList)
        ((t.group? 2).map String.ofList)
      refine ⟨some url, ?_⟩
      rw [hgroups]
      change (Format.fill _ [(t.group? 1).map String.ofList, (t.group? 2).map String.ofList] >>=
        fun url => pure (some url)) = _
      rw [hurl]
      rfl
  · exact ⟨none, rfl⟩

end Settings

namespace Context

variable {ctx : Context} {ds : List Declaration}

-- The page comes to a type, or to a base, that leads back to itself.
def HasEndlessAlias (ctx : Context) (ds : List Declaration) : Prop :=
  (∃ part, ctx.Renders ds part ∧ Relation.TransGen ctx.Leads part part) ∨
    ∃ base, Reached (Step.Succeeds ctx) (ctx.pageSteps ds) (.fields base) ∧ ctx.BaseLeadsToCycle base

inductive RenderFault (ctx : Context) (ds : List Declaration) : Fault → Prop
  | input (error : InputError) : RenderFault ctx ds (.input error)
  -- The first parent of a class has a symbol that is not text.
  | symbolNotText {d : Declaration} {r : Reference} (hd : d ∈ ds) (hclass : d.kind = some .class_)
      (hparent : d.extendedTypes.head? = some (.reference r)) (hvoid : r.symbol.isVoid = false)
      (htext : ∀ s, r.symbol ≠ .text s) : RenderFault ctx ds .symbolNotText
  | tooDeep (h : ctx.HasEndlessAlias ds) : RenderFault ctx ds .tooDeep

theorem parents_failsOnly {d : Declaration} (hd : d ∈ ds) (hclass : d.kind = some .class_) :
    FailsOnly (RenderFault ctx ds) (ctx.parents d.extendedTypes) := by
  have hrelabel : ∀ r, d.extendedTypes.head? = some (.reference r) → ∀ name,
      FailsOnly (RenderFault ctx ds) (ctx.tables.relabelParent name r.symbol) := by
    intro r hparent name
    unfold TypeTables.relabelParent
    split
    · exact .pure name
    · rename_i hvoid
      rw [Bool.or_eq_true, not_or, Bool.not_eq_true] at hvoid
      split
      · exact .pure _
      · rename_i htext
        exact .error (.symbolNotText hd hclass hparent hvoid.1 htext)
  unfold parents
  split
  · exact .pure []
  · rename_i parent rest htypes
    have hparent : d.extendedTypes.head? = some parent := by rw [htypes, List.head?_cons]
    refine FailsOnly.bind ?_ fun name _ => .pure _
    cases parent with
    | reference r => exact hrelabel r hparent _
    | _ => exact .pure _

theorem renderPage_failsOnly (hurls : ∀ file, ∃ url, ctx.editUrls.build file = .ok url) :
    FailsOnly (RenderFault ctx ds) (ctx.renderPage ds) := by
  have hinput : ∀ error, RenderFault ctx ds (.input error) := RenderFault.input
  have hsteps : Follows (fun _ x _ => FailsOnly (RenderFault ctx ds) x) ctx
      (ctx.moved ctx.page ctx.symbols) (ctx.pageSteps ds) _ _ :=
    follows_renderPage (isCongruence_failsOnly hinput) ds
  refine hsteps.related fun step hstep => ?_
  have hholds : step.Holds (fun _ => True) ds :=
    pageSteps_holds (fun _ _ _ _ => trivial) (fun _ _ _ => trivial) (fun _ _ => trivial) step
      hstep.mem
  cases step with
  | part part =>
      refine (part_lookUpFault part).imp ?_
      rintro fault (error | ⟨whole, hwhole, hcycle⟩)
      · exact .input error
      · exact .tooDeep (.inl ⟨whole, ⟨part, hstep, hwhole⟩, hcycle⟩)
  | address file =>
      obtain ⟨url, hurl⟩ := hurls file
      change FailsOnly _ (ctx.editUrls.build file)
      rw [hurl]
      exact .pure url
  | parents types =>
      obtain ⟨d, hd, hclass, rfl⟩ := hholds
      exact parents_failsOnly hd hclass
  | fields base =>
      refine ⟨(baseChildren_lookUpFault base).imp ?_, rfl⟩
      rintro fault (error | hcycle)
      · exact .input error
      · exact .tooDeep (.inr ⟨base, hstep, hcycle⟩)

end Context

namespace Page

-- How making a page from a value can fail.
inductive PageFault [Markdown.Extensions] (identity : String) (settings : Settings) (json : Json) :
    Fault → Prop
  | input (error : InputError) : PageFault identity settings json (.input error)
  | notSequence (h : json.HoldsCount) : PageFault identity settings json .notSequence
  | render {ds : List Declaration} {ctx : Context} {fault : Fault}
      (hds : readProject json = .ok ds) (hctx : Context.create identity settings ds = .ok ctx)
      (h : ctx.RenderFault ds fault) : PageFault identity settings json fault

theorem render_failsOnly [CharacterNames] [Markdown.Extensions] {root : Path} {settings : Settings}
    (hsettings : Settings.ofYaml root (.mapping Settings.defaults) = .ok settings)
    (identity : String) (json : Json) :
    FailsOnly (PageFault identity settings json) (do
      let ds ← readProject json
      render identity settings ds) := by
  obtain ⟨defaults, hdefaults, hurls, hextensions, -⟩ := Settings.ofYaml_defaults root
  cases hsettings.symm.trans hdefaults
  refine ((readProject_failsOnly json).imp ?_).bind fun ds hds => ?_
  · rintro fault (error | h)
    · exact .input error
    · exact .notSequence h
  · have hstyle : ∃ style, Context.styleOf settings = .ok style := by
      unfold Context.styleOf
      rw [hextensions]
      exact ⟨_, rfl⟩
    obtain ⟨style, hstyle⟩ := hstyle
    obtain ⟨ctx, hctx, hctxUrls⟩ : ∃ ctx, Context.create identity settings ds = .ok ctx ∧
        ctx.editUrls = settings.editUrls := by
      unfold Context.create
      rw [hstyle]
      exact ⟨_, rfl, rfl⟩
    have hrendered : FailsOnly (ctx.RenderFault ds) (ctx.renderPage ds) := by
      refine Context.renderPage_failsOnly fun file => ?_
      rw [hctxUrls]
      exact hurls.build file
    unfold render
    rw [hctx]
    exact hrendered.imp fun fault h => .render hds hctx h

end Page

end ApiPages
