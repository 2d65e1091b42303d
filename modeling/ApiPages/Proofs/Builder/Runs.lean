import ApiPages.Page.FieldTemplate
import ApiPages.Proofs.Anchor.Normal
import ApiPages.Proofs.Builder.Frame

namespace ApiPages

namespace Anchor

-- A title whose page has a directory of its own below the directory for pages, or none.
def IsPageTitle (title : String) : Prop := '/' ∉ title.toList ∧ title ≠ ".."

instance (title : String) : Decidable (IsPageTitle title) := inferInstanceAs (Decidable (_ ∧ _))

theorem eq_of_unblanked {c d : Char} (hd : d ≠ '-') (h : (if Text.isBlank c then '-' else c) = d) :
    c = d := by
  split at h
  · exact absurd h.symm hd
  · exact h

theorem notMem_ofPage {title : String} (h : '/' ∉ title.toList) : '/' ∉ (ofPage title).toList := by
  intro hmem
  rw [toList_ofPage] at hmem
  obtain ⟨c, hc, heq⟩ := List.mem_map.mp (Text.mem_of_mem_lowerFrom (.of_precedes (by decide)) hmem)
  rw [eq_of_unblanked (by decide) heq] at hc
  exact h hc

theorem eq_dots_of_ofPage {title : String} (h : ofPage title = "..") : title = ".." := by
  have hdots := congrArg String.toList h
  rw [toList_ofPage] at hdots
  change _ = ['.', '.'] at hdots
  -- Dots are the lower-case forms of dots alone, so that nothing was lowered.
  have hown : ∀ d ∈ ['.', '.'], Text.IsOwnForm d := fun d hd => by
    obtain rfl : d = '.' := by simpa using hd
    exact .of_precedes (by decide)
  have hmap := Text.lowerFrom_of_ownForms (hdots.symm ▸ hown)
  rw [hdots] at hmap
  obtain ⟨c, rest, htitle, hc, hrest⟩ := List.map_eq_cons_iff.mp hmap.symm
  obtain ⟨d, last, hlast, hd, hnil⟩ := List.map_eq_cons_iff.mp hrest
  apply String.toList_injective
  rw [htitle, hlast, List.map_eq_nil_iff.mp hnil, eq_of_unblanked (by decide) hc,
    eq_of_unblanked (by decide) hd]
  rfl

end Anchor

namespace Builder

open Program

variable {settings : Settings} {path : Path} {html : String}

theorem isBelow_pathFor {title : String} (h : Anchor.IsPageTitle title) :
    settings.outputDir.IsBelow (pathFor settings (Anchor.ofPage title)) :=
  (Path.isBelow_child (Anchor.notMem_ofPage h.1) (mt Anchor.eq_dots_of_ofPage h.2)).trans
    (Path.isBelow_child (by decide) (by decide))

theorem setAsset_eq_assign (assets : List (Path × String)) :
    setAsset path html assets = Association.assign path html assets := by
  induction assets with
  | nil => rfl
  | cons first rest ih => rw [setAsset, Association.assign, ih]

theorem lookup_setAsset (assets : List (Path × String)) (sought : Path) :
    (setAsset path html assets).lookup sought =
      if sought = path then some html else assets.lookup sought := by
  rw [setAsset_eq_assign, Association.lookup_assign]

-- What is asked of a builder.
inductive Step where
  | load (path : Path)
  | buildPage (title : String) (ds : List Declaration)
  | write (built : BuiltPage)
  | build (path : Path) (title : String)

-- A builder between two steps, with the files around it.
structure State where
  builder : Builder
  session : Session
  store : Store
  -- The paths and texts of all pages that were written, the earliest first.
  written : List (Path × String) := []

-- A page as the builder makes it: its path is the one for its title.
def IsPage (settings : Settings) (built : BuiltPage) : Prop :=
  Anchor.IsPageTitle built.title ∧ built.path = pathFor settings (Anchor.ofPage built.title)

-- A step whose page, if it writes one, has a title that does not lead out of the directory for pages.
def Step.IsProper (settings : Settings) : Step → Prop
  | .write built => IsPage settings built
  | .build _ title => Anchor.IsPageTitle title
  | .load _ | .buildPage .. => True

instance (settings : Settings) (built : BuiltPage) : Decidable (IsPage settings built) :=
  inferInstanceAs (Decidable (_ ∧ _))

instance (settings : Settings) (step : Step) : Decidable (step.IsProper settings) :=
  match step with
  | .write built => inferInstanceAs (Decidable (IsPage settings built))
  | .build _ title => inferInstanceAs (Decidable (Anchor.IsPageTitle title))
  | .load _ | .buildPage .. => inferInstanceAs (Decidable True)

namespace State

-- What has been taken down is what was written, and the files hold it.
structure InStep (state : State) : Prop where
  paths : state.builder.assets.map Prod.fst = (state.written.map Prod.fst).eraseDups
  texts : ∀ path, state.builder.assets.lookup path = state.written.reverse.lookup path
  files : ∀ path html, state.builder.assets.lookup path = some html → state.store.Holds path html

variable {state : State}

-- What every step keeps. The paths below the directory for pages tell the files apart.
structure Invariant (settings : Settings) (state : State) : Prop where
  inStep : state.InStep
  settings_eq : state.builder.settings = settings
  console : state.session.logger.IsConsoleOnly
  below : ∀ path html, state.builder.assets.lookup path = some html →
    settings.outputDir.IsBelow path

theorem Invariant.spared {settings : Settings} (h : Invariant settings state) {session : Session}
    {store : Store} (hlogger : session.logger = state.session.logger)
    (hgrows : state.store.Grows store) : Invariant settings { state with session, store } where
  inStep := ⟨h.inStep.paths, h.inStep.texts, fun path html hasset =>
    hgrows.holds (h.inStep.files path html hasset)⟩
  settings_eq := h.settings_eq
  console := hlogger ▸ h.console
  below := h.below

section Written

variable {settings : Settings} {built : BuiltPage} {session : Session} {grown changed store : Store}

theorem Invariant.written (h : Invariant settings state) (hpage : IsPage settings built)
    (hlogger : session.logger = state.session.logger) (hgrows : state.store.Grows grown)
    (hwrite : grown.changeFile built.path (fun _ => .text built.html) = .ok changed)
    (hafter : changed.Grows store) :
    Invariant settings
      { builder := { state.builder with
          assets := setAsset built.path built.html state.builder.assets }
        session, store, written := state.written ++ [(built.path, built.html)] } := by
  have hbelow : settings.outputDir.IsBelow built.path := by
    rw [hpage.2]
    exact isBelow_pathFor hpage.1
  refine ⟨⟨?paths, ?texts, ?files⟩, h.settings_eq, hlogger ▸ h.console, ?below⟩
  case paths =>
    simp only [setAsset_eq_assign, Association.map_fst_assign, h.inStep.paths, List.map_append,
      List.map_cons, List.map_nil, Association.eraseDups_concat]
  case texts =>
    intro path
    simp only [lookup_setAsset, List.reverse_append, List.reverse_cons, List.reverse_nil,
      List.nil_append, List.singleton_append, Association.lookup_cons_eq_ite, h.inStep.texts path]
  case files =>
    intro path html hasset
    rw [lookup_setAsset] at hasset
    split at hasset
    · rename_i heq
      cases hasset
      rw [heq]
      exact hafter.holds (Store.holds_of_write hwrite)
    · rename_i hne
      -- Pages with different paths lie in different places, so that the other file is not the one.
      have hplace := mt ((h.below path html hasset).place_eq_iff hbelow grown.current).mp hne
      refine hafter.holds (Store.write_holds_other hwrite (Ne.symm hplace) ?_)
      exact hgrows.holds (h.inStep.files path html hasset)
  case below =>
    intro path html hasset
    rw [lookup_setAsset] at hasset
    split at hasset
    · rename_i heq
      rw [heq]
      exact hbelow
    · exact h.below path html hasset

end Written

-- A builder that has written nothing yet.
def start (settings : Settings) (session : Session) (store : Store) : State :=
  { builder := { settings }, session, store }

theorem Invariant.start {settings : Settings} {session : Session} {store : Store}
    (hlogger : session.logger.IsConsoleOnly) : Invariant settings (start settings session store) where
  inStep := ⟨rfl, fun _ => rfl, fun _ _ hasset => by cases hasset⟩
  settings_eq := rfl
  console := hlogger
  below _ _ hasset := by cases hasset

end State

section Running

variable [Markdown.Extensions] [Layout.TemplateLanguage]

-- The page that building makes before it is written.
def make (settings : Settings) (path : Path) (title : String) : Program (StateM Store) BuiltPage := do
  let ds ← load path
  buildPage settings title ds

theorem fst_build (builder : Builder) (path : Path) (title : String) :
    Prod.fst <$> builder.build (m := StateM Store) path title =
      make builder.settings path title >>= builder.write := by
  simp only [build, make, bind_assoc, map_bind, map_pure, bind_pure]

namespace State

variable (state : State)

-- What a step runs; it gives the builder as it is afterwards.
def program : Step → Program (StateM Store) Builder
  | .load path => do
    let _ ← load path
    return state.builder
  | .buildPage title ds => do
    let _ ← buildPage state.builder.settings title ds
    return state.builder
  | .write built => state.builder.write built
  | .build path title => Prod.fst <$> state.builder.build path title

def run (step : Step) : (Except Fault Builder × Session) × Store :=
  (state.program step).runOn state.session state.store

-- The page that a step writes, if it comes to that.
def page? : Step → Option BuiltPage
  | .load _ | .buildPage .. => none
  | .write built => some built
  | .build path title =>
    ((make state.builder.settings path title).runOn state.session state.store).1.1.toOption

def Raises (step : Step) : Prop := ∃ fault, (state.run step).1.1 = .error fault

instance (step : Step) : Decidable (state.Raises step) :=
  match h : (state.run step).1.1 with
  | .error fault => .isTrue ⟨fault, h⟩
  | .ok _ => .isFalse fun ⟨_, hfault⟩ => nomatch h.symm.trans hfault

-- A step that raises gives no builder, so that the one before it stays.
def next (step : Step) : State :=
  let ((outcome, session), store) := state.run step
  match outcome with
  | .error _ => { state with session, store }
  | .ok builder =>
    let pages := (state.page? step).toList.map fun built => (built.path, built.html)
    { builder, session, store, written := state.written ++ pages }

variable {state}

-- What a step comes to: it fails, or it writes no page, or it writes its page.
inductive Outcome (state : State) (step : Step) : (Except Fault Builder × Session) × Store → Prop
  | failed {fault : Fault} {session : Session} {store : Store}
      (hlogger : session.logger = state.session.logger) (hgrows : state.store.Grows store) :
      Outcome state step ((.error fault, session), store)
  | unwritten {session : Session} {store : Store} (hpage : state.page? step = none)
      (hlogger : session.logger = state.session.logger) (hgrows : state.store.Grows store) :
      Outcome state step ((.ok state.builder, session), store)
  | written {built : BuiltPage} {session : Session} {grown changed store : Store}
      (hpage : state.page? step = some built)
      (hlogger : session.logger = state.session.logger) (hgrows : state.store.Grows grown)
      (hwrite : grown.changeFile built.path (fun _ => .text built.html) = .ok changed)
      (hafter : changed.Grows store) :
      Outcome state step ((.ok { state.builder with
        assets := setAsset built.path built.html state.builder.assets }, session), store)

section Outcomes

variable {step : Step} (hlogger : state.session.logger.IsConsoleOnly)
include hlogger

theorem outcome_of_spared {α : Type} {program : Program (StateM Store) α}
    (hprogram : state.program step = program >>= fun _ => pure state.builder)
    (hspared : SparesFiles program.run) (hpage : state.page? step = none) :
    Outcome state step (state.run step) := by
  rw [run, hprogram]
  rcases hrun : program.runOn state.session state.store with ⟨⟨outcome, session⟩, store⟩
  obtain ⟨hkept, hgrows⟩ := hspared.runOn hlogger hrun
  cases outcome with
  | error fault =>
      rw [runOn_bind_error hrun]
      exact .failed hkept hgrows
  | ok a =>
      rw [runOn_bind_ok hrun]
      exact .unwritten hpage hkept hgrows

theorem outcome_of_write {built : BuiltPage} (hpage : state.page? step = some built)
    {session : Session} (hkept : session.logger = state.session.logger) {grown : Store}
    (hgrows : state.store.Grows grown) :
    Outcome state step ((state.builder.write built).runOn session grown) := by
  rcases hrun : (state.builder.write built).runOn session grown with ⟨⟨outcome, session'⟩, store⟩
  obtain ⟨hlast, hwritten⟩ := write_outcome state.builder built (hkept ▸ hlogger) hrun
  cases hwritten with
  | failed hmore => exact .failed (hlast.trans hkept) (hgrows.trans hmore)
  | written hmore hwrite hafter =>
      exact .written hpage (hlast.trans hkept) (hgrows.trans hmore) hwrite hafter

theorem outcome (step : Step) : Outcome state step (state.run step) := by
  cases step with
  | load path => exact outcome_of_spared hlogger rfl (sparesFiles_load path) rfl
  | buildPage title ds =>
      exact outcome_of_spared hlogger rfl (sparesFiles_buildPage _ title ds) rfl
  | write built => exact outcome_of_write hlogger rfl rfl (.refl state.store)
  | build path title =>
      have hspared : SparesFiles (make state.builder.settings path title).run :=
        (sparesFiles_load path).followedBy fun ds => sparesFiles_buildPage _ title ds
      rw [run, program, fst_build]
      rcases hmade : (make state.builder.settings path title).runOn state.session state.store with
        ⟨⟨outcome, session⟩, grown⟩
      obtain ⟨hkept, hgrows⟩ := hspared.runOn hlogger hmade
      cases outcome with
      | error fault =>
          rw [runOn_bind_error hmade]
          exact .failed hkept hgrows
      | ok built =>
          rw [runOn_bind_ok hmade]
          refine outcome_of_write hlogger ?_ hkept hgrows
          rw [page?, hmade]
          rfl

end Outcomes

theorem isPage_of_page? {step : Step} {built : BuiltPage}
    (h : step.IsProper state.builder.settings) (hpage : state.page? step = some built) :
    IsPage state.builder.settings built := by
  cases step with
  | load path => cases hpage
  | buildPage title ds => cases hpage
  | write page =>
      cases hpage
      exact h
  | build path title =>
      have hensures : Ensures (make state.builder.settings path title) fun built =>
          built.title = title ∧
            built.path = pathFor state.builder.settings (Anchor.ofPage title) :=
        .after fun ds => ensures_buildPage _ title ds
      cases hmade : ((make state.builder.settings path title).runOn state.session state.store).1.1 with
      | error fault =>
          rw [page?, hmade] at hpage
          cases hpage
      | ok made =>
          rw [page?, hmade] at hpage
          cases hpage
          obtain ⟨htitle, hpath⟩ := hensures _ _ built hmade
          rw [← htitle] at hpath
          exact ⟨htitle ▸ h, hpath⟩

theorem next_of_error {step : Step} {fault : Fault} {session : Session} {store : Store}
    (h : state.run step = ((.error fault, session), store)) :
    state.next step = { state with session, store } := by
  rw [next, h]

theorem next_of_ok {step : Step} {builder : Builder} {session : Session} {store : Store}
    (h : state.run step = ((.ok builder, session), store)) :
    state.next step = { builder, session, store, written := state.written ++
      (state.page? step).toList.map fun built => (built.path, built.html) } := by
  rw [next, h]

-- One step, whatever comes of it.
theorem Invariant.next {settings : Settings} (h : Invariant settings state) {step : Step}
    (hproper : step.IsProper settings) : Invariant settings (state.next step) := by
  have houtcome := outcome h.console step
  rcases hrun : state.run step with ⟨⟨outcome, session⟩, store⟩
  rw [hrun] at houtcome
  cases houtcome with
  | failed hlogger hgrows =>
      rw [next_of_error hrun]
      exact h.spared hlogger hgrows
  | unwritten hpage hlogger hgrows =>
      rw [next_of_ok hrun, hpage]
      simpa using h.spared hlogger hgrows
  | written hpage hlogger hgrows hwrite hafter =>
      rw [next_of_ok hrun, hpage]
      have hbuilt := isPage_of_page? (h.settings_eq ▸ hproper) hpage
      exact h.written (h.settings_eq ▸ hbuilt) hlogger hgrows hwrite hafter

theorem Invariant.run {settings : Settings} (h : Invariant settings state) {steps : List Step}
    (hproper : ∀ step ∈ steps, step.IsProper settings) :
    Invariant settings (steps.foldl State.next state) := by
  induction steps generalizing state with
  | nil => exact h
  | cons step rest ih =>
      have hnext := h.next (hproper step List.mem_cons_self)
      exact ih hnext fun other hother => hproper other (List.mem_cons_of_mem step hother)

theorem raises_spares {step : Step} (hlogger : state.session.logger.IsConsoleOnly)
    (h : state.Raises step) :
    (state.next step).builder.assets = state.builder.assets ∧
      state.store.SameFiles (state.next step).store := by
  obtain ⟨fault, hfault⟩ := h
  have houtcome := outcome hlogger step
  rcases hrun : state.run step with ⟨⟨outcome, session⟩, store⟩
  rw [hrun] at houtcome hfault
  cases houtcome with
  | failed hlogger hgrows =>
      rw [next_of_error hrun]
      exact ⟨rfl, hgrows.files⟩
  | unwritten => cases hfault
  | written => cases hfault

end State

-- Whatever steps a builder takes and wherever they fail, what it has taken down is what it wrote, and
-- the files hold it. A step that raises changes neither. Messages go to the console alone, so that
-- nothing else is written.
theorem steps_keep_assets_and_files (settings : Settings) {session : Session} (store : Store)
    (hlogger : session.logger.IsConsoleOnly) {steps : List Step}
    (hproper : ∀ step ∈ steps, step.IsProper settings) :
    let state := steps.foldl State.next (.start settings session store)
    state.InStep ∧ ∀ step, state.Raises step →
      (state.next step).builder.assets = state.builder.assets ∧
        state.store.SameFiles (state.next step).store := by
  have hstart : State.Invariant settings (.start settings session store) := .start hlogger
  have hreached := hstart.run hproper
  exact ⟨hreached.inStep, fun step => State.raises_spares hreached.console⟩

end Running

-- A page that is built, then written anew under a title with the same identity, with a failure between.
def outSettings : Settings :=
  { root := {}, highlightMark := "code-block_", outputDir := .ofText "out" }

def rewrittenPage : BuiltPage :=
  { identity := "node-api", title := "node api", path := .ofText "out/node-api/index.html",
    html := "Rewritten", page := { tree := [] } }

def rewritingSteps : List Step :=
  [.build (.ofText "api.json") "Node API", .load (.ofText "missing.json"), .write rewrittenPage]

attribute [local instance] Markdown.noExtensions Layout.fieldTemplates

theorem steps_keep_assets_and_files_rewritten :
    ({} : Session).logger.IsConsoleOnly ∧
      (∀ step ∈ rewritingSteps, step.IsProper outSettings) ∧
      let state := rewritingSteps.foldl State.next
        (.start outSettings {} { entries := [(["api.json"], .file "[]")] })
      state.builder.assets = [(rewrittenPage.path, "Rewritten")] ∧ state.written.length = 2 ∧
        state.InStep ∧ state.Raises (.load (.ofText "missing.json")) ∧
        ∀ step, state.Raises step →
          (state.next step).builder.assets = state.builder.assets ∧
            state.store.SameFiles (state.next step).store := by
  have hlogger : ({} : Session).logger.IsConsoleOnly := fun _ h => nomatch h
  have hproper : ∀ step ∈ rewritingSteps, step.IsProper outSettings := by decide +kernel
  obtain ⟨hstep, hraises⟩ := steps_keep_assets_and_files outSettings
    { entries := [(["api.json"], .file "[]")] } hlogger hproper
  exact ⟨hlogger, hproper, by decide +kernel, by decide +kernel, hstep, by decide +kernel, hraises⟩

end Builder

end ApiPages
