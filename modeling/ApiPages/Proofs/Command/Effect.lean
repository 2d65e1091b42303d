import ApiPages.Page.FieldTemplate
import ApiPages.Proofs.Command.Arguments
import ApiPages.Proofs.Command.Preparation
import ApiPages.Proofs.Document.Elements

namespace ApiPages

open Outcome Program

namespace Command

-- What a check answers about a page.
def checkAnswer (title : String) (page : Page) : String :=
  let count := (Node.elementsIn page.tree).countP Node.isSection
  title ++ ": " ++ toString count ++ " sections rendered\n"

section Finishing

variable {here : Surroundings} {settings : Settings} {arguments : Arguments} {built : BuiltPage}

theorem finish_check (h : arguments.action = .check) :
    finish (m := StateM Store) here settings arguments built =
      pure (checkAnswer arguments.title built.page) := by
  rw [finish, h]
  simp only [BuiltPage.sectionCount, Node.sectionCounts_eq_countP, checkAnswer]

theorem finish_build (h : arguments.action = .build) :
    finish (m := StateM Store) here settings arguments built =
      Builder.write { settings } built >>= fun _ =>
        pure ("Page written to " ++ shownPath here built.path ++ "\n") := by
  rw [finish, h]
  simp only [discard, Functor.discard, map_const, Function.comp_apply, bind_map_left]

end Finishing

-- The outcome of a run whose stages have come to an end.
def outcomeOf : Except Stop String → Outcome
  | .ok answer => { ending := .success, answer }
  | .error (.message _) => { ending := .failure }
  | .error (.fault fault) => { ending := .fault fault }

theorem status_outcomeOf_iff {outcome : Except Stop String} :
    (outcomeOf outcome).ending.status? = some 0 ↔ ∃ answer, outcome = .ok answer := by
  rcases outcome with ⟨_ | _⟩ | answer <;> simp [outcomeOf, Ending.status?]

-- The places that the log of a command has in a store, if it has a log.
def logPlaces (here : Surroundings) (arguments : Arguments) (store : Store) : List (List String) :=
  Store.placesOf store.current (logOf here arguments)

theorem templateIn_of_logsTo {log : Option Path} {store other : Store} (h : store.LogsTo log other)
    {settings : Settings} {name : String} (hplace : ∀ path ∈ Builder.templatePath? settings name,
      path.place store.current ∉ Store.placesOf store.current log) :
    Builder.templateIn other settings name = Builder.templateIn store settings name := by
  unfold Builder.templateIn
  cases hpath : Builder.templatePath? settings name with
  | none => rfl
  | some path =>
      dsimp only
      rcases h.look_cases (hplace path hpath) with ⟨hkind, htext⟩ | ⟨hbefore, hafter⟩
      · rw [hkind, htext]
      · rw [hbefore, hafter]

section Templates

variable [Layout.TemplateLanguage]

-- The templates that the layout of a page asks a store for.
def templatesFor (store : Store) (settings : Settings) (content : Layout.Content) : List String :=
  (Layout.render content).asked (Builder.templateIn store settings)

-- No template that the layout of a page asks for is the log of a command.
def LogsElsewhere (here : Surroundings) (arguments : Arguments) (store : Store) (settings : Settings)
    (content : Layout.Content) : Prop :=
  ∀ name ∈ templatesFor store settings content, ∀ path ∈ Builder.templatePath? settings name,
    path.place store.current ∉ logPlaces here arguments store

instance (here : Surroundings) (arguments : Arguments) (store : Store) (settings : Settings)
    (content : Layout.Content) :
    Decidable (LogsElsewhere here arguments store settings content) :=
  inferInstanceAs (Decidable (∀ name ∈ templatesFor store settings content,
    ∀ path ∈ Builder.templatePath? settings name, _))

-- A log that is no template changes neither the templates that are asked for nor the layout.
theorem LogsElsewhere.same_templates {here : Surroundings} {arguments : Arguments}
    {store : Store} {settings : Settings} {content : Layout.Content}
    (h : LogsElsewhere here arguments store settings content)
    {between : Store} (hlogs : store.LogsTo (logOf here arguments) between) :
    (∀ name ∈ templatesFor store settings content,
      Builder.templateIn between settings name = Builder.templateIn store settings name) ∧
    Builder.laidOut between settings content = Builder.laidOut store settings content ∧
    templatesFor between settings content = templatesFor store settings content := by
  have hsame : ∀ name ∈ templatesFor store settings content,
      Builder.templateIn between settings name = Builder.templateIn store settings name :=
    fun name hname => templateIn_of_logsTo hlogs (h name hname)
  exact ⟨hsame, Layout.Filling.result_congr hsame⟩

end Templates

section Running

variable [CharacterNames] [Markdown.Extensions] [Layout.TemplateLanguage]

-- What the stages of a command come to.
inductive Comes (here : Surroundings) (arguments : Arguments) (session : Session) (store : Store) :
    Except Stop String → Store → Prop
  -- No page was made.
  | stopped {stop : Stop} {after : Store}
      (hnone : ∀ made, result (prepare here arguments) session store ≠ .ok made)
      (hlogs : store.LogsTo (logOf here arguments) after) :
      Comes here arguments session store (.error stop) after
  | checked {made : Settings × BuiltPage} {after : Store} (haction : arguments.action = .check)
      (hmade : result (prepare here arguments) session store = .ok made)
      (hlogs : store.LogsTo (logOf here arguments) after) :
      Comes here arguments session store (.ok (checkAnswer arguments.title made.2.page)) after
  -- A page was made that could not be written.
  | unwritten {made : Settings × BuiltPage} {stop : Stop} {between after : Store}
      (haction : arguments.action = .build)
      (hmade : result (prepare here arguments) session store = .ok made)
      (hlogs : store.LogsTo (logOf here arguments) between) (hgrows : between.Grows after) :
      Comes here arguments session store (.error stop) after
  | written {made : Settings × BuiltPage} {answer : String} {between grown changed after : Store}
      (haction : arguments.action = .build)
      (hmade : result (prepare here arguments) session store = .ok made)
      (hlogs : store.LogsTo (logOf here arguments) between) (hgrows : between.Grows grown)
      (hwrite : grown.changeFile made.2.path (fun _ => .text made.2.html) = .ok changed)
      (hafter : changed.LogsTo (logOf here arguments) after) :
      Comes here arguments session store (.ok answer) after

section Endings

variable {here : Surroundings} {arguments : Arguments} {session session' : Session}
  {store after : Store} {outcome : Except Stop String}

theorem comes (hrun : ((stages (m := StateM Store) here arguments).run.run session).run store =
      ((outcome, session'), after)) :
    Comes here arguments session store outcome after := by
  rw [stages_eq] at hrun
  rcases hprepare : ((prepare here arguments).run.run session).run store with
    ⟨⟨found, session₁⟩, between⟩
  have hlogs := logsTo_prepared here arguments session store
  rw [prepared, hprepare] at hlogs
  have hresult : result (prepare here arguments) session store = found := by
    rw [result, hprepare]
  cases found with
  | error stop =>
      rw [run_bind_error hprepare] at hrun
      cases hrun
      exact .stopped (fun made hmade => by rw [hresult] at hmade; cases hmade) hlogs
  | ok made =>
      rw [run_bind_ok hprepare] at hrun
      cases haction : arguments.action with
      | check =>
          rw [finish_check haction] at hrun
          cases hrun
          exact .checked haction hresult hlogs
      | build =>
          rw [finish_build haction] at hrun
          rcases hwrite : (Builder.write { settings := made.1 } made.2).runOn session₁ between with
            ⟨⟨written, session₂⟩, last⟩
          obtain ⟨-, ⟨fault, rfl, hgrows⟩ | ⟨grown, changed, hgrows, hchange, hafter, rfl⟩⟩ :=
            Builder.write_cases (Q := Store.LogsTo (logOf here arguments)) _ made.2
              (writesTo_of_prepare hprepare) hwrite
          · rw [run_stage .fault (runOn_bind_error hwrite)] at hrun
            cases hrun
            exact .unwritten haction hresult hlogs hgrows
          · rw [run_stage .fault (runOn_bind_ok hwrite)] at hrun
            cases hrun
            exact .written haction hresult hlogs hgrows hchange hafter

end Endings

-- What a command answers and leaves behind.
def runFrom (here : Surroundings) (words : List String) (session : Session) (store : Store) :
    (Outcome × Session) × Store :=
  ((run (m := StateM Store) here words).run session).run store

theorem runFrom_comes (here : Surroundings) {words : List String} {arguments : Arguments}
    (h : Arguments.read words = .ok arguments) (session : Session) (store : Store) :
    ∃ outcome, (runFrom here words session store).1.1 = outcomeOf outcome ∧
      Comes here arguments session store outcome (runFrom here words session store).2 := by
  rcases hrun : ((stages (m := StateM Store) here arguments).run.run session).run store with
    ⟨⟨outcome, session'⟩, after⟩
  refine ⟨outcome, ?_⟩
  have hcomes := comes hrun
  unfold runFrom run
  simp only [h, StateT.run_bind, hrun]
  rcases outcome with ⟨_ | _⟩ | answer <;> exact ⟨rfl, hcomes⟩

-- One page is written, in its file below the directory for pages: the layout of the page that the
-- input makes. Only a template that is the log may have grown before, and only a page that is the log
-- may have grown since.
structure WritesPage (here : Surroundings) (arguments : Arguments) (store after : Store)
    (settings : Settings) (output : Option Path) (page : Page) (html : String) : Prop where
  rendered : rendered here arguments store = .ok (settings, page)
  directed : resolvedPath here arguments.output = .ok output
  laidOut : ∃ between, store.LogsTo (logOf here arguments) between ∧
    Builder.laidOut between settings (Builder.contentOf arguments.title page) = .ok html
  unlogged :
    LogsElsewhere here arguments store settings (Builder.contentOf arguments.title page) →
      Builder.laidOut store settings (Builder.contentOf arguments.title page) = .ok html
  spared :
    let path := Builder.pathFor (directedTo settings output) (Anchor.ofPage arguments.title)
    store.SameFilesBesides (path.place store.current :: logPlaces here arguments store) after
  text :
    let path := Builder.pathFor (directedTo settings output) (Anchor.ofPage arguments.title)
    ∃ more, after.Holds path (.text (html ++ more)) ∧
      (path.place store.current ∉ logPlaces here arguments store → more = "")

section Effects

variable {here : Surroundings} {arguments : Arguments} {session : Session} {store after : Store}

theorem Comes.spares {outcome : Except Stop String}
    (h : Comes here arguments session store outcome after)
    (hspared : arguments.action = .check ∨ ∀ answer, outcome ≠ .ok answer) :
    store.SameFilesBesides (logPlaces here arguments store) after := by
  cases h with
  | stopped _ hlogs => exact hlogs.sameFilesBesides
  | checked _ _ hlogs => exact hlogs.sameFilesBesides
  | unwritten _ _ hlogs hgrows =>
      exact hlogs.sameFilesBesides.trans (hgrows.files.besides _)
  | written haction =>
      rcases hspared with hcheck | hfailed
      · rw [haction] at hcheck
        cases hcheck
      · exact absurd rfl (hfailed _)

theorem Comes.writes {answer : String} (h : Comes here arguments session store (.ok answer) after)
    (haction : arguments.action = .build) :
    ∃ settings output page html,
      WritesPage here arguments store after settings output page html := by
  cases h with
  | checked hcheck =>
      rw [haction] at hcheck
      cases hcheck
  | @written made answer between grown changed after _ hmade hlogs hgrows hwrite hafter =>
      obtain ⟨settings, built⟩ := made
      obtain ⟨-, output, houtput, found, page, rfl, hrendered, html, hhtml, rfl⟩ :=
        prepare_eq_ok_iff.mp hmade
      have hlaid := logsTo_prepared here arguments session store
      obtain ⟨hspared, htext⟩ := hlogs.write_between hgrows hwrite hafter
      refine ⟨found, output, page, html, hrendered, houtput, ⟨_, hlaid, hhtml⟩, fun helsewhere => ?_,
        hspared, htext⟩
      rw [← (helsewhere.same_templates hlaid).2.1, hhtml]

theorem Comes.answers {outcome : Except Stop String}
    (h : Comes here arguments session store outcome after) (haction : arguments.action = .check) :
    ((∃ answer, outcome = .ok answer) ↔
      ∃ made, result (prepare here arguments) session store = .ok made) ∧
    ∀ made, result (prepare here arguments) session store = .ok made →
      (outcomeOf outcome).answer = checkAnswer arguments.title made.2.page := by
  cases h with
  | stopped hnone hlogs =>
      refine ⟨iff_of_false ?_ ?_, fun made hmade => absurd hmade (hnone made)⟩
      · rintro ⟨answer, hanswer⟩
        cases hanswer
      · rintro ⟨made, hmade⟩
        exact hnone made hmade
  | @checked made _ _ hmade _ =>
      refine ⟨⟨fun _ => ⟨made, hmade⟩, fun _ => ⟨_, rfl⟩⟩, fun other hother => ?_⟩
      cases hmade.symm.trans hother
      rfl
  | unwritten hbuild => cases haction.symm.trans hbuild
  | written hbuild => cases haction.symm.trans hbuild

end Effects

-- A build of the page that a check is about: their logs can be opened, or both cannot, the directory
-- for pages is known, and when it comes to the layout, both find the same templates.
structure IsBuildOf (here : Surroundings) (session session' : Session) (store : Store)
    (check build : Arguments) : Prop where
  action : build.action = .build
  input : build.input = check.input
  title : build.title = check.title
  config : build.config = check.config
  log : (∃ other, opened here build store = .ok other) ↔
    ∃ other, opened here check store = .ok other
  output : ∃ output, resolvedPath here build.output = .ok output
  templates : ∀ settings page, rendered here check store = .ok (settings, page) →
    ∀ name ∈ templatesFor (prepared here check session store) settings
        (Builder.contentOf check.title page),
      Builder.templateIn (prepared here build session' store) settings name =
        Builder.templateIn (prepared here check session store) settings name

namespace IsBuildOf

variable {here : Surroundings} {session session' : Session} {store : Store} {check build : Arguments}

-- Logs that are no templates leave the templates to both as they are.
theorem templates_of_logsElsewhere (h : ∀ settings page,
      rendered here check store = .ok (settings, page) →
        let content := Builder.contentOf check.title page
        LogsElsewhere here check store settings content ∧
          LogsElsewhere here build store settings content) :
    ∀ settings page, rendered here check store = .ok (settings, page) →
      ∀ name ∈ templatesFor (prepared here check session store) settings
          (Builder.contentOf check.title page),
        Builder.templateIn (prepared here build session' store) settings name =
          Builder.templateIn (prepared here check session store) settings name := by
  intro settings page hrendered name hname
  obtain ⟨hcheck, hbuild⟩ := h settings page hrendered
  obtain ⟨hsame, -, hasked⟩ :=
    hcheck.same_templates (logsTo_prepared here check session store)
  rw [hasked] at hname
  obtain ⟨hsame', -⟩ := hbuild.same_templates (logsTo_prepared here build session' store)
  rw [hsame name hname, hsame' name hname]

-- A check and a build of the same make the same page or none.
theorem same_page (h : IsBuildOf here session session' store check build)
    (hcheck : check.output = none) :
    ((∃ made, result (prepare here check) session store = .ok made) ↔
      ∃ made, result (prepare here build) session' store = .ok made) ∧
    ∀ made other, result (prepare here check) session store = .ok made →
      result (prepare here build) session' store = .ok other → made.2.page = other.2.page := by
  have hsame := rendered_congr here store h.input h.title h.config
  have hlaid : ∀ settings page, rendered here check store = .ok (settings, page) →
      Builder.laidOut (prepared here build session' store) settings
          (Builder.contentOf check.title page) =
        Builder.laidOut (prepared here check session store) settings
          (Builder.contentOf check.title page) := fun settings page hrendered =>
    (Layout.Filling.result_congr (h.templates settings page hrendered)).1
  constructor
  · have hnone : ∃ output, resolvedPath here check.output = .ok output :=
      ⟨none, resolvedPath_none here (by rw [hcheck]; rfl)⟩
    rw [prepare_ok_iff, prepare_ok_iff, h.log, hsame, h.title]
    refine and_congr_right fun _ => and_congr (iff_of_true hnone h.output) ?_
    refine exists_congr fun settings => exists_congr fun page => and_congr_right fun hrendered => ?_
    rw [hlaid settings page hrendered]
  · rintro ⟨settings, built⟩ ⟨settings', built'⟩ hmade hother
    obtain ⟨-, -, -, _, page, -, hrendered, -, -, rfl⟩ := prepare_eq_ok_iff.mp hmade
    obtain ⟨-, -, -, _, page', -, hrendered', -, -, rfl⟩ := prepare_eq_ok_iff.mp hother
    rw [hsame, hrendered] at hrendered'
    exact (Prod.mk.inj (Except.ok.inj hrendered')).2

end IsBuildOf

-- A check and a failing build leave all files but the log as they are, and a build that succeeds
-- writes one page besides. A check succeeds if the build of the same comes to writing its page, and
-- it counts the sections of that page.
theorem run_writes_page_or_nothing (here : Surroundings) (session : Session) (store : Store)
    {words : List String} {arguments : Arguments} (h : Arguments.read words = .ok arguments) :
    let outcome := (runFrom here words session store).1.1
    let after := (runFrom here words session store).2
    (arguments.action = .check ∨ outcome.ending.status? ≠ some 0 →
      store.SameFilesBesides (logPlaces here arguments store) after) ∧
    (arguments.action = .build ∧ outcome.ending.status? = some 0 →
      ∃ settings output page html,
        WritesPage here arguments store after settings output page html) ∧
    (arguments.action = .check →
      ∀ build session', IsBuildOf here session session' store arguments build →
      (outcome.ending.status? = some 0 ↔
        ∃ made, result (prepare here build) session' store = .ok made) ∧
      ∀ made, result (prepare here build) session' store = .ok made →
        outcome.answer = checkAnswer arguments.title made.2.page) := by
  obtain ⟨outcome, houtcome, hcomes⟩ := runFrom_comes here h session store
  dsimp only
  rw [houtcome]
  refine ⟨fun hspared => ?spared, fun ⟨haction, hsuccess⟩ => ?written,
    fun haction build session' hbuild => ?checked⟩
  case spared =>
    refine hcomes.spares (hspared.imp_right fun hfailed answer hanswer => ?_)
    exact hfailed (status_outcomeOf_iff.mpr ⟨answer, hanswer⟩)
  case written =>
    obtain ⟨answer, rfl⟩ := status_outcomeOf_iff.mp hsuccess
    exact hcomes.writes haction
  case checked =>
    obtain ⟨hsucceeds, hanswer⟩ := hcomes.answers haction
    obtain ⟨hboth, hpage⟩ := hbuild.same_page (output_of_check h haction)
    refine ⟨status_outcomeOf_iff.trans (hsucceeds.trans hboth), fun made hmade => ?_⟩
    obtain ⟨checked, hchecked⟩ := hboth.mpr ⟨made, hmade⟩
    rw [hanswer checked hchecked, hpage checked made hchecked hmade]

end Running

section Cases

attribute [local instance] noCharacterNames Markdown.noExtensions Layout.fieldTemplates

-- A project with a template and a page to make, in which the directory of the page is there already.
def workHere : Surroundings := { current := .ofText "/work", home := .ofText "/home" }

def workStore : Store :=
  Store.ofTexts ["work"]
    [(["work", "api.json"], .file (.text "[\x7b\"name\": \"Store\", \"kindString\": \"Class\"\x7d]")),
      (["work", "none.json"], .file (.text "[]")),
      (["work", ".apiref.yml"], .file (.text "'templates_dir': 'layout'")),
      (["work", "layout", "page.html.j2"],
        .file (.text "<h1>\x7b\x7b title \x7d\x7d</h1>\x7b\x7b body \x7d\x7d")),
      (["work", "dist", "api"], .directory)]

def buildWords : List String :=
  ["build", "api.json", "--title", "API", "-v", "--log-file", "build.log"]

def buildArguments : Arguments :=
  { action := .build, input := "api.json", title := "API", logFile := some "build.log",
    verbose := true }

def checkWords : List String := ["check", "api.json", "--title", "API"]

def checkArguments : Arguments := { action := .check, input := "api.json", title := "API" }

theorem isBuildOf_buildArguments :
    IsBuildOf workHere {} {} workStore checkArguments buildArguments where
  action := rfl
  input := rfl
  title := rfl
  config := rfl
  log := iff_of_true (exists_eq_ok_of_isSome (by decide +kernel))
    (exists_eq_ok_of_isSome (by decide +kernel))
  output := ⟨none, rfl⟩
  templates := by
    refine IsBuildOf.templates_of_logsElsewhere fun settings page hrendered => ?_
    have hall : (rendered workHere checkArguments workStore).toOption.all (fun found =>
        let content := Builder.contentOf "API" found.2
        decide (LogsElsewhere workHere checkArguments workStore found.1 content ∧
          LogsElsewhere workHere buildArguments workStore found.1 content)) = true := by
      decide +kernel
    rw [hrendered] at hall
    exact of_decide_eq_true hall

theorem run_writes_page_or_nothing_build :
    Arguments.read buildWords = .ok buildArguments ∧ Arguments.read checkWords = .ok checkArguments ∧
      (∃ settings output page html, WritesPage workHere buildArguments workStore
        (runFrom workHere buildWords {} workStore).2 settings output page html) ∧
      workStore.SameFilesBesides [] (runFrom workHere checkWords {} workStore).2 ∧
      ∃ made, result (prepare workHere buildArguments) {} workStore = .ok made ∧
        (runFrom workHere checkWords {} workStore).1.1.answer = checkAnswer "API" made.2.page := by
  have hbuild : Arguments.read buildWords = .ok buildArguments := by decide +kernel
  have hcheck : Arguments.read checkWords = .ok checkArguments := by decide +kernel
  obtain ⟨-, hwrites, -⟩ := run_writes_page_or_nothing workHere {} workStore hbuild
  obtain ⟨hspares, -, hanswers⟩ := run_writes_page_or_nothing workHere {} workStore hcheck
  obtain ⟨hsucceeds, hanswer⟩ := hanswers rfl buildArguments {} isBuildOf_buildArguments
  obtain ⟨made, hmade⟩ := hsucceeds.mp (by decide +kernel)
  exact ⟨hbuild, hcheck, hwrites ⟨rfl, by decide +kernel⟩, hspares (.inl rfl), made, hmade,
    hanswer made hmade⟩

-- The page may itself be the log, which then goes on behind it.
def loggedWords : List String :=
  ["build", "none.json", "--title", "API", "-v", "--log-file", "dist/api/index.html"]

def loggedArguments : Arguments :=
  { action := .build, input := "none.json", title := "API", logFile := some "dist/api/index.html",
    verbose := true }

-- A log and a directory for pages that cannot be had.
def lostLogWords : List String := checkWords ++ ["--log-file", "lost/check.log"]

def lostOutputArguments : Arguments :=
  { action := .build, input := "api.json", title := "API", output := some "~nosuchuser/pages" }

-- The template may be the log, too: a title in a record there may open a field that nothing closes.
def loggedTemplateWords : List String :=
  ["check", "api.json", "--title", "\x7b\x7b", "--log-file", "layout/page.html.j2"]

def openFieldArguments : Arguments := { action := .build, input := "api.json", title := "\x7b\x7b" }

-- What the evaluations below are about: the page with its settings, and what it is laid out as.
def laidOutPage (arguments : Arguments) : Except Fault ((Settings × Page) × String) := do
  let found ← rendered workHere arguments workStore
  return (found,
    ← Builder.laidOut workStore found.1 (Builder.contentOf arguments.title found.2))

theorem laidOutPage_eq_ok_iff {arguments : Arguments} {settings : Settings} {page : Page}
    {html : String} : laidOutPage arguments = .ok ((settings, page), html) ↔
      rendered workHere arguments workStore = .ok (settings, page) ∧
        Builder.laidOut workStore settings (Builder.contentOf arguments.title page) = .ok html := by
  simp only [laidOutPage, bind_eq_ok_iff, pure_eq_ok_iff, Prod.exists, Prod.mk.injEq]
  constructor
  · rintro ⟨_, _, hrendered, _, hlaid, ⟨rfl, rfl⟩, rfl⟩
    exact ⟨hrendered, hlaid⟩
  · rintro ⟨hrendered, hlaid⟩
    exact ⟨settings, page, hrendered, html, hlaid, ⟨rfl, rfl⟩, rfl⟩

theorem logged_not_holds :
    ∃ settings page html, rendered workHere loggedArguments workStore = .ok (settings, page) ∧
      Builder.laidOut workStore settings (Builder.contentOf "API" page) = .ok html ∧
      let path := Builder.pathFor settings (Anchor.ofPage "API")
      path.place workStore.current ∈ logPlaces workHere loggedArguments workStore ∧
        ¬ (runFrom workHere loggedWords {} workStore).2.Holds path (.text html) := by
  have hplace : (runFrom workHere loggedWords {} workStore).2.current = workStore.current := by
    decide +kernel
  obtain ⟨⟨⟨settings, page⟩, html⟩, hmade, hfound⟩ := exists_eq_ok_of_toOption
    (x := laidOutPage loggedArguments)
    (f := fun made =>
      let place := (Builder.pathFor made.1.1 (Anchor.ofPage "API")).place workStore.current
      decide (place ∈ logPlaces workHere loggedArguments workStore ∧
        Store.entry? (runFrom workHere loggedWords {} workStore).2 place ≠
          some (.file (.text made.2))))
    (b := true) (by decide +kernel)
  obtain ⟨hrendered, hlaid⟩ := laidOutPage_eq_ok_iff.mp hmade
  obtain ⟨hlog, hentry⟩ := of_decide_eq_true hfound
  refine ⟨settings, page, html, hrendered, hlaid, hlog, fun hholds => hentry ?_⟩
  rw [← hholds.entry_eq, hplace]

theorem lostOutput_not_made :
    ¬ ∃ made, result (prepare workHere lostOutputArguments) {} workStore = .ok made := by
  rw [prepare_ok_iff]
  rintro ⟨-, ⟨output, houtput⟩, -⟩
  have hfails : (resolvedPath workHere (some "~nosuchuser/pages")).toOption = none := by
    decide +kernel
  rw [show resolvedPath workHere (some "~nosuchuser/pages") = .ok output from houtput] at hfails
  cases hfails

-- Where the page is the log, no other file is written and the file holds more than the page. Where a
-- log cannot be opened, the home of a directory is not known or a log is the template, a check and a
-- build of the same part.
theorem run_writes_page_into_log :
    (Arguments.read loggedWords = .ok loggedArguments ∧
      (runFrom workHere loggedWords {} workStore).1.1.ending.status? = some 0 ∧
      ∃ settings page html, rendered workHere loggedArguments workStore = .ok (settings, page) ∧
        Builder.laidOut workStore settings (Builder.contentOf "API" page) = .ok html ∧
        let path := Builder.pathFor settings (Anchor.ofPage "API")
        path.place workStore.current ∈ logPlaces workHere loggedArguments workStore ∧
          ¬ (runFrom workHere loggedWords {} workStore).2.Holds path (.text html)) ∧
    ((runFrom workHere lostLogWords {} workStore).1.1.ending.status? ≠ some 0 ∧
      ∃ made, result (prepare workHere buildArguments) {} workStore = .ok made) ∧
    ((runFrom workHere checkWords {} workStore).1.1.ending.status? = some 0 ∧
      ¬ ∃ made, result (prepare workHere lostOutputArguments) {} workStore = .ok made) ∧
    (runFrom workHere loggedTemplateWords {} workStore).1.1.ending.status? ≠ some 0 ∧
      ∃ made, result (prepare workHere openFieldArguments) {} workStore = .ok made := by
  refine ⟨⟨?read, ?logs, logged_not_holds⟩, ⟨?stopped, ?made⟩, ⟨?checked, lostOutput_not_made⟩,
    ?refused, ?laid⟩
  case read => decide +kernel
  case logs => decide +kernel
  case stopped => decide +kernel
  case made => exact exists_eq_ok_of_isSome (by decide +kernel)
  case checked => decide +kernel
  case refused => decide +kernel
  case laid => exact exists_eq_ok_of_isSome (by decide +kernel)

end Cases

end Command

end ApiPages
