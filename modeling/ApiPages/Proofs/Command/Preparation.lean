import ApiPages.Proofs.Builder.Frame
import ApiPages.Proofs.Command.Log

namespace ApiPages

open Outcome Program

namespace Settings

variable (here : Surroundings)

theorem onlyLooks_locate (path : Path) :
    OnlyLooks (locate (m := StateT Session (StateM Store)) here path) := by
  refine (OnlyLooks.lift _).bind fun path => OnlyLooks.kind? path (fun kind => ?_) rfl
  split <;> exact .value _

-- An empty settings file says what a missing one says.
theorem onlyLooks_readFile (file : Path) :
    OnlyLooks (readFile (m := StateT Session (StateM Store)) file) where
  alone := by
    refine (leavesAlone_kind? file).bind fun kind => ?_
    split
    · exact (OnlyLooks.value _).alone
    · exact (leavesAlone_readText file).bind fun text => (OnlyLooks.lift _).alone
  steady := by
    intro store opened hopened session session'
    unfold readFile
    simp only [(leavesAlone_kind? file).result_bind, result_kind?]
    rcases hopened.look_cases file with ⟨hsame, htext⟩ | ⟨hbefore, -, hafter, hempty⟩
    · rw [hsame]
      cases store.kind? file with
      | error error => rfl
      | ok kind =>
          cases kind with
          | none => rfl
          | some kind =>
              change (result (Files.ask _ >>= _) session' opened).toOption =
                (result (Files.ask _ >>= _) session store).toOption
              simp only [(leavesAlone_readText file).result_bind, result_readText, result_lift,
                toOption_bind, toOption_mapError, htext]
    · rw [hbefore, hafter]
      change (result (Files.ask _ >>= _) session' opened).toOption = some []
      simp only [(leavesAlone_readText file).result_bind, result_readText, result_lift, hempty]
      rfl

theorem onlyLooks_load [CharacterNames] (path : Option Path) :
    OnlyLooks (load (m := StateT Session (StateM Store)) here path) := by
  cases path with
  | none => exact .lift _
  | some path =>
      refine (onlyLooks_locate here path).bind fun file => ?_
      exact (onlyLooks_readFile file).bind fun overrides => .lift _

end Settings

namespace Builder

variable {store opened : Store}

-- An empty input is none, as a missing one is.
theorem loaded_steady (hopened : store.AddsEmptyFiles opened) (path : Path) :
    (loaded opened path).toOption = (loaded store path).toOption := by
  unfold loaded
  rcases hopened.look_cases path with ⟨-, htext⟩ | ⟨-, hmissing, -, hempty⟩
  · simp only [toOption_bind, toOption_mapError, htext]
  · simp only [toOption_bind, toOption_mapError, hmissing, hempty]
    rfl

end Builder

namespace Command

theorem onlyLooks_settingsFor [CharacterNames] (here : Surroundings) (arguments : Arguments) :
    OnlyLooks (settingsFor (m := StateM Store) here arguments) := by
  unfold settingsFor
  exact Settings.onlyLooks_load here _

section Stages

variable {α β : Type} {program : Program (StateM Store) α} {next : α → Run (StateM Store) β}

theorem run_stage (stop : Fault → Stop) {session session' : Session} {store store' : Store}
    {outcome : Except Fault α} (h : program.runOn session store = ((outcome, session'), store')) :
    ((stage stop program).run.run session).run store =
      ((outcome.mapError stop, session'), store') := by
  unfold runOn at h
  simp only [stage, ExceptT.run_mk, StateT.run_bind, h]
  rfl

theorem leaves_stage {Q : Store → Store → Prop} {session : Session} {store : Store}
    {x : Store → Except Fault α} (h : Leaves Q program session store x) (stop : Fault → Stop) :
    Leaves Q (stage stop program) session store fun left => (x left).mapError stop := by
  obtain ⟨session', left, hkept, hmoved, hrun⟩ := h
  exact ⟨session', left, hkept, hmoved, run_stage stop hrun⟩

-- What comes after a look starts where the look did.
theorem leaves_stage_look {Q : Store → Store → Prop} [Std.Refl Q] {session : Session}
    {store : Store} {x : Except Fault α} {y : α → Store → Except Stop β} (h : LeavesAlone program)
    (hresult : result program session store = x) (stop : Fault → Stop)
    (hnext : ∀ a, Leaves Q (next a) session store (y a)) :
    Leaves Q (stage stop program >>= next) session store fun left =>
      x.mapError stop >>= fun a => y a left := by
  have hrun := run_stage stop (h session store)
  rw [hresult] at hrun
  cases x with
  | error fault => exact ⟨session, store, rfl, Std.Refl.refl store, run_bind_error hrun⟩
  | ok a =>
      obtain ⟨session', left, hkept, hmoved, hnextRun⟩ := hnext a
      exact ⟨session', left, hkept, hmoved, (run_bind_ok hrun).trans hnextRun⟩

end Stages

section Rendering

variable [CharacterNames] [Markdown.Extensions]

-- The settings that are found and the page that is made of the input.
def rendered (here : Surroundings) (arguments : Arguments) (store : Store) :
    Except Fault (Settings × Page) := do
  let settings ← result (settingsFor here arguments) {} store
  let ds ← Builder.loaded store (← homePath here arguments.input)
  return (settings, ← Page.render (Anchor.ofPage arguments.title) settings ds)

theorem rendered_eq_ok_iff {here : Surroundings} {arguments : Arguments} {store : Store}
    {settings : Settings} {page : Page} : rendered here arguments store = .ok (settings, page) ↔
    result (settingsFor here arguments) {} store = .ok settings ∧
      ∃ input, homePath here arguments.input = .ok input ∧
        ∃ ds, Builder.loaded store input = .ok ds ∧
          Page.render (Anchor.ofPage arguments.title) settings ds = .ok page := by
  simp only [rendered, bind_eq_ok_iff, pure_eq_ok_iff, Prod.mk.injEq]
  constructor
  · rintro ⟨_, hsettings, input, hinput, ds, hds, _, hpage, rfl, rfl⟩
    exact ⟨hsettings, input, hinput, ds, hds, hpage⟩
  · rintro ⟨hsettings, input, hinput, ds, hds, hpage⟩
    exact ⟨settings, hsettings, input, hinput, ds, hds, page, hpage, rfl, rfl⟩

-- The page is a matter of the input, the title and the settings that are asked for.
theorem rendered_congr (here : Surroundings) {arguments other : Arguments} (store : Store)
    (hinput : other.input = arguments.input) (htitle : other.title = arguments.title)
    (hconfig : other.config = arguments.config) :
    rendered here other store = rendered here arguments store := by
  unfold rendered settingsFor
  rw [hinput, htitle, hconfig]

end Rendering

-- The directory for pages has no part in what a page is.
theorem render_directedTo [Markdown.Extensions] (identity : String) (settings : Settings)
    (output : Option Path) (ds : List Declaration) :
    Page.render identity (directedTo settings output) ds = Page.render identity settings ds := rfl

theorem leaves_makePage [Markdown.Extensions] [Layout.TemplateLanguage] {P : Logger → Prop}
    {Q : Store → Store → Prop} [IsFrame P Q] (settings : Settings) (input : Path) (title : String)
    {session : Session} (hlogger : P session.logger) (store : Store) :
    Leaves Q (makePage settings input title) session store fun left =>
      Builder.loaded store input >>= Builder.builtFrom left settings title :=
  (Builder.leaves_load input hlogger store).bind fun ds _ between hkept =>
    Builder.leaves_buildPage settings title ds (hkept ▸ hlogger) between

section Making

variable [CharacterNames] [Markdown.Extensions] [Layout.TemplateLanguage]

-- The stages of a command between its log and its page, with the settings that the page is made
-- under.
def findPage (here : Surroundings) (arguments : Arguments) :
    Run (StateM Store) (Settings × BuiltPage) := do
  let settings ← stage settingsStop (settingsFor here arguments)
  let settings ← stage .fault (redirect here arguments.output settings)
  let input ← stage .fault (pathOf here arguments.input)
  let built ← stage (pageStop arguments.action) (makePage settings input arguments.title)
  return (settings, built)

-- The stages up to the page.
def prepare (here : Surroundings) (arguments : Arguments) :
    Run (StateM Store) (Settings × BuiltPage) := do
  stage .fault (configure here arguments)
  findPage here arguments

-- The store that they leave. It is the one that the page was laid out in, as a layout leaves all as
-- it is.
def prepared (here : Surroundings) (arguments : Arguments) (session : Session) (store : Store) :
    Store :=
  (((prepare here arguments).run.run session).run store).2

-- What `findPage` gives, by what a store holds at first and in the end.
def foundIn (here : Surroundings) (arguments : Arguments) (session : Session) (store left : Store) :
    Except Stop (Settings × BuiltPage) := do
  let found ← (result (settingsFor here arguments) session store).mapError settingsStop
  let settings ← (directedTo found <$> resolvedPath here arguments.output).mapError .fault
  let input ← (homePath here arguments.input).mapError .fault
  let page := Builder.loaded store input >>= Builder.builtFrom left settings arguments.title
  return (settings, ← page.mapError (pageStop arguments.action))

variable {here : Surroundings} {arguments : Arguments} {session session' : Session}
  {store store' : Store} {settings : Settings} {page : Page} {built : BuiltPage}

theorem stages_eq (here : Surroundings) (arguments : Arguments) :
    stages here arguments = prepare here arguments >>= fun made =>
      stage .fault (finish here made.1 arguments made.2) := by
  simp only [stages, prepare, findPage, bind_assoc, pure_bind]

theorem leaves_findPage {P : Logger → Prop} {Q : Store → Store → Prop} [IsFrame P Q]
    (here : Surroundings) (arguments : Arguments) (hlogger : P session.logger) (store : Store) :
    Leaves Q (findPage here arguments) session store (foundIn here arguments session store) := by
  unfold findPage
  simp only [redirect_eq_lift, pathOf_eq_lift]
  refine leaves_stage_look (onlyLooks_settingsFor here arguments).alone rfl _ fun found => ?_
  refine leaves_stage_look (OnlyLooks.lift _).alone (result_lift ..) _ fun settings => ?_
  refine leaves_stage_look (OnlyLooks.lift _).alone (result_lift ..) _ fun input => ?_
  have hmade := leaves_makePage (Q := Q) settings input arguments.title hlogger store
  exact (leaves_stage hmade _).map _

-- A page is looked for in the store with the open log.
theorem run_prepare (here : Surroundings) (arguments : Arguments) (session : Session)
    (store : Store) :
    ∃ (session₁ session' : Session) (left : Store),
      ((prepare here arguments).run.run session).run store =
        (((opened here arguments store).mapError Stop.fault >>= fun other =>
          foundIn here arguments session₁ other left, session'), left) ∧
      store.LogsTo (logOf here arguments) left ∧
      ∀ other, opened here arguments store = .ok other →
        session'.logger.WritesTo (logOf here arguments) := by
  obtain ⟨session₁, hconfigure, hlogger⟩ := runOn_configure here session store arguments
  unfold prepare
  cases hopened : opened here arguments store with
  | error fault =>
      rw [hopened] at hconfigure
      exact ⟨session₁, session₁, store, run_bind_error (run_stage .fault hconfigure), .refl store,
        nofun⟩
  | ok other =>
      rw [hopened] at hconfigure
      have hwrites := hlogger other hopened
      obtain ⟨session', left, hkept, hlogs, hfound⟩ :=
        leaves_findPage (Q := Store.LogsTo (logOf here arguments)) here arguments hwrites other
      exact ⟨session₁, session', left, (run_bind_ok (run_stage .fault hconfigure)).trans hfound,
        (logsTo_opened hopened).trans hlogs, fun _ _ => hkept ▸ hwrites⟩

theorem result_prepare (here : Surroundings) (arguments : Arguments) (session : Session)
    (store : Store) :
    ∃ session₁ : Session, result (prepare here arguments) session store =
      (opened here arguments store).mapError .fault >>= fun other =>
        foundIn here arguments session₁ other (prepared here arguments session store) := by
  obtain ⟨session₁, session', left, hrun, -⟩ := run_prepare here arguments session store
  exact ⟨session₁, by rw [result, prepared, hrun]⟩

-- Up to the page, nothing but the log is written.
theorem logsTo_prepared (here : Surroundings) (arguments : Arguments) (session : Session)
    (store : Store) :
    store.LogsTo (logOf here arguments) (prepared here arguments session store) := by
  obtain ⟨_, _, left, hrun, hlogs, -⟩ := run_prepare here arguments session store
  rwa [prepared, hrun]

theorem writesTo_of_prepare {made : Settings × BuiltPage}
    (hrun : ((prepare here arguments).run.run session).run store = ((.ok made, session'), store')) :
    session'.logger.WritesTo (logOf here arguments) := by
  obtain ⟨_, last, left, hprepare, -, hlogger⟩ := run_prepare here arguments session store
  obtain ⟨hboth, -⟩ := Prod.mk.inj (hprepare.symm.trans hrun)
  obtain ⟨hmade, rfl⟩ := Prod.mk.inj hboth
  simp only [bind_eq_ok_iff, mapError_eq_ok_iff] at hmade
  obtain ⟨other, hopened, -⟩ := hmade
  exact hlogger other hopened

-- Neither the session nor an open log decides about the page that is found.
theorem foundIn_eq_ok_iff {other left : Store} (hopened : store.AddsEmptyFiles other) :
    foundIn here arguments session other left = .ok (settings, built) ↔
      ∃ output, resolvedPath here arguments.output = .ok output ∧
        ∃ found page, settings = directedTo found output ∧
          rendered here arguments store = .ok (found, page) ∧
            ∃ html, Builder.laidOut left found (Builder.contentOf arguments.title page) = .ok html ∧
              built = Builder.builtIn settings arguments.title page html := by
  have hsettings : ∀ found, result (settingsFor here arguments) session other = .ok found ↔
      result (settingsFor here arguments) {} store = .ok found := fun found =>
    eq_ok_iff_of_toOption ((onlyLooks_settingsFor here arguments).steady hopened {} session)
  have hloaded : ∀ input ds, Builder.loaded other input = .ok ds ↔
      Builder.loaded store input = .ok ds := fun input ds =>
    eq_ok_iff_of_toOption (Builder.loaded_steady hopened input)
  simp only [foundIn, Builder.builtFrom, rendered_eq_ok_iff, bind_eq_ok_iff, mapError_eq_ok_iff,
    map_eq_ok_iff, pure_eq_ok_iff, Prod.mk.injEq, hsettings, hloaded]
  constructor
  · rintro ⟨found, hfound, _, ⟨output, houtput, rfl⟩, input, hinput, _, ⟨ds, hds, page, hpage, html,
      hhtml, rfl⟩, rfl, rfl⟩
    rw [render_directedTo] at hpage
    exact ⟨output, houtput, found, page, rfl, ⟨hfound, input, hinput, ds, hds, hpage⟩, html, hhtml,
      rfl⟩
  · rintro ⟨output, houtput, found, page, rfl, ⟨hfound, input, hinput, ds, hds, hpage⟩, html, hhtml,
      rfl⟩
    rw [← render_directedTo _ found output] at hpage
    exact ⟨found, hfound, _, ⟨output, houtput, rfl⟩, input, hinput, _, ⟨ds, hds, page, hpage, html,
      hhtml, rfl⟩, rfl, rfl⟩

-- A page is made where the log can be opened, the directory for pages is known, the input makes a
-- page, and the page can be laid out.
theorem prepare_eq_ok_iff :
    result (prepare here arguments) session store = .ok (settings, built) ↔
      (∃ other, opened here arguments store = .ok other) ∧
        ∃ output, resolvedPath here arguments.output = .ok output ∧
          ∃ found page, settings = directedTo found output ∧
            rendered here arguments store = .ok (found, page) ∧
              ∃ html, Builder.laidOut (prepared here arguments session store) found
                  (Builder.contentOf arguments.title page) = .ok html ∧
                built = Builder.builtIn settings arguments.title page html := by
  obtain ⟨session₁, hresult⟩ := result_prepare here arguments session store
  rw [hresult]
  simp only [bind_eq_ok_iff, mapError_eq_ok_iff]
  constructor
  · rintro ⟨other, hopened, hfound⟩
    exact ⟨⟨other, hopened⟩, (foundIn_eq_ok_iff (addsEmptyFiles_opened hopened)).mp hfound⟩
  · rintro ⟨⟨other, hopened⟩, hmade⟩
    exact ⟨other, hopened, (foundIn_eq_ok_iff (addsEmptyFiles_opened hopened)).mpr hmade⟩

theorem prepare_ok_iff : (∃ made, result (prepare here arguments) session store = .ok made) ↔
    (∃ other, opened here arguments store = .ok other) ∧
      (∃ output, resolvedPath here arguments.output = .ok output) ∧
        ∃ found page, rendered here arguments store = .ok (found, page) ∧
          ∃ html, Builder.laidOut (prepared here arguments session store) found
            (Builder.contentOf arguments.title page) = .ok html := by
  constructor
  · rintro ⟨⟨settings, built⟩, hmade⟩
    obtain ⟨hopened, output, houtput, found, page, -, hrendered, html, hhtml, -⟩ :=
      prepare_eq_ok_iff.mp hmade
    exact ⟨hopened, ⟨output, houtput⟩, found, page, hrendered, html, hhtml⟩
  · rintro ⟨hopened, ⟨output, houtput⟩, found, page, hrendered, html, hhtml⟩
    exact ⟨_, prepare_eq_ok_iff.mpr
      ⟨hopened, output, houtput, found, page, rfl, hrendered, html, hhtml, rfl⟩⟩

end Making

end Command

end ApiPages
