import ApiPages.Builder
import ApiPages.Proofs.Builder.Result
import ApiPages.Proofs.Program.Frame

namespace ApiPages

-- No message goes to a file.
def Logger.IsConsoleOnly (logger : Logger) : Prop :=
  ∀ handler ∈ logger.handlers, handler.target = .console

namespace Program

variable {α β : Type}

-- An action that adds directories at most. It may write on the console but keeps the logger.
def SparesFiles (action : StateT Session (StateM Store) α) : Prop :=
  ∀ session store, session.logger.IsConsoleOnly →
    ((action.run session).run store).1.2.logger = session.logger ∧
      store.Grows ((action.run session).run store).2

instance : IsFrame Logger.IsConsoleOnly Store.Grows where
  record hlogger handler hhandler path htarget := by
    rw [hlogger handler hhandler] at htarget
    cases htarget

namespace SparesFiles

variable {program : Program (StateM Store) α} {rest : α → Program (StateM Store) β}

theorem runOn {session session' : Session} {store store' : Store} {outcome : Except Fault α}
    (h : SparesFiles program.run) (hlogger : session.logger.IsConsoleOnly)
    (hrun : program.runOn session store = ((outcome, session'), store')) :
    session'.logger = session.logger ∧ store.Grows store' :=
  Moves.runOn (P := Logger.IsConsoleOnly) (Q := Store.Grows) h hlogger hrun

theorem followedBy (h : SparesFiles program.run) (hrest : ∀ a, SparesFiles (rest a).run) :
    SparesFiles (program >>= rest).run :=
  Moves.followedBy (P := Logger.IsConsoleOnly) (Q := Store.Grows) h hrest

end SparesFiles

end Program

namespace Builder

open Program

section Frames

variable {P : Logger → Prop} {Q : Store → Store → Prop} [IsFrame P Q]

theorem moves_say (part : Option String) (level : Level) (message : String) :
    Moves P Q (say (m := StateM Store) part level message).run :=
  (Moves.log part level message).act

-- A message cannot fail.
theorem exists_runOn_say (part : Option String) (level : Level) (message : String)
    {session : Session} (hlogger : P session.logger) (store : Store) :
    ∃ session' store', runOn (say part level message) session store = ((.ok (), session'), store') ∧
      session'.logger = session.logger ∧ Q store store' :=
  ⟨_, _, rfl, (moves_say (Q := Q) part level message).runOn hlogger rfl⟩

theorem moves_load (path : Path) : Moves P Q (load (m := StateM Store) path).run := by
  unfold load
  refine (Moves.readText path).ask.followedBy fun text => ?_
  split
  · exact .fault _
  · refine (Moves.outcome _).followedBy fun ds => ?_
    exact (moves_say _ _ _).followedBy fun _ => .value ds

theorem moves_sayNotices (ctx : Context) (ds : List Declaration) :
    Moves P Q (sayNotices (m := StateM Store) ctx ds).run := by
  refine Moves.look fun session => ?_
  split
  · exact Moves.each fun message => moves_say _ _ message
  · exact .value _

section Pages

variable [Markdown.Extensions]

theorem moves_draw (settings : Settings) (title : String) (ds : List Declaration) :
    Moves P Q (draw settings title ds).run := by
  refine (moves_say _ _ _).followedBy fun _ => ?_
  refine (Moves.outcome _).followedBy fun ctx => ?_
  exact (moves_sayNotices ctx ds).followedBy fun _ => Moves.outcome _

variable [Layout.TemplateLanguage]

theorem moves_buildPage (settings : Settings) (title : String) (ds : List Declaration) :
    Moves P Q (buildPage (m := StateM Store) settings title ds).run := by
  rw [buildPage_eq]
  refine (moves_draw settings title ds).followedBy fun page => ?_
  rw [← bind_pure_comp]
  exact (leavesAlone_fill settings _).moves.followedBy fun html => .value _

-- A page is laid out in the templates that are there when it comes to that, and that are left.
theorem leaves_buildPage (settings : Settings) (title : String) (ds : List Declaration)
    {session : Session} (hlogger : P session.logger) (store : Store) :
    Leaves Q (buildPage settings title ds) session store fun left =>
      builtFrom left settings title ds := by
  have hdrawn := Leaves.of_moves (moves_draw (Q := Q) settings title ds) hlogger
    (gives_draw settings title ds session store)
  rw [buildPage_eq]
  refine hdrawn.bind fun page session' between _ => ?_
  have hfilled : Leaves Q (fill settings (Layout.render (contentOf title page))) session' between
      (result (fill settings (Layout.render (contentOf title page))) session') :=
    .of_alone (leavesAlone_fill settings _)
  simp only [funext (result_fill settings _ session')] at hfilled
  exact hfilled.map _

end Pages

theorem leaves_load (path : Path) {session : Session} (hlogger : P session.logger) (store : Store) :
    Leaves Q (load path) session store fun _ => loaded store path :=
  .of_moves (moves_load path) hlogger (result_load path session store)

end Frames

theorem sparesFiles_load (path : Path) : SparesFiles (load (m := StateM Store) path).run :=
  moves_load (P := Logger.IsConsoleOnly) (Q := Store.Grows) path

theorem sparesFiles_buildPage [Markdown.Extensions] [Layout.TemplateLanguage] (settings : Settings)
    (title : String) (ds : List Declaration) :
    SparesFiles (buildPage (m := StateM Store) settings title ds).run :=
  moves_buildPage (P := Logger.IsConsoleOnly) (Q := Store.Grows) settings title ds

theorem ensures_buildPage [Markdown.Extensions] [Layout.TemplateLanguage] (settings : Settings)
    (title : String) (ds : List Declaration) :
    Ensures (buildPage (m := StateM Store) settings title ds) fun built =>
      built.title = title ∧ built.path = pathFor settings (Anchor.ofPage title) :=
  .after fun _ => .after fun _ => .after fun _ => .after fun _ => .after fun _ => .value ⟨rfl, rfl⟩

theorem runOn_writeText (path : Path) (text : String) (session : Session) (store : Store) :
    runOn (Files.ask (m := StateT Session (StateM Store)) (FileAccess.writeText path text)) session
      store = match store.changeFile path fun _ => text with
        | .ok changed => ((.ok (), session), changed)
        | .error error => ((.error (.file error), session), store) :=
  runOn_update (Store.changeFile · path fun _ => text) session store

-- What writing a page comes to. A failure adds directories at most; a success then writes the text and
-- takes it down.
inductive WriteOutcome (builder : Builder) (built : BuiltPage) (store : Store) :
    Except Fault Builder → Store → Prop
  | failed {fault : Fault} {grown : Store} (hgrows : store.Grows grown) :
      WriteOutcome builder built store (.error fault) grown
  | written {grown changed after : Store} (hgrows : store.Grows grown)
      (hwrite : grown.changeFile built.path (fun _ => built.html) = .ok changed)
      (hafter : changed.Grows after) :
      WriteOutcome builder built store
        (.ok { builder with assets := setAsset built.path built.html builder.assets }) after

-- Writing a page adds the directories that it lies in and then changes its file. The record of it comes
-- last.
theorem write_cases {P : Logger → Prop} {Q : Store → Store → Prop} [IsFrame P Q] (builder : Builder)
    (built : BuiltPage) {session session' : Session} {store store' : Store}
    {outcome : Except Fault Builder} (hlogger : P session.logger)
    (hrun : (builder.write built).runOn session store = ((outcome, session'), store')) :
    session'.logger = session.logger ∧
      ((∃ fault, outcome = .error fault ∧ store.Grows store') ∨
        ∃ grown changed, store.Grows grown ∧
          grown.changeFile built.path (fun _ => built.html) = .ok changed ∧ Q changed store' ∧
          outcome = .ok { builder with
            assets := setAsset built.path built.html builder.assets }) := by
  unfold write at hrun
  rcases hmade : runOn (Files.ask (Files.ensureDirectory (m := StateT Session (StateM Store))
      built.path.parent)) session store with ⟨⟨made, session₁⟩, grown⟩
  have hensured := Moves.makeDirectories (P := P) built.path.parent.names built.path.parent
  obtain ⟨hkept, hgrows⟩ := hensured.ask.runOn hlogger hmade
  cases made with
  | error fault =>
      rw [runOn_bind_error hmade] at hrun
      cases hrun
      exact ⟨hkept, .inl ⟨fault, rfl, hgrows⟩⟩
  | ok _ =>
      rw [runOn_bind_ok hmade] at hrun
      have hwritten := runOn_writeText built.path built.html session₁ grown
      cases hwrite : grown.changeFile built.path fun _ => built.html with
      | error error =>
          rw [hwrite] at hwritten
          rw [runOn_bind_error hwritten] at hrun
          cases hrun
          exact ⟨hkept, .inl ⟨_, rfl, hgrows⟩⟩
      | ok changed =>
          rw [hwrite] at hwritten
          rw [runOn_bind_ok hwritten] at hrun
          obtain ⟨session₂, after, hsaid, hlast, hafter⟩ := exists_runOn_say (Q := Q) part .debug
            ("Wrote " ++ built.path.text ++ " (" ++ toString built.sectionCount ++ " sections)")
            (hkept ▸ hlogger) changed
          rw [runOn_bind_ok hsaid] at hrun
          cases hrun
          exact ⟨hlast.trans hkept, .inr ⟨grown, changed, hgrows, hwrite, hafter, rfl⟩⟩

theorem write_outcome (builder : Builder) (built : BuiltPage) {session session' : Session}
    {store store' : Store} {outcome : Except Fault Builder}
    (hlogger : session.logger.IsConsoleOnly)
    (hrun : (builder.write built).runOn session store = ((outcome, session'), store')) :
    session'.logger = session.logger ∧ WriteOutcome builder built store outcome store' := by
  obtain ⟨hkept, hcases⟩ := write_cases (Q := Store.Grows) builder built hlogger hrun
  refine ⟨hkept, ?_⟩
  obtain ⟨fault, rfl, hgrows⟩ | ⟨grown, changed, hgrows, hwrite, hafter, rfl⟩ := hcases
  · exact .failed hgrows
  · exact .written hgrows hwrite hafter

end Builder

end ApiPages
