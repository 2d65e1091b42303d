import ApiPages.Command.Run
import ApiPages.Proofs.Program.Look

namespace ApiPages

open Outcome Program

namespace Command

-- The path that a text gives.
def homePath (here : Surroundings) (text : String) : Except Fault Path :=
  (Files.expandHome here (Path.ofText text)).mapError .file

-- The absolute path that an option gives, if it is given.
def resolvedPath (here : Surroundings) (value : Option String) : Except Fault (Option Path) :=
  (given value).mapM fun text => do return Path.resolve here.current (← homePath here text)

-- The settings with another directory for pages, if there is one.
def directedTo (settings : Settings) (output : Option Path) : Settings :=
  { settings with outputDir := output.getD settings.outputDir }

section Paths

variable (here : Surroundings)

theorem pathOf_eq_lift (text : String) :
    pathOf (m := StateM Store) here text = liftM (homePath here text) := by
  unfold pathOf homePath
  cases Files.expandHome here (Path.ofText text) <;> rfl

variable {value : Option String}

theorem resolvedPath_none (h : given value = none) : resolvedPath here value = .ok none := by
  rw [resolvedPath, h]
  rfl

theorem resolvedPath_some {text : String} (h : given value = some text) :
    resolvedPath here value = (some ∘ Path.resolve here.current) <$> homePath here text := by
  rw [resolvedPath, h, Option.mapM_some]
  cases homePath here text <;> rfl

theorem redirect_eq_lift (settings : Settings) :
    redirect (m := StateM Store) here value settings =
      liftM (directedTo settings <$> resolvedPath here value) := by
  unfold redirect
  cases hgiven : given value with
  | none =>
      rw [resolvedPath_none here hgiven]
      rfl
  | some text =>
      rw [resolvedPath_some here hgiven]
      change (pathOf here text >>= _) = _
      rw [pathOf_eq_lift]
      cases homePath here text <;> rfl

end Paths

-- The log that is asked for, if its path can be told.
def logOf (here : Surroundings) (arguments : Arguments) : Option Path :=
  (resolvedPath here arguments.logFile).toOption.join

-- The store with an open log, if one is asked for.
def withLog (store : Store) : Option Path → Except Fault Store
  | none => .ok store
  | some path => (store.changeFile path id).mapError .file

def opened (here : Surroundings) (arguments : Arguments) (store : Store) : Except Fault Store := do
  withLog store (← resolvedPath here arguments.logFile)

section Opening

variable {here : Surroundings} {arguments : Arguments} {store other : Store}

theorem opened_of_resolvedPath {log : Option Path}
    (h : resolvedPath here arguments.logFile = .ok log) :
    opened here arguments store = withLog store log := by
  rw [opened, h]
  rfl

theorem logOf_of_resolvedPath {log : Option Path}
    (h : resolvedPath here arguments.logFile = .ok log) :
    logOf here arguments = log := by
  rw [logOf, h]
  rfl

theorem opened_cases (h : opened here arguments store = .ok other) :
    other = store ∨
      ∃ path, logOf here arguments = some path ∧ store.changeFile path id = .ok other := by
  have hopened := h
  simp only [opened, bind_eq_ok_iff] at h
  obtain ⟨log, hlog, -⟩ := h
  rw [opened_of_resolvedPath hlog] at hopened
  rw [logOf_of_resolvedPath hlog]
  cases log with
  | none =>
      cases hopened
      exact .inl rfl
  | some path => exact .inr ⟨path, rfl, mapError_eq_ok_iff.mp hopened⟩

theorem addsEmptyFiles_opened (h : opened here arguments store = .ok other) :
    store.AddsEmptyFiles other := by
  obtain rfl | ⟨path, -, hopen⟩ := opened_cases h
  · exact .refl _
  · exact .of_open hopen

theorem logsTo_opened (h : opened here arguments store = .ok other) :
    store.LogsTo (logOf here arguments) other := by
  obtain rfl | ⟨path, hlog, hopen⟩ := opened_cases h
  · exact .refl _
  · refine .of_change hopen (fun content => ⟨"", content.append_empty.symm⟩) ?_
    rw [hlog]
    exact List.mem_singleton_self _

end Opening

section Configuring

-- The logger of a command with a log or without one.
def loggerFor (verbose : Bool) (log : Option Path) : Logger :=
  let level := Logger.levelFor verbose
  let console : Handler := { level, target := .console }
  { level, passesOn := false,
    handlers := console :: log.toList.map fun path => { level, target := .file path } }

theorem writesTo_loggerFor (verbose : Bool) (log : Option Path) :
    (loggerFor verbose log).WritesTo log := by
  intro handler hhandler
  obtain rfl | hfile := List.mem_cons.mp hhandler
  · exact .inl rfl
  · obtain ⟨path, hpath, rfl⟩ := List.mem_map.mp hfile
    exact .inr ⟨path, Option.mem_toList.mp hpath, rfl⟩

theorem foldl_erase_self (handlers : List Handler) : handlers.foldl List.erase handlers = [] := by
  induction handlers with
  | nil => rfl
  | cons handler rest ih => rw [List.foldl_cons, List.erase_cons_head, ih]

-- Nothing is left of the logger that there was before.
theorem reset_configured (logger : Logger) (verbose : Bool) :
    { logger.reset with
      level := Logger.levelFor verbose
      passesOn := false
      handlers := logger.reset.handlers ++ [{ level := Logger.levelFor verbose, target := .console }] }
      = loggerFor verbose none := by
  rw [Logger.reset, foldl_erase_self]
  rfl

variable (here : Surroundings) (session : Session) (store : Store)

theorem runOn_console (verbose : Bool) :
    (Logger.configure here verbose none).runOn session store =
      ((.ok (), { session with logger := loggerFor verbose none }), store) := by
  rw [← reset_configured session.logger verbose]
  rfl

theorem runOn_logger (verbose : Bool) (path : Path) :
    (Logger.configure here verbose (some path)).runOn session store =
      match store.changeFile (Path.resolve here.current path) id with
      | .ok other => ((.ok (), { session with
          logger := loggerFor verbose (some (Path.resolve here.current path)) }), other)
      | .error error =>
        ((.error (.file error), { session with logger := loggerFor verbose none }), store) := by
  have hopen := runOn_update (Store.changeFile · (Path.resolve here.current path) id)
    { session with logger := loggerFor verbose none } store
  unfold Logger.configure
  rw [← reset_configured session.logger verbose] at hopen ⊢
  refine (runOn_bind_ok (a := ()) rfl).trans ((runOn_bind_ok (a := ()) rfl).trans ?_)
  cases hchange : store.changeFile (Path.resolve here.current path) id with
  | error error =>
      rw [hchange] at hopen
      exact runOn_bind_error hopen
  | ok other =>
      rw [hchange] at hopen
      refine (runOn_bind_ok hopen).trans ?_
      rw [reset_configured]
      rfl

theorem runOn_configure (arguments : Arguments) :
    ∃ session₁ : Session,
      (configure here arguments).runOn session store =
        (match opened here arguments store with
        | .ok other => ((.ok (), session₁), other)
        | .error fault => ((.error fault, session₁), store)) ∧
      ∀ other, opened here arguments store = .ok other →
        session₁.logger.WritesTo (logOf here arguments) := by
  cases hgiven : given arguments.logFile with
  | none =>
      have hlog := resolvedPath_none here hgiven
      rw [configure, hgiven, opened_of_resolvedPath hlog, logOf_of_resolvedPath hlog]
      exact ⟨_, runOn_console here session store arguments.verbose,
        fun _ _ => writesTo_loggerFor arguments.verbose none⟩
  | some text =>
      have hlog := resolvedPath_some here hgiven
      have hmap : (some text).mapM (pathOf (m := StateM Store) here) =
          some <$> liftM (homePath here text) := by
        rw [← pathOf_eq_lift]
        rfl
      rw [configure, hgiven, hmap]
      cases hpath : homePath here text with
      | error fault =>
          have hopened : opened here arguments store = .error fault := by
            rw [opened, hlog, hpath]
            rfl
          rw [hopened]
          exact ⟨session, rfl, fun other hother => nomatch hother⟩
      | ok path =>
          have hlog : resolvedPath here arguments.logFile =
              .ok (some (Path.resolve here.current path)) := by
            rw [hlog, hpath]
            rfl
          have hlogger := runOn_logger here session store arguments.verbose path
          rw [opened_of_resolvedPath hlog, logOf_of_resolvedPath hlog, withLog]
          cases hchange : store.changeFile (Path.resolve here.current path) id with
          | error error =>
              rw [hchange] at hlogger
              exact ⟨_, hlogger, fun other hother => nomatch hother⟩
          | ok other =>
              rw [hchange] at hlogger
              exact ⟨_, hlogger, fun _ _ => writesTo_loggerFor _ _⟩

end Configuring

end Command

end ApiPages
