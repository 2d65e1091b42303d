import ApiPages.Proofs.Command.Log
import ApiPages.Proofs.Logger.Hierarchy

namespace ApiPages

open Outcome Program

-- What can be done about messages.
inductive LogStep where
  | configure (verbose : Bool) (file : Option Path)
  | log (part : Option String) (level : Level) (message : String)

-- A message when it is logged: with the latest configuration, and whether its logger is below the
-- root by then.
structure Record where
  verbose : Bool
  log : Option Path
  isBelow : Bool
  part : Option String
  level : Level
  message : String

namespace Record

variable (r : Record)

def isShown : Bool := r.isBelow && (Logger.levelFor r.verbose).rank ≤ r.level.rank

-- What a record puts on the console. One that is not handed on to the root is written as it is if it
-- is a warning at least.
def consoleText? : Option String :=
  if r.isShown then some (Logger.consoleLine (Logger.nameOf r.part) r.level r.message)
  else if !r.isBelow && Level.warning.rank ≤ r.level.rank then some (r.message ++ "\n")
  else none

-- What a record puts into the file at a place, seen from a directory.
def fileText? (current place : List String) : Option String :=
  if r.isShown && place ∈ Store.placesOf current r.log then
    some (Logger.fileLine (Logger.nameOf r.part) r.level r.message)
  else none

end Record

namespace LogStep

-- What is written on the console and into the files, one text for each record that is written there.
def consoleText (records : List Record) : String :=
  String.join (records.filterMap (·.consoleText?))

def fileText (current : List String) (records : List Record) (place : List String) : String :=
  String.join (records.filterMap (·.fileText? current place))

variable (here : Surroundings)

def program : LogStep → Program (StateM Store) Unit
  | configure verbose file => Logger.configure here verbose file
  | log part level message => ExceptT.lift (Logger.log part level message)

-- The log that a configuration names.
def logFor (file : Option Path) : Option Path := file.map (Path.resolve here.current)

-- The log of the latest configuration, after the one that came before.
def latestLog (log : Option Path) : List LogStep → Option Path
  | [] => log
  | configure _ file :: rest => latestLog (logFor here file) rest
  | .log .. :: rest => latestLog log rest

-- The places of a log and of those that are named later.
def logPlaces (current : List String) (log : Option Path) : List LogStep → Set (List String)
  | [] => {place | place ∈ Store.placesOf current log}
  | configure _ file :: rest =>
    {place | place ∈ Store.placesOf current log} ∪ logPlaces current (logFor here file) rest
  | .log .. :: rest => logPlaces current log rest

-- The records of some steps, under a configuration and after the loggers so far.
def records (verbose : Bool) (log : Option Path) (names : List String) : List LogStep → List Record
  | [] => []
  | configure verbose file :: rest => records verbose (logFor here file) names rest
  | .log part level message :: rest =>
    let names := names.insert (Logger.nameOf part)
    { verbose, log, isBelow := Logger.isBelow names (Logger.nameOf part), part, level, message } ::
      records verbose log names rest

end LogStep

namespace Logger

open Command

-- The session and the store that an action leaves behind.
def after (action : StateT Session (StateM Store) Unit) (session : Session) (store : Store) :
    Session × Store :=
  (((action.run session).run store).1.2, ((action.run session).run store).2)

variable {session : Session} {store other : Store} {verbose : Bool} {log : Option Path}
  {path : Path} {name : String} {level : Level} {message : String}

theorem after_bind (first : StateT Session (StateM Store) Unit)
    (next : Unit → StateT Session (StateM Store) Unit) :
    after (first >>= next) session store =
      after (next ()) (after first session store).1 (after first session store).2 := rfl

theorem after_addRecord (h : store.changeFile path (·.append message) = .ok other) :
    after (FileAccess.addRecord path message) session store = (session, other) := by
  have hupdate := run_update (Store.changeFile · path (·.append message)) session store
  rw [h] at hupdate
  exact congrArg (fun out => (out.1.2, out.2)) hupdate

theorem after_handle_console (least : Level) (h : least.rank ≤ level.rank) :
    after (handle name level message { level := least, target := .console }) session store =
      ({ session with console := session.console ++ consoleLine name level message }, store) := by
  rw [handle, if_pos h]
  rfl

theorem after_handle_file (least : Level) (h : least.rank ≤ level.rank)
    (hchange : store.changeFile path (·.append (fileLine name level message)) = .ok other) :
    after (handle name level message { level := least, target := .file path }) session store =
      (session, other) := by
  rw [handle, if_pos h]
  exact after_addRecord hchange

theorem after_send_hidden (h : level.rank < (levelFor verbose).rank) :
    after ((loggerFor verbose log).send name level message) session store = (session, store) := by
  rw [send, loggerFor, if_pos h]
  rfl

theorem after_send_console (h : ¬ level.rank < (levelFor verbose).rank) :
    after ((loggerFor verbose none).send name level message) session store =
      ({ session with console := session.console ++ consoleLine name level message }, store) := by
  have hlevel : (levelFor verbose).rank ≤ level.rank := Int.not_lt.mp h
  rw [send, loggerFor, if_neg h]
  exact after_handle_console _ hlevel

theorem after_send_file (h : ¬ level.rank < (levelFor verbose).rank)
    (hchange : store.changeFile path (·.append (fileLine name level message)) = .ok other) :
    after ((loggerFor verbose (some path)).send name level message) session store =
      ({ session with console := session.console ++ consoleLine name level message }, other) := by
  have hlevel : (levelFor verbose).rank ≤ level.rank := Int.not_lt.mp h
  rw [send, loggerFor, if_neg h]
  change after (handle name level message _ >>= fun _ => handle name level message _ >>= pure)
    session store = _
  rw [after_bind, after_handle_console _ hlevel, after_bind, after_handle_file _ hlevel hchange]
  rfl

section Sent

variable (r : Record)

-- There are files in the places of open logs.
theorem addsTexts_nothing (hopen : ∀ path ∈ log, ∃ content, store.Holds path content) :
    Store.AddsTexts {place | place ∈ Store.placesOf store.current log} (fun _ => "") store store := by
  refine .nothing fun place hplace => ?_
  obtain ⟨path, hpath, rfl⟩ := List.mem_map.mp hplace
  obtain ⟨content, hholds⟩ := hopen path (Option.mem_toList.mp hpath)
  exact ⟨content, hholds.entry_eq⟩

theorem after_send_below (hbelow : r.isBelow = true)
    (hopen : ∀ path ∈ r.log, ∃ content, store.Holds path content) :
    ∃ other, after ((loggerFor r.verbose r.log).send (nameOf r.part) r.level r.message)
        session store =
          ({ session with console := session.console ++ r.consoleText?.getD "" }, other) ∧
      Store.AddsTexts {place | place ∈ Store.placesOf store.current r.log}
        (fun place => (r.fileText? store.current place).getD "") store other := by
  by_cases hlevel : r.level.rank < (levelFor r.verbose).rank
  · have hshown : r.isShown = false := by simp [Record.isShown, hlevel]
    have hconsole : r.consoleText? = none := by simp [Record.consoleText?, hshown, hbelow]
    have hfile : ∀ place, r.fileText? store.current place = none := fun place => by
      simp [Record.fileText?, hshown]
    refine ⟨store, ?_, ?_⟩
    · rw [after_send_hidden hlevel, hconsole, Option.getD_none, String.append_empty]
    · simpa only [hfile, Option.getD_none] using addsTexts_nothing hopen
  · have hshown : r.isShown = true := by simp [Record.isShown, hbelow, Int.not_lt.mp hlevel]
    have hconsole : r.consoleText? = some (consoleLine (nameOf r.part) r.level r.message) := by
      rw [Record.consoleText?, if_pos hshown]
    rw [hconsole, Option.getD_some]
    cases hlog : r.log with
    | none =>
        have hfile : ∀ place, r.fileText? store.current place = none := fun place => by
          simp [Record.fileText?, hlog, Store.placesOf]
        rw [hlog] at hopen
        refine ⟨store, after_send_console hlevel, ?_⟩
        simpa only [hfile, Option.getD_none] using addsTexts_nothing hopen
    | some path =>
        obtain ⟨content, hholds⟩ := hopen path hlog
        obtain ⟨other, hchange⟩ := hholds.exists_change
          (·.append (fileLine (nameOf r.part) r.level r.message))
        refine ⟨other, after_send_file hlevel hchange, ?_⟩
        have hplaces : Store.placesOf store.current (some path) = [path.place store.current] := rfl
        have hfile : (fun place => (r.fileText? store.current place).getD "") = fun place =>
            if place = path.place store.current then fileLine (nameOf r.part) r.level r.message
            else "" := by
          funext place
          rw [Record.fileText?, hlog, hshown, hplaces]
          by_cases hplace : place = path.place store.current <;> simp [hplace]
        rw [hfile, hplaces]
        simpa using Store.AddsTexts.of_append hchange

-- A logger that is not below the root has no handlers.
theorem after_send_elsewhere (hbelow : r.isBelow = false) :
    after (({} : Logger).send (nameOf r.part) r.level r.message) session store =
      ({ session with console := session.console ++ r.consoleText?.getD "" }, store) := by
  have hshown : r.isShown = false := by simp [Record.isShown, hbelow]
  by_cases hlevel : r.level.rank < Level.warning.rank
  · have hconsole : r.consoleText? = none := by
      simp [Record.consoleText?, hshown, hlevel]
    rw [send, if_pos hlevel, hconsole, Option.getD_none, String.append_empty]
    rfl
  · have hconsole : r.consoleText? = some (r.message ++ "\n") := by
      simp [Record.consoleText?, hshown, hbelow, Int.not_lt.mp hlevel]
    rw [send, if_neg hlevel, hconsole, Option.getD_some, ← String.append_assoc]
    rfl

end Sent

end Logger

namespace LogStep

section Texts

variable (first rest : List Record) (r : Record) (current place : List String)

theorem consoleText_append :
    consoleText (first ++ rest) = consoleText first ++ consoleText rest := by
  rw [consoleText, List.filterMap_append, String.join_append, consoleText, consoleText]

theorem fileText_append :
    fileText current (first ++ rest) place =
      fileText current first place ++ fileText current rest place := by
  rw [fileText, List.filterMap_append, String.join_append, fileText, fileText]

theorem consoleText_singleton : consoleText [r] = r.consoleText?.getD "" := by
  cases h : r.consoleText? <;> simp [consoleText, h]

theorem fileText_singleton :
    fileText current [r] place = (r.fileText? current place).getD "" := by
  cases h : r.fileText? current place <;> simp [fileText, h]

end Texts

-- A configuration is in force, and its log is open.
structure Configured (verbose : Bool) (log : Option Path) (session : Session) (store : Store) :
    Prop where
  logger : session.logger = Command.loggerFor verbose log
  opened : ∀ path ∈ log, ∃ content, store.Holds path content

-- What is new after some steps: the lines of their records, on the console and at the ends of the
-- files at some places.
structure Puts (records : List Record) (places : Set (List String)) (session session' : Session)
    (store store' : Store) : Prop where
  console : session'.console = session.console ++ consoleText records
  files : Store.AddsTexts places (fileText store.current records) store store'

variable {here : Surroundings} {verbose : Bool} {file log : Option Path} {part : Option String}
  {level : Level} {message : String} {session session' last : Session} {store store' final : Store}

theorem Puts.trans {records more : List Record} {places others : Set (List String)}
    (h : Puts records places session session' store store')
    (hmore : Puts more others session' last store' final) :
    Puts (records ++ more) (places ∪ others) session last store final where
  console := by rw [hmore.console, h.console, consoleText_append, String.append_assoc]
  files := by
    have hfiles := hmore.files
    rw [h.files.current] at hfiles
    have htexts : fileText store.current (records ++ more) = fun place =>
        fileText store.current records place ++ fileText store.current more place :=
      funext fun place => fileText_append ..
    rw [htexts]
    exact h.files.trans hfiles

theorem Configured.puts_nothing (h : Configured verbose log session store) :
    Puts [] {place | place ∈ Store.placesOf store.current log} session session store store where
  console := String.append_empty.symm
  files := Logger.addsTexts_nothing h.opened

theorem puts_configure
    (hrun : (program here (.configure verbose file)).runOn session store =
      ((.ok (), session'), store')) :
    Configured verbose (logFor here file) session' store' ∧ session'.names = session.names ∧
      Puts [] {place | place ∈ Store.placesOf store.current (logFor here file)}
        session session' store store' := by
  cases file with
  | none =>
      rw [program, Command.runOn_console] at hrun
      cases hrun
      have hconfigured : Configured verbose none
          { session with logger := Command.loggerFor verbose none } store :=
        ⟨rfl, fun path hpath => nomatch hpath⟩
      exact ⟨hconfigured, rfl, hconfigured.puts_nothing.console, hconfigured.puts_nothing.files⟩
  | some path =>
      have hlogger := Command.runOn_logger here session store verbose path
      rw [program, hlogger] at hrun
      split at hrun
      · rename_i other hopen
        cases hrun
        refine ⟨⟨rfl, fun opened hopened => ?_⟩, rfl, String.append_empty.symm, ?_⟩
        · obtain rfl : Path.resolve here.current path = opened := Option.some.inj hopened
          exact (Store.holds_of_change hopen).imp fun old hold => hold
        · have hplaces : {place | place ∈ Store.placesOf store.current (logFor here (some path))} =
              {(Path.resolve here.current path).place store.current} := by
            ext place
            simp [Store.placesOf, logFor]
          rw [hplaces]
          exact .of_open hopen
      · cases hrun

-- A record adds its own line, if any, and leaves the configuration in force as it is.
theorem puts_log (here : Surroundings) (part : Option String) (level : Level) (message : String)
    (h : Configured verbose log session store) :
    let names := session.names.insert (Logger.nameOf part)
    let r : Record :=
      { verbose, log, isBelow := Logger.isBelow names (Logger.nameOf part), part, level, message }
    ∃ session' store',
      (program here (.log part level message)).runOn session store = ((.ok (), session'), store') ∧
        Configured verbose log session' store' ∧ session'.names = names ∧
        Puts [r] {place | place ∈ Store.placesOf store.current log} session session' store store' := by
  intro names r
  have hopen := h.opened
  obtain ⟨other, hafter, hfiles⟩ : ∃ other,
      Logger.after (Logger.log part level message) session store =
        ({ session with names, console := session.console ++ r.consoleText?.getD "" }, other) ∧
      Store.AddsTexts {place | place ∈ Store.placesOf store.current log}
        (fun place => (r.fileText? store.current place).getD "") store other := by
    have hlog : Logger.after (Logger.log part level message) session store =
        Logger.after ((if r.isBelow then session.logger else {}).send
          (Logger.nameOf part) level message) { session with names } store := rfl
    rw [hlog]
    cases hbelow : r.isBelow with
    | true =>
        rw [if_pos rfl, h.logger]
        exact Logger.after_send_below r hbelow hopen
    | false =>
        have hfile : ∀ place, r.fileText? store.current place = none := fun place => by
          simp [Record.fileText?, Record.isShown, hbelow]
        refine ⟨store, Logger.after_send_elsewhere r hbelow, ?_⟩
        simpa only [hfile, Option.getD_none] using Logger.addsTexts_nothing hopen
  have hrun : (program here (.log part level message)).runOn session store =
      ((.ok (), (Logger.after (Logger.log part level message) session store).1),
        (Logger.after (Logger.log part level message) session store).2) := rfl
  rw [hafter] at hrun
  refine ⟨_, _, hrun, ⟨h.logger, fun path hpath => ?_⟩, rfl, ⟨?_, ?_⟩⟩
  · obtain ⟨content, hholds⟩ := hopen path hpath
    exact hfiles.holds hholds
  · rw [consoleText_singleton]
  · rwa [show fileText store.current [r] = fun place => (r.fileText? store.current place).getD ""
      from funext fun place => fileText_singleton ..]

variable {step : LogStep} {steps : List LogStep}

-- A run that succeeds begins with a step that does.
theorem exists_first_step
    (hrun : Program.runOn ((step :: steps).forM (program here)) session store =
      ((.ok (), session'), store')) :
    ∃ session₁ store₁,
      (program here step).runOn session store = ((.ok (), session₁), store₁) ∧
        Program.runOn (steps.forM (program here)) session₁ store₁ =
          ((.ok (), session'), store') := by
  change (program here step >>= fun _ => steps.forM (program here)).runOn session store = _ at hrun
  rcases hstep : (program here step).runOn session store with ⟨⟨outcome, session₁⟩, store₁⟩
  cases outcome with
  | error fault =>
      rw [runOn_bind_error hstep] at hrun
      cases hrun
  | ok =>
      rw [runOn_bind_ok hstep] at hrun
      exact ⟨session₁, store₁, rfl, hrun⟩

theorem placesOf_subset_logPlaces (current : List String) (log : Option Path)
    (steps : List LogStep) :
    {place | place ∈ Store.placesOf current log} ⊆ logPlaces here current log steps := by
  induction steps with
  | nil => exact subset_rfl
  | cons step rest ih =>
      cases step with
      | configure verbose file => exact Set.subset_union_left
      | log part level message => exact ih

-- The configuration in force changes with the steps, and each step adds what is its own.
theorem puts_steps (h : Configured verbose log session store)
    (hrun : Program.runOn (steps.forM (program here)) session store =
      ((.ok (), session'), store')) :
    (∃ verbose, Configured verbose (latestLog here log steps) session' store') ∧
      Puts (records here verbose log session.names steps)
        (logPlaces here store.current log steps) session session' store store' := by
  induction steps generalizing verbose log session store with
  | nil =>
      cases hrun
      exact ⟨⟨verbose, h⟩, h.puts_nothing⟩
  | cons step rest ih =>
      obtain ⟨session₁, store₁, hstep, hrest⟩ := exists_first_step hrun
      cases step with
      | configure verbose' file =>
          obtain ⟨hconfigured, hnames, hputs⟩ := puts_configure hstep
          obtain ⟨hlatest, hmore⟩ := ih hconfigured hrest
          rw [hnames, hputs.files.current] at hmore
          have hfirst := hputs.trans hmore
          rw [List.nil_append, Set.union_eq_right.mpr (placesOf_subset_logPlaces ..)] at hfirst
          exact ⟨hlatest, h.puts_nothing.trans hfirst⟩
      | log part level message =>
          obtain ⟨session₂, store₂, hlog, hconfigured, hnames, hputs⟩ :=
            puts_log here part level message h
          obtain ⟨rfl, rfl⟩ : session₂ = session₁ ∧ store₂ = store₁ := by
            simpa using hlog.symm.trans hstep
          obtain ⟨hlatest, hmore⟩ := ih hconfigured hrest
          rw [hnames, hputs.files.current] at hmore
          have hboth := hputs.trans hmore
          rw [Set.union_eq_right.mpr (placesOf_subset_logPlaces ..)] at hboth
          exact ⟨hlatest, hboth⟩

-- A record is placed by the loggers there are by then, its own among them.
theorem exists_names_of_mem {names : List String} {r : Record}
    (h : r ∈ records here verbose log names steps) :
    ∃ later, r.isBelow = Logger.isBelow later (Logger.nameOf r.part) ∧
      (Logger.rootName ++ "." ∉ names → Logger.rootName ++ "." ∉ later) := by
  induction steps generalizing verbose log names with
  | nil => cases h
  | cons step rest ih =>
      cases step with
      | configure verbose file => exact ih h
      | log part level message =>
          have hinsert : Logger.rootName ++ "." ∉ names →
              Logger.rootName ++ "." ∉ names.insert (Logger.nameOf part) := by
            intro hnames hmem
            rcases List.mem_insert_iff.mp hmem with hname | hmem
            · exact Logger.nameOf_ne_dot part hname.symm
            · exact hnames hmem
          rcases List.mem_cons.mp h with rfl | hrest
          · exact ⟨_, rfl, hinsert⟩
          · obtain ⟨later, hbelow, hlater⟩ := ih hrest
            exact ⟨later, hbelow, hlater ∘ hinsert⟩

-- A logger writes on the console once, and into its log once.
theorem countP_loggerFor (verbose : Bool) (log : Option Path) :
    (Command.loggerFor verbose log).handlers.countP (·.target = .console) = 1 ∧
      ∀ path, (Command.loggerFor verbose log).handlers.countP (·.target = .file path) =
        if log = some path then 1 else 0 := by
  cases log with
  | none => exact ⟨rfl, fun path => rfl⟩
  | some opened =>
      refine ⟨rfl, fun path => ?_⟩
      by_cases hpath : opened = path <;> simp [Command.loggerFor, hpath]

theorem forM_program_records
    (hrun : ((configure verbose file :: steps).forM (program here)).runOn session store =
      ((.ok (), session'), store')) :
    let written := records here verbose (logFor here file) session.names steps
    (session'.logger.handlers.countP (·.target = .console) = 1 ∧
      ∀ path, session'.logger.handlers.countP (·.target = .file path) =
        if latestLog here (logFor here file) steps = some path then 1 else 0) ∧
    session'.console = session.console ++ consoleText written ∧
    Store.AddsTexts (logPlaces here store.current (logFor here file) steps)
      (fileText store.current written) store store' ∧
    ∀ r ∈ written,
      ((r.part.getD "").toList.head? ≠ some '.' → r.isBelow = true) ∧
      (Logger.rootName ++ "." ∉ session.names → ∀ rest, r.part = some ("." ++ rest) →
        rest.toList.head? ≠ some '.' → r.isBelow = false) := by
  intro written
  obtain ⟨session₁, store₁, hstep, hrest⟩ := exists_first_step hrun
  obtain ⟨hconfigured, hnames, hputs⟩ := puts_configure hstep
  obtain ⟨⟨latest, hlatest⟩, hmore⟩ := puts_steps hconfigured hrest
  rw [hnames, hputs.files.current] at hmore
  have hall := hputs.trans hmore
  rw [List.nil_append, Set.union_eq_right.mpr (placesOf_subset_logPlaces ..)] at hall
  refine ⟨hlatest.logger ▸ countP_loggerFor latest _, hall.console, hall.files, fun r hr => ?_⟩
  obtain ⟨later, hbelow, hlater⟩ := exists_names_of_mem hr
  rw [hbelow]
  refine ⟨Logger.isBelow_nameOf, fun hname rest hpart hrest => ?_⟩
  rw [hpart]
  exact Logger.not_isBelow_nameOf hrest (hlater hname)

-- Two logs by turns, and records that are held back.
def twoLogs : List LogStep :=
  [.log (some "builder") .info "Loaded", .configure true (some (.ofText "new.log")),
    .log (some "page") .debug "Rendered", .configure false none, .log none .debug "Hidden",
    .log (some ".page") .info "Elsewhere", .configure false (some (.ofText "old.log")),
    .log (some "page") .info "Written"]

def workHere : Surroundings := { current := .ofText "/work", home := .ofText "/home" }

def workStore : Store := Store.ofTexts ["work"] []

theorem forM_program_records_twoLogs :
    ∃ session' store',
      Program.runOn ((configure false (some (.ofText "old.log")) :: twoLogs).forM
        (program workHere)) {} workStore = ((.ok (), session'), store') ∧
      session'.logger.handlers.countP (·.target = .file (.ofText "/work/old.log")) = 1 ∧
      session'.console = "[apiref.builder] INFO Loaded\n[apiref.page] DEBUG Rendered\n" ++
        "[apiref.page] INFO Written\n" ∧
      store'.entry? ["work", "old.log"] =
        some (.file "INFO apiref.builder: Loaded\nINFO apiref.page: Written\n") ∧
      store'.entry? ["work", "new.log"] = some (.file "DEBUG apiref.page: Rendered\n") := by
  rcases hrun : Program.runOn ((configure false (some (.ofText "old.log")) :: twoLogs).forM
    (program workHere)) {} workStore with ⟨⟨outcome, session'⟩, store'⟩
  obtain ⟨⟨⟩, rfl⟩ : ∃ done, outcome = .ok done := by
    have hok : (Program.runOn ((configure false (some (.ofText "old.log")) :: twoLogs).forM
        (program workHere)) {} workStore).1.1.toOption.isSome := by decide +kernel
    rw [hrun] at hok
    exact exists_eq_ok_of_isSome hok
  obtain ⟨⟨-, hhandlers⟩, hconsole, hfiles, -⟩ := forM_program_records hrun
  have hmissing : workStore.entry? ["work", "old.log"] = none ∧
      workStore.entry? ["work", "new.log"] = none := by decide +kernel
  obtain ⟨old, hold, hentry⟩ := hfiles.texts ["work", "old.log"] (.inl (by decide +kernel))
  obtain ⟨new, hnew, hentry'⟩ :=
    hfiles.texts ["work", "new.log"] (.inr (.inl (by decide +kernel)))
  obtain rfl : old = .text "" := by simpa [Store.IsWritable, hmissing.1] using hold
  obtain rfl : new = .text "" := by simpa [Store.IsWritable, hmissing.2] using hnew
  exact ⟨session', store', rfl, (hhandlers _).trans (by decide +kernel),
    hconsole.trans (by decide +kernel), hentry.trans (by decide +kernel),
    hentry'.trans (by decide +kernel)⟩

-- The level of a record may let it through, and still it stands nowhere, as the name of its part begins
-- with a dot.
theorem forM_program_records_dottedPart :
    Program.runOn ([configure false none, .log (some ".page") .info "Rendering 2 functions"].forM
      (program workHere)) {} workStore =
        ((.ok (),
          { logger := Command.loggerFor false none, console := "", names := ["apiref..page"] }),
          workStore) ∧
    (Logger.levelFor false).rank ≤ Level.info.rank ∧
    Logger.consoleLine (Logger.nameOf (some ".page")) .info "Rendering 2 functions" =
      "[apiref..page] INFO Rendering 2 functions\n" := by
  exact ⟨rfl, by decide, by decide⟩

end LogStep

end ApiPages
