import ApiPages.Proofs.Files.Log
import ApiPages.Proofs.Program.Frame
import ApiPages.Proofs.Program.Result

namespace ApiPages

-- Messages go to the console and to a log at most.
def Logger.WritesTo (log : Option Path) (logger : Logger) : Prop :=
  ∀ handler ∈ logger.handlers, handler.target = .console ∨ ∃ path ∈ log, handler.target = .file path

namespace Program

open Outcome

variable {α β : Type}

instance (log : Option Path) : IsFrame (Logger.WritesTo log) (Store.LogsTo log) where
  record hlogger handler hhandler path htarget store other text hchange := by
    refine .of_change hchange (fun old => ⟨text, rfl⟩) ?_
    rcases hlogger handler hhandler with hconsole | ⟨path', hlog, hfile⟩
    · rw [hconsole] at htarget
      cases htarget
    · rw [hfile] at htarget
      cases htarget
      exact List.mem_map_of_mem (Option.mem_toList.mpr hlog)

-- A program leaves the session and the store as they are.
def LeavesAlone (program : Program (StateM Store) α) : Prop :=
  ∀ session store, program.runOn session store = ((result program session store, session), store)

theorem result_kind? (path : Path) (session : Session) (store : Store) :
    result (Files.ask (FileAccess.kind? (m := StateT Session (StateM Store)) path)) session store =
      (store.kind? path).mapError .file := by
  rw [result, run_kind?]

theorem result_readText (path : Path) (session : Session) (store : Store) :
    result (Files.ask (FileAccess.readText (m := StateT Session (StateM Store)) path)) session store =
      (store.readText path).mapError .file := by
  rw [result, run_readText]

theorem leavesAlone_kind? (path : Path) :
    LeavesAlone (Files.ask (FileAccess.kind? (m := StateT Session (StateM Store)) path)) := by
  intro session store
  rw [result, runOn, run_kind?]

theorem leavesAlone_readText (path : Path) :
    LeavesAlone (Files.ask (FileAccess.readText (m := StateT Session (StateM Store)) path)) := by
  intro session store
  rw [result, runOn, run_readText]

theorem leavesAlone_lift_kind? (path : Path) : LeavesAlone
    (ExceptT.lift (FileAccess.kind? (m := StateT Session (StateM Store)) path)) := fun _ _ => rfl

namespace LeavesAlone

variable {program : Program (StateM Store) α} {next : α → Program (StateM Store) β}

-- What comes after a look starts where the look did.
theorem runOn_bind (h : LeavesAlone program) (session : Session) (store : Store) :
    (program >>= next).runOn session store =
      match result program session store with
      | .ok a => (next a).runOn session store
      | .error fault => ((.error fault, session), store) := by
  have hrun := h session store
  cases hresult : result program session store with
  | error fault => exact runOn_bind_error (hrun.trans (by rw [hresult]))
  | ok a => exact runOn_bind_ok (hrun.trans (by rw [hresult]))

theorem result_bind (h : LeavesAlone program) (session : Session) (store : Store) :
    result (program >>= next) session store =
      result program session store >>= fun a => result (next a) session store := by
  change ((program >>= next).runOn session store).1.1 = _
  rw [h.runOn_bind]
  cases result program session store <;> rfl

theorem bind (h : LeavesAlone program) (hnext : ∀ a, LeavesAlone (next a)) :
    LeavesAlone (program >>= next) := by
  intro session store
  rw [h.runOn_bind, h.result_bind]
  cases result program session store with
  | error fault => rfl
  | ok a => exact hnext a session store

theorem moves {P : Logger → Prop} {Q : Store → Store → Prop} [Std.Refl Q]
    (h : LeavesAlone program) : Moves P Q program.run := by
  intro session store _
  have hrun := h session store
  unfold runOn at hrun
  rw [hrun]
  exact ⟨rfl, Std.Refl.refl store⟩

end LeavesAlone

structure OnlyLooks (program : Program (StateM Store) α) : Prop where
  alone : LeavesAlone program
  -- Neither the session nor an empty log decides about what is given.
  steady : ∀ {store opened : Store}, store.AddsEmptyFiles opened → ∀ session session',
    (result program session' opened).toOption = (result program session store).toOption

namespace OnlyLooks

variable {program : Program (StateM Store) α} {next : α → Program (StateM Store) β}

theorem lift (x : Except Fault α) : OnlyLooks (liftM x) := by
  cases x <;> exact ⟨fun _ _ => rfl, fun _ _ _ => rfl⟩

theorem value (a : α) : OnlyLooks (pure a) := ⟨fun _ _ => rfl, fun _ _ _ => rfl⟩

theorem bind (h : OnlyLooks program) (hnext : ∀ a, OnlyLooks (next a)) :
    OnlyLooks (program >>= next) where
  alone := h.alone.bind fun a => (hnext a).alone
  steady hopened session session' := by
    simp only [h.alone.result_bind, toOption_bind, h.steady hopened session session',
      (hnext _).steady hopened session session']

-- A path that leads nowhere and one to a file have to mean the same.
theorem kind? {next : Option EntryKind → Program (StateM Store) β} (path : Path)
    (hnext : ∀ kind, OnlyLooks (next kind)) (hnone : next none = next (some .file)) :
    OnlyLooks (Files.ask (FileAccess.kind? path) >>= next) where
  alone := (leavesAlone_kind? path).bind fun kind => (hnext kind).alone
  steady := by
    intro store opened hopened session session'
    simp only [(leavesAlone_kind? path).result_bind, result_kind?]
    rcases hopened.look_cases path with ⟨hsame, -⟩ | ⟨hbefore, -, hafter, -⟩
    · rw [hsame]
      cases store.kind? path with
      | error error => rfl
      | ok kind => exact (hnext kind).steady hopened session session'
    · rw [hbefore, hafter]
      change (result (next (some .file)) session' opened).toOption =
        (result (next none) session store).toOption
      rw [hnone]
      exact (hnext _).steady hopened session session'

end OnlyLooks

-- A run gives what is told of the store that it leaves. It gets there along a relation, and the logger
-- is kept.
def Leaves {ε : Type} (Q : Store → Store → Prop)
    (program : ExceptT ε (StateT Session (StateM Store)) α) (session : Session) (store : Store)
    (x : Store → Except ε α) : Prop :=
  ∃ session' left, session'.logger = session.logger ∧ Q store left ∧
    (program.run.run session).run store = ((x left, session'), left)

namespace Leaves

variable {ε : Type} {Q : Store → Store → Prop} {session : Session} {store : Store}

theorem of_moves {P : Logger → Prop} {program : ExceptT ε (StateT Session (StateM Store)) α}
    {x : Except ε α} (h : Moves P Q program.run) (hlogger : P session.logger)
    (hresult : result program session store = x) : Leaves Q program session store fun _ => x := by
  obtain ⟨hkept, hmoved⟩ := h session store hlogger
  exact ⟨_, _, hkept, hmoved, by rw [← hresult]; rfl⟩

theorem of_alone [Std.Refl Q] {program : Program (StateM Store) α} (h : LeavesAlone program) :
    Leaves Q program session store (result program session) :=
  ⟨session, store, rfl, Std.Refl.refl store, h session store⟩

theorem result_eq {program : ExceptT ε (StateT Session (StateM Store)) α}
    {x : Store → Except ε α} (h : Leaves Q program session store x) :
    ∃ left, Q store left ∧ result program session store = x left := by
  obtain ⟨session', left, -, hmoved, hrun⟩ := h
  exact ⟨left, hmoved, congrArg (·.1.1) hrun⟩

theorem bind [IsTrans Store Q] {program : ExceptT ε (StateT Session (StateM Store)) α}
    {next : α → ExceptT ε (StateT Session (StateM Store)) β} {x : Except ε α}
    {y : α → Store → Except ε β} (h : Leaves Q program session store fun _ => x)
    (hnext : ∀ a session' store', session'.logger = session.logger →
      Leaves Q (next a) session' store' (y a)) :
    Leaves Q (program >>= next) session store fun left => x >>= fun a => y a left := by
  obtain ⟨session', between, hkept, hmoved, hrun⟩ := h
  cases x with
  | error error => exact ⟨session', between, hkept, hmoved, run_bind_error hrun⟩
  | ok a =>
      obtain ⟨last, left, hlast, hleft, hnextRun⟩ := hnext a session' between hkept
      exact ⟨last, left, hlast.trans hkept, trans_of Q hmoved hleft,
        (run_bind_ok hrun).trans hnextRun⟩

theorem map {program : ExceptT ε (StateT Session (StateM Store)) α} {x : Store → Except ε α}
    (h : Leaves Q program session store x) (f : α → β) :
    Leaves Q (f <$> program) session store fun left => f <$> x left := by
  obtain ⟨session', left, hkept, hmoved, hrun⟩ := h
  refine ⟨session', left, hkept, hmoved, ?_⟩
  rw [← bind_pure_comp]
  dsimp only
  cases hx : x left with
  | error error =>
      rw [hx] at hrun
      exact run_bind_error hrun
  | ok a =>
      rw [hx] at hrun
      exact run_bind_ok hrun

end Leaves

end Program

end ApiPages
