import ApiPages.Log
import ApiPages.Proofs.Files.Store
import ApiPages.Proofs.Program.Result
import Mathlib.Order.Defs.Unbundled

namespace ApiPages.Program

variable {α β : Type}

section Runs

variable {program : Program (StateM Store) α} {next : α → Program (StateM Store) β}
  {session session' : Session} {store store' : Store}

-- What a program gives and leaves behind.
def runOn (program : Program (StateM Store) α) (session : Session) (store : Store) :
    (Except Fault α × Session) × Store :=
  (program.run.run session).run store

theorem runOn_bind_ok {a : α} (h : program.runOn session store = ((.ok a, session'), store')) :
    (program >>= next).runOn session store = (next a).runOn session' store' := run_bind_ok h

theorem runOn_bind_error {fault : Fault}
    (h : program.runOn session store = ((.error fault, session'), store')) :
    (program >>= next).runOn session store = ((.error fault, session'), store') := run_bind_error h

-- Whatever a program gives is as asked for.
def Ensures (program : Program (StateM Store) α) (post : α → Prop) : Prop :=
  ∀ session store a, (program.runOn session store).1.1 = .ok a → post a

theorem Ensures.value {a : α} {post : α → Prop} (h : post a) :
    Ensures (Pure.pure a : Program (StateM Store) α) post := by
  rintro session store b hb
  cases hb
  exact h

theorem Ensures.after {post : β → Prop} (h : ∀ a, Ensures (next a) post) :
    Ensures (program >>= next) post := by
  intro session store b hb
  rcases hrun : program.runOn session store with ⟨⟨outcome, session'⟩, store'⟩
  cases outcome with
  | error fault =>
      rw [runOn_bind_error hrun] at hb
      cases hb
  | ok a =>
      rw [runOn_bind_ok hrun] at hb
      exact h a session' store' b hb

end Runs

theorem run_update (change : Store → Except FileError Store) (session : Session) (store : Store) :
    ((liftM (Store.update change) : StateT Session (StateM Store) _).run session).run store =
      match change store with
      | .ok changed => ((.ok (), session), changed)
      | .error error => ((.error error, session), store) := by
  change (Store.update change >>= fun outcome => pure (outcome, session)).run store = _
  cases h : change store <;> simp [Store.update, h] <;> rfl

-- A change that cannot be made ends the program.
theorem runOn_update (change : Store → Except FileError Store) (session : Session) (store : Store) :
    runOn (Files.ask (liftM (Store.update change) : StateT Session (StateM Store) _)) session store =
      match change store with
      | .ok changed => ((.ok (), session), changed)
      | .error error => ((.error (.file error), session), store) := by
  unfold Files.ask runOn
  simp only [ExceptT.run_bind, ExceptT.run_lift, StateT.run_bind, StateT.run_map, run_update]
  cases change store <;> rfl

-- With a logger of a kind, an action keeps the logger and moves the store along a relation.
def Moves (P : Logger → Prop) (Q : Store → Store → Prop) (action : StateT Session (StateM Store) α) :
    Prop :=
  ∀ session store, P session.logger →
    ((action.run session).run store).1.2.logger = session.logger ∧
      Q store ((action.run session).run store).2

-- A relation that allows for standing still, for moving on, and for the records of a logger.
class IsFrame (P : Logger → Prop) (Q : Store → Store → Prop) : Prop extends IsPreorder Store Q where
  record : ∀ {logger : Logger}, P logger → ∀ handler ∈ logger.handlers, ∀ path,
    handler.target = .file path → ∀ {store other : Store} {text : String},
      store.changeFile path (·.append text) = .ok other → Q store other

-- Any logger, and whatever becomes of the store.
instance : IsFrame (fun _ => True) (fun _ _ => True) where
  refl _ := trivial
  trans _ _ _ _ _ := trivial
  record _ _ _ _ _ _ _ _ _ := trivial

namespace Moves

variable {P : Logger → Prop} {Q : Store → Store → Prop} {action : StateT Session (StateM Store) α}
  {next : α → StateT Session (StateM Store) β}

theorem get {next : Session → StateT Session (StateM Store) β}
    (h : ∀ session, P session.logger → Moves P Q (next session)) :
    Moves P Q (MonadState.get >>= next) :=
  fun session store hlogger => h session hlogger session store hlogger

theorem run_update {change : Store → Except FileError Store} [Std.Refl Q]
    (h : ∀ {store other}, change store = .ok other → Q store other) :
    Moves P Q (liftM (Store.update change) : StateT Session (StateM Store) _) := by
  intro session store _
  rw [Program.run_update]
  cases hchange : change store with
  | error error => exact ⟨rfl, Std.Refl.refl store⟩
  | ok other => exact ⟨rfl, h hchange⟩

section Preorder

variable [IsPreorder Store Q]

theorem pure (a : α) : Moves P Q (Pure.pure a) := fun _ store _ => ⟨rfl, refl_of Q store⟩

theorem bind (h : Moves P Q action) (hnext : ∀ a, Moves P Q (next a)) :
    Moves P Q (action >>= next) := by
  intro session store hlogger
  rcases hrun : (action.run session).run store with ⟨⟨a, session'⟩, store'⟩
  have haction := h session store hlogger
  rw [hrun] at haction
  obtain ⟨hkept, hmoved⟩ := haction
  have hafter := hnext a session' store' (hkept ▸ hlogger)
  simp only [StateT.run_bind, hrun]
  exact ⟨hafter.1.trans hkept, trans_of Q hmoved hafter.2⟩

theorem console {f : Session → Session} (h : ∀ session, (f session).logger = session.logger) :
    Moves P Q (modify f) := fun session store _ => ⟨h session, refl_of Q store⟩

theorem forM {items : List β} {f : β → StateT Session (StateM Store) PUnit}
    (h : ∀ item ∈ items, Moves P Q (f item)) : Moves P Q (items.forM f) := by
  induction items with
  | nil => exact pure _
  | cons item rest ih =>
      exact (h item List.mem_cons_self).bind fun _ =>
        ih fun other hother => h other (List.mem_cons_of_mem item hother)

-- Looking into the store changes nothing.
theorem kind? (path : Path) : Moves P Q (FileAccess.kind? path) :=
  fun _ store _ => ⟨rfl, refl_of Q store⟩

theorem readText (path : Path) : Moves P Q (FileAccess.readText path) :=
  fun _ store _ => ⟨rfl, refl_of Q store⟩

end Preorder

theorem handle [IsFrame P Q] {logger : Logger} (hlogger : P logger) {handler : Handler}
    (hhandler : handler ∈ logger.handlers) (name : String) (level : Level) (message : String) :
    Moves P Q (Logger.handle name level message handler) := by
  unfold Logger.handle
  split
  · split
    · exact console fun _ => rfl
    · rename_i path htarget
      refine (run_update ?_).bind fun _ => pure _
      exact IsFrame.record hlogger handler hhandler path htarget
  · exact pure _

theorem send [IsFrame P Q] {logger : Logger} (name : String) (level : Level) (message : String)
    (h : ∀ handler ∈ logger.handlers, Moves P Q (Logger.handle name level message handler)) :
    Moves P Q (logger.send name level message) := by
  unfold Logger.send
  split
  · exact pure _
  · split
    · exact console fun _ => rfl
    · exact forM h

-- Messages end on the console and in the files of the logger.
theorem log [IsFrame P Q] (part : Option String) (level : Level) (message : String) :
    Moves P Q (Logger.log part level message) := by
  have hnames : ∀ f : Session → List String, Moves P Q
      (modify fun s : Session => { s with names := f s }) := fun f => console fun _ => rfl
  refine (hnames _).bind fun _ => get fun session hlogger => ?_
  refine send _ level message fun handler hhandler => ?_
  unfold Logger.inForce at hhandler
  split at hhandler
  · exact handle hlogger hhandler _ level message
  · cases hhandler

instance : IsPreorder Store Store.Grows where
  refl := .refl
  trans _ _ _ := .trans

theorem makeDirectory (path : Path) : Moves P Store.Grows (FileAccess.makeDirectory path) :=
  run_update Store.makeDirectory_grows

theorem accept (path : Path) (error : FileError) :
    Moves P Store.Grows (Files.makeDirectories.accept path error) := by
  unfold Files.makeDirectories.accept
  refine (kind? path).bind fun outcome => ?_
  split <;> exact pure _

theorem again (path : Path) : Moves P Store.Grows (Files.makeDirectories.again path) := by
  unfold Files.makeDirectories.again
  refine (makeDirectory path).bind fun outcome => ?_
  split
  · exact pure _
  · exact pure _
  · exact accept path _

theorem makeDirectories (names : List String) (path : Path) :
    Moves P Store.Grows (Files.makeDirectories names path) := by
  induction names generalizing path with
  | nil => exact again path
  | cons name above ih =>
      unfold Files.makeDirectories
      refine (makeDirectory path).bind fun outcome => ?_
      split
      · refine (ih path.parent).bind fun outcome => ?_
        split
        · exact pure _
        · exact again path
      · exact accept path _
      · exact pure _

section Composed

variable {ε : Type} {program : ExceptT ε (StateT Session (StateM Store)) α}
  {rest : α → ExceptT ε (StateT Session (StateM Store)) β} [IsPreorder Store Q]

theorem followedBy (h : Moves P Q program.run) (hrest : ∀ a, Moves P Q (rest a).run) :
    Moves P Q (program >>= rest).run := by
  rw [ExceptT.run_bind]
  refine h.bind fun outcome => ?_
  cases outcome with
  | error error => exact pure _
  | ok a => exact hrest a

theorem value (a : α) : Moves P Q (Pure.pure a : ExceptT ε (StateT Session (StateM Store)) α).run :=
  pure _

end Composed

section Programs

variable {program : Program (StateM Store) α} {rest : α → Program (StateM Store) β}

theorem runOn {session session' : Session} {store store' : Store} {outcome : Except Fault α}
    (h : Moves P Q program.run) (hlogger : P session.logger)
    (hrun : program.runOn session store = ((outcome, session'), store')) :
    session'.logger = session.logger ∧ Q store store' := by
  have hmoved := h session store hlogger
  unfold Program.runOn at hrun
  rwa [hrun] at hmoved

theorem look {rest : Session → Program (StateM Store) β}
    (h : ∀ session, Moves P Q (rest session).run) : Moves P Q (MonadState.get >>= rest).run :=
  fun session store hlogger => h session session store hlogger

variable [IsPreorder Store Q]

theorem outcome (x : Except Fault α) : Moves P Q (liftM x : Program (StateM Store) α).run := by
  cases x <;> exact pure _

theorem fault (fault : Fault) : Moves P Q (throw fault : Program (StateM Store) α).run := pure _

theorem act (h : Moves P Q action) :
    Moves P Q (ExceptT.lift action : Program (StateM Store) α).run :=
  h.bind fun _ => pure _

theorem each {items : List α} {f : α → Program (StateM Store) PUnit}
    (h : ∀ item, Moves P Q (f item).run) : Moves P Q (items.forM f).run := by
  induction items with
  | nil => exact value _
  | cons item rest ih => exact (h item).followedBy fun _ => ih

theorem ask {action : StateT Session (StateM Store) (Except FileError α)} (h : Moves P Q action) :
    Moves P Q (Files.ask action).run := by
  unfold Files.ask
  refine h.act.followedBy fun outcome => ?_
  split
  · exact value _
  · exact fault _

end Programs

end Moves

end ApiPages.Program
