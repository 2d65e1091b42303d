import ApiPages.Files.Store
import ApiPages.Log
import ApiPages.Proofs.Outcome

namespace ApiPages

namespace Program

section Results

variable {ε α β : Type} {program : ExceptT ε (StateT Session (StateM Store)) α}
  {next : α → ExceptT ε (StateT Session (StateM Store)) β} {session session' : Session}
  {store store' : Store}

-- What a program gives that starts with a session on a store.
def result (program : ExceptT ε (StateT Session (StateM Store)) α) (session : Session)
    (store : Store) : Except ε α :=
  ((program.run.run session).run store).1.1

theorem run_bind_ok {a : α}
    (h : (program.run.run session).run store = ((.ok a, session'), store')) :
    ((program >>= next).run.run session).run store = ((next a).run.run session').run store' := by
  simp only [ExceptT.run_bind, StateT.run_bind, h]
  rfl

theorem run_bind_error {error : ε}
    (h : (program.run.run session).run store = ((.error error, session'), store')) :
    ((program >>= next).run.run session).run store = ((.error error, session'), store') := by
  simp only [ExceptT.run_bind, StateT.run_bind, h]
  rfl

theorem result_bind_ok {a : α}
    (h : (program.run.run session).run store = ((.ok a, session'), store')) :
    result (program >>= next) session store = result (next a) session' store' := by
  rw [result, run_bind_ok h, result]

theorem result_bind_error {error : ε}
    (h : (program.run.run session).run store = ((.error error, session'), store')) :
    result (program >>= next) session store = .error error := by
  rw [result, run_bind_error h]

end Results

theorem run_kind? (path : Path) (session : Session) (store : Store) :
    ((Files.ask (m := StateT Session (StateM Store)) (FileAccess.kind? path)).run.run session).run
      store = (((store.kind? path).mapError .file, session), store) := by
  have hkind : ((FileAccess.kind? (m := StateT Session (StateM Store)) path).run session).run store =
      ((store.kind? path, session), store) := rfl
  unfold Files.ask
  simp only [ExceptT.run_bind, ExceptT.run_lift, StateT.run_bind, StateT.run_map, hkind]
  cases store.kind? path <;> rfl

theorem run_readText (path : Path) (session : Session) (store : Store) :
    ((Files.ask (m := StateT Session (StateM Store)) (FileAccess.readText path)).run.run session).run
      store = (((store.readText path).mapError .file, session), store) := by
  have hread :
      ((FileAccess.readText (m := StateT Session (StateM Store)) path).run session).run store =
        ((store.readText path, session), store) := rfl
  unfold Files.ask
  simp only [ExceptT.run_bind, ExceptT.run_lift, StateT.run_bind, StateT.run_map, hread]
  cases store.readText path <;> rfl

variable {α β : Type}

-- Wherever a program starts, it gives what a computation gives.
def Gives (program : Program (StateM Store) α) (x : Except Fault α) : Prop :=
  ∀ session store, result program session store = x

namespace Gives

theorem lift (x : Except Fault α) : Gives (liftM x) x := by
  intro session store
  cases x <;> rfl

theorem pure (a : α) : Gives (Pure.pure a) (.ok a) := fun _ _ => rfl

theorem bind {program : Program (StateM Store) α} {next : α → Program (StateM Store) β}
    {x : Except Fault α} {f : α → Except Fault β} (h : Gives program x)
    (hnext : ∀ a, x = .ok a → Gives (next a) (f a)) : Gives (program >>= next) (x >>= f) := by
  intro session store
  have hx : result program session store = x := h session store
  rcases hrun : (program.run.run session).run store with ⟨⟨outcome, session'⟩, store'⟩
  rw [result, hrun] at hx
  subst hx
  cases outcome with
  | error error => exact result_bind_error hrun
  | ok a => exact (result_bind_ok hrun).trans (hnext a rfl session' store')

theorem after {program : Program (StateM Store) α} {next : α → Program (StateM Store) β} {a : α}
    {x : Except Fault β} (h : Gives program (.ok a)) (hnext : Gives (next a) x) :
    Gives (program >>= next) x := by
  refine h.bind (f := fun _ => x) fun b hb => ?_
  cases hb
  exact hnext

-- What is done may depend on the session, but not what is given.
theorem get {next : Session → Program (StateM Store) β} {x : Except Fault β}
    (h : ∀ session, Gives (next session) x) : Gives (MonadState.get >>= next) x :=
  fun session store => h session session store

theorem forM {next : α → Program (StateM Store) Unit} {items : List α}
    (h : ∀ item, Gives (next item) (.ok ())) : Gives (items.forM next) (.ok ()) := by
  induction items with
  | nil => exact pure ()
  | cons item rest ih => exact (h item).bind fun _ _ => ih

end Gives

theorem result_lift (x : Except Fault α) (session : Session) (store : Store) :
    result (liftM x : Program (StateM Store) α) session store = x := Gives.lift x session store

end Program

end ApiPages
