import ApiPages.Builder
import ApiPages.Proofs.Program.Look

namespace ApiPages

namespace Layout.Filling

variable {find find' : String → Except Fault (Option String)}

-- A filling is a matter of the templates that it asks for.
theorem result_congr {filling : Filling} (h : ∀ name ∈ filling.asked find, find' name = find name) :
    filling.result find' = filling.result find ∧ filling.asked find' = filling.asked find := by
  induction filling with
  | done text => exact ⟨rfl, rfl⟩
  | failed error => exact ⟨rfl, rfl⟩
  | asks name next ih =>
      have hname : find' name = find name := h name (by simp [asked])
      cases hfound : find name with
      | error fault => simp [result, asked, hname, hfound, bind, Except.bind]
      | ok source =>
          have hnext := ih source fun other hother => h other (by simp [asked, hfound, hother])
          simp [result, asked, hname, hfound, hnext, bind, Except.bind]

end Layout.Filling

namespace Builder

open Program

theorem gives_say (part : Option String) (level : Level) (message : String) :
    Gives (say part level message) (.ok ()) := fun _ _ => rfl

theorem gives_sayNotices (ctx : Context) (ds : List Declaration) :
    Gives (sayNotices ctx ds) (.ok ()) := by
  refine Gives.get fun session => ?_
  split
  · exact Gives.forM fun message => gives_say _ _ message
  · exact .pure ()

-- The text of the template with a name, if a store has one.
def templateIn (store : Store) (settings : Settings) (name : String) :
    Except Fault (Option String) :=
  match templatePath? settings name with
  | none => .ok none
  | some path =>
    match store.kind? path with
    | .ok (some .file) => some <$> (store.readText path).mapError .file
    | _ => .ok none

section Templates

variable (settings : Settings) (name : String)

theorem runOn_templateNamed (session : Session) (store : Store) :
    (templateNamed settings name).runOn session store =
      ((templateIn store settings name, session), store) := by
  unfold templateNamed templateIn
  cases templatePath? settings name with
  | none => rfl
  | some path =>
      refine (runOn_bind_ok (leavesAlone_lift_kind? path session store)).trans ?_
      dsimp only
      rcases store.kind? path with error | _ | _ | _
      · rfl
      · rfl
      · have hread := run_readText path session store
        dsimp only
        rw [← bind_pure_comp]
        cases htext : store.readText path with
        | error error =>
            rw [htext] at hread
            exact run_bind_error hread
        | ok text =>
            rw [htext] at hread
            exact run_bind_ok hread
      · rfl

theorem result_templateNamed (session : Session) (store : Store) :
    result (templateNamed settings name) session store = templateIn store settings name := by
  rw [result, ← runOn, runOn_templateNamed]

theorem leavesAlone_templateNamed : LeavesAlone (templateNamed settings name) := by
  intro session store
  rw [result_templateNamed, runOn_templateNamed]

-- Filling a template leaves everything as it is, and finds the templates as they are.
theorem leavesAlone_fill (filling : Layout.Filling) : LeavesAlone (fill settings filling) := by
  induction filling with
  | done text => exact (OnlyLooks.value text).alone
  | failed error => exact fun _ _ => rfl
  | asks name next ih => exact (leavesAlone_templateNamed settings name).bind ih

theorem result_fill (filling : Layout.Filling) (session : Session) (store : Store) :
    result (fill settings filling) session store = filling.result (templateIn store settings) := by
  induction filling with
  | done text => rfl
  | failed error => rfl
  | asks name next ih =>
      rw [fill, (leavesAlone_templateNamed settings name).result_bind, result_templateNamed]
      exact congrArg _ (funext ih)

end Templates

section Drawing

variable [Markdown.Extensions] (settings : Settings) (title : String) (ds : List Declaration)

-- What is done for a page before it is laid out.
def draw : Program (StateM Store) Page := do
  say part .info ("Building " ++ title ++ " HTML")
  let ctx ← Context.create (Anchor.ofPage title) settings ds
  sayNotices ctx ds
  ctx.renderPage ds

theorem gives_draw :
    Gives (draw settings title ds) (Page.render (Anchor.ofPage title) settings ds) :=
  (gives_say _ _ _).after <| (Gives.lift _).bind fun ctx _ =>
    (gives_sayNotices ctx ds).after (Gives.lift _)

end Drawing

section Pages

variable [Layout.TemplateLanguage]

-- The HTML of a page in the templates of a store.
def laidOut (store : Store) (settings : Settings) (content : Layout.Content) :
    Except Fault String :=
  (Layout.render content).result (templateIn store settings)

-- A project without templates has its pages in the standard shell.
theorem laidOut_standardShell {settings : Settings} (h : settings.templatesDir = none)
    (store : Store) (content : Layout.Content) :
    laidOut store settings content = .ok (Layout.standardShell content) := by
  have hnone : templateIn store settings Layout.templateFile = .ok none := by
    simp [templateIn, templatePath?, h]
  rw [laidOut, Layout.render, Layout.Filling.result, hnone]
  rfl

def builtIn (settings : Settings) (title : String) (page : Page) (html : String) : BuiltPage :=
  let identity := Anchor.ofPage title
  { identity, title, path := pathFor settings identity, html, page }

variable [Markdown.Extensions]

-- The page that declarations make, laid out in the templates of a store.
def builtFrom (store : Store) (settings : Settings) (title : String) (ds : List Declaration) :
    Except Fault BuiltPage := do
  let page ← Page.render (Anchor.ofPage title) settings ds
  builtIn settings title page <$> laidOut store settings (contentOf title page)

theorem builtFrom_standardShell {settings : Settings} (h : settings.templatesDir = none)
    (store : Store) (title : String) (ds : List Declaration) :
    builtFrom store settings title ds =
      (fun page => builtIn settings title page (Layout.standardShell (contentOf title page))) <$>
        Page.render (Anchor.ofPage title) settings ds := by
  unfold builtFrom
  simp only [laidOut_standardShell h]
  exact bind_pure_comp ..

theorem buildPage_eq (settings : Settings) (title : String) (ds : List Declaration) :
    buildPage settings title ds = draw settings title ds >>= fun page =>
      builtIn settings title page <$> fill settings (Layout.render (contentOf title page)) := by
  simp only [draw, bind_assoc, ← bind_pure_comp]
  rfl

end Pages

-- The declarations in a text, and in a file of a store.
def declarationsIn (name text : String) : Except Fault (List Declaration) :=
  match Json.read text with
  | .error reason => .error (.input (.unreadable name reason))
  | .ok json => readProject json

def loaded (store : Store) (path : Path) : Except Fault (List Declaration) := do
  declarationsIn path.name (← (store.readText path).mapError .file)

theorem gives_sayLoaded (path : Path) (ds : List Declaration) :
    Gives (do
      say part .debug ("Loaded " ++ toString ds.length ++ " declarations from " ++ path.text)
      return ds) (.ok ds) := (gives_say _ _ _).after (.pure ds)

-- Reading goes before anything that could change the store.
theorem result_load (path : Path) (session : Session) (store : Store) :
    result (load path) session store = loaded store path := by
  have hrun := run_readText path session store
  rw [load, loaded]
  cases hread : (store.readText path).mapError Fault.file with
  | error fault =>
      rw [hread] at hrun
      exact result_bind_error hrun
  | ok text =>
      rw [hread] at hrun
      refine (result_bind_ok hrun).trans ?_
      change _ = declarationsIn path.name text
      unfold declarationsIn
      cases Json.read text with
      | error reason => rfl
      | ok json =>
          refine ((Gives.lift (readProject json)).bind fun ds _ => gives_sayLoaded path ds)
            session store |>.trans ?_
          exact bind_pure _

end Builder

end ApiPages
