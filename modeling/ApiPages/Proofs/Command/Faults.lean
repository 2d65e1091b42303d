import ApiPages.Proofs.Command.Preparation
import ApiPages.Proofs.Page.Faults

namespace ApiPages

open Outcome

namespace Command

open Page Program

theorem result_stage {α : Type} (stop : Fault → Stop) (program : Program (StateM Store) α)
    (session : Session) (store : Store) :
    result (stage stop program) session store = (result program session store).mapError stop := rfl

section Stage

variable [Markdown.Extensions] {settings : Settings} {input : Path} {title : String} {store : Store}

-- How making the page of a command can fail.
inductive CommandFault (settings : Settings) (input : Path) (title : String) (store : Store) :
    Fault → Prop
  | unread {error : FileError} (hread : store.readText input = .error error) :
      CommandFault settings input title store (.file error)
  | input (error : InputError) : CommandFault settings input title store (.input error)
  | page {text : String} {json : Json} {fault : Fault} (hread : store.readText input = .ok text)
      (hjson : Json.read text = .ok json)
      (hfault : PageFault (Anchor.ofPage title) settings json fault) :
      CommandFault settings input title store fault

theorem makePage_failsOnly [CharacterNames] [Layout.TemplateLanguage] {root : Path}
    (hsettings : Settings.ofYaml root (.mapping Settings.defaults) = .ok settings)
    (session : Session) :
    FailsOnly (CommandFault settings input title store)
      (result (makePage settings input title) session store) := by
  obtain ⟨defaults, hdefaults, -, -, htemplates⟩ := Settings.ofYaml_defaults root
  cases hsettings.symm.trans hdefaults
  have hleaves : Leaves (fun _ _ => True) (makePage settings input title) session store _ :=
    leaves_makePage (P := fun _ => True) settings input title trivial store
  obtain ⟨left, -, hresult⟩ := hleaves.result_eq
  rw [hresult, Builder.loaded, bind_assoc]
  cases hread : store.readText input with
  | error error => exact .error (.unread hread)
  | ok text =>
      change FailsOnly _ (Builder.declarationsIn input.name text >>= _)
      unfold Builder.declarationsIn
      cases hjson : Json.read text with
      | error reason => exact .error (.input _)
      | ok json =>
          have hrendered := render_failsOnly hsettings (Anchor.ofPage title) json
          change FailsOnly _ (readProject json >>= Builder.builtFrom left settings title)
          rw [funext (Builder.builtFrom_standardShell htemplates left title), ← map_bind]
          exact (hrendered.imp fun fault hfault => .page hread hjson hfault).map

-- How making the page of a command can stop it. A missing input is explained and so is what the input
-- is refused for, but nothing else is.
inductive CommandStop (settings : Settings) (action : Action) (input : Path) (title : String)
    (store : Store) : Stop → Prop
  | missing (path : String) :
      CommandStop settings action input title store (pageStop action (.file (.notFound path)))
  | input (error : InputError) :
      CommandStop settings action input title store (pageStop action (.input error))
  | unread {error : FileError} (hread : store.readText input = .error error)
      (hfound : ∀ path, error ≠ .notFound path) :
      CommandStop settings action input title store (.fault (.file error))
  | page {text : String} {json : Json} {fault : Fault} (hread : store.readText input = .ok text)
      (hjson : Json.read text = .ok json)
      (hfault : PageFault (Anchor.ofPage title) settings json fault)
      (hinput : ∀ error, fault ≠ .input error) :
      CommandStop settings action input title store (.fault fault)

theorem CommandFault.stops {fault : Fault} (h : CommandFault settings input title store fault)
    (action : Action) : CommandStop settings action input title store (pageStop action fault) := by
  cases h with
  | input error => exact .input error
  | unread hread =>
      rename_i error
      cases error with
      | notFound path => exact .missing path
      | _ => exact .unread hread (by simp)
  | page hread hjson hfault =>
      cases hfault with
      | input error => exact .input error
      | notSequence hcount => exact .page hread hjson (.notSequence hcount) (by simp)
      | render hds hctx hrender =>
          cases hrender with
          | input error => exact .input error
          | symbolNotText hd hclass hparent hvoid htext =>
              have hfault := PageFault.render hds hctx (.symbolNotText hd hclass hparent hvoid htext)
              exact .page hread hjson hfault (by simp)
          | tooDeep hendless =>
              exact .page hread hjson (.render hds hctx (.tooDeep hendless)) (by simp)

theorem makePage_stops [CharacterNames] [Layout.TemplateLanguage] {root : Path}
    (hsettings : Settings.ofYaml root (.mapping Settings.defaults) = .ok settings)
    (action : Action) (session : Session) :
    FailsOnly (CommandStop settings action input title store)
      (result (stage (pageStop action) (makePage settings input title)) session store) := by
  rw [result_stage]
  exact (makePage_failsOnly hsettings session).mapError fun fault hfault => hfault.stops action

end Stage

theorem faults_of_defaults [CharacterNames] [Markdown.Extensions] [Layout.TemplateLanguage]
    (root : Path) :
    ∃ settings, Settings.ofYaml root (.mapping Settings.defaults) = .ok settings ∧
      (∀ identity json, FailsOnly (PageFault identity settings json) (do
        let ds ← readProject json
        render identity settings ds)) ∧
      ∀ action input title session store, FailsOnly (CommandStop settings action input title store)
        (result (stage (pageStop action) (makePage settings input title)) session store) := by
  obtain ⟨settings, hsettings, -⟩ := Settings.ofYaml_defaults root
  exact ⟨settings, hsettings, render_failsOnly hsettings,
    fun action _ _ session _ => makePage_stops hsettings action session⟩

-- A class with a number for its signatures, and one whose parent has a number for its symbol.
def countedSignatures : Json :=
  .list [.object [("name", .text "Client"), ("kindString", .text "Class"), ("signatures", .int 5)]]

def numberedType : Json :=
  .object [("type", .text "reference"), ("name", .text "Store"),
    ("symbolFullyQualifiedName", .int 7)]

def numberedClassJson : Json :=
  .object [("name", .text "Client"), ("kindString", .text "Class"),
    ("extendedTypes", .list [numberedType])]

def numberedParent : Json := .list [numberedClassJson]

def numberedClass : Declaration :=
  { name := "Client", kind := some .class_,
    extendedTypes := [.reference { name := "Store", symbol := .int 7 }] }

theorem readProject_countedSignatures : readProject countedSignatures = .error .notSequence := by
  cbv

theorem read_numberedClassJson : Declaration.read numberedClassJson = .ok numberedClass := by
  have htype : TypeExpr.read numberedType =
      .ok (.reference { name := "Store", symbol := .int 7 }) := by
    rw [TypeExpr.read_eq]
    rfl
  have htypes : Json.readEach TypeExpr.read .typeNotObject
      (numberedClassJson.get "extendedTypes") = .ok numberedClass.extendedTypes := by
    change [numberedType].mapM TypeExpr.read = _
    rw [List.mapM_cons, htype]
    rfl
  rw [Declaration.read_eq, htypes]
  rfl

theorem readProject_numberedParent : readProject numberedParent = .ok [numberedClass] := by
  change readDeclarations numberedParent = _
  rw [readDeclarations_eq]
  change [numberedClassJson].mapM Declaration.read = _
  rw [List.mapM_cons, read_numberedClassJson]
  rfl

attribute [local instance] noCharacterNames Markdown.noExtensions

theorem faults_of_defaults_unrecognized :
    ∃ settings, Settings.ofYaml {} (.mapping Settings.defaults) = .ok settings ∧
      (do
        let ds ← readProject countedSignatures
        render "client-api" settings ds) = .error .notSequence ∧
      (do
        let ds ← readProject numberedParent
        render "client-api" settings ds) = .error .symbolNotText := by
  rw [readProject_countedSignatures, readProject_numberedParent]
  exact ⟨_, by cbv, rfl, by cbv⟩

end Command

end ApiPages
