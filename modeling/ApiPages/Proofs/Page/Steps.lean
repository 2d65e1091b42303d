import ApiPages.Page.Basic
import ApiPages.Proofs.Page.Base

namespace ApiPages

inductive Step where
  | part (part : ModelPart)
  -- The address where a source can be edited.
  | address (file : Option String)
  -- The sentence that names the first parent.
  | parents (types : List TypeExpr)
  -- The fields of a base type, and whether the base is named.
  | fields (base : TypeExpr)

namespace Context

def part (ctx : Context) : ModelPart → Rendered := partNodes ctx ctx.expand

def typeSteps (type : Option TypeExpr) : List Step := type.toList.map fun type => .part (.type type)

def rowSteps (member : Declaration) : List Step :=
  match member.signatures with
  | s :: _ => [.part (.signature s)]
  | [] => typeSteps member.type

def tableSteps (members : List Declaration) : List Step := members.flatMap rowSteps

def parameterSteps (d : Declaration) : List Step :=
  (d.signatures.filter (!·.parameters.isEmpty)).flatMap fun s => tableSteps s.parameters

def templateSteps (d : Declaration) : List Step :=
  (d.signatures.filter (·.typeParameters.any (·.comment.isSome))).flatMap fun s =>
    tableSteps s.typeParameters

def returnSteps (d : Declaration) : List Step :=
  typeSteps ((d.signatures.head?.bind (·.type)).filter fun type => type.name? ≠ some voidName)

def memberSteps (member : Declaration) : List Step :=
  typeSteps member.type ++ (parameterSteps member ++ (templateSteps member ++ returnSteps member))

def membersSteps (members : List Declaration) : List Step :=
  (visibleMembers members).flatMap memberSteps

def constructorSteps (ctx : Context) (d : Declaration) : List Step :=
  if ctx.tables.hideConstructor.contains d.name then []
  else (d.children.find? isConstructor).toList.flatMap parameterSteps

def classSteps (ctx : Context) (d : Declaration) : List Step :=
  ctx.constructorSteps d ++ ([.address d.sources.head?] ++ ([.parents d.extendedTypes] ++
    (membersSteps (d.children.filter (·.flags.isStatic)) ++
      membersSteps (d.children.filter (!·.flags.isStatic)))))

def functionSteps (d : Declaration) : List Step :=
  parameterSteps d ++ (templateSteps d ++ (returnSteps d ++ membersSteps d.children))

-- The fields of an object after those of its base, with the sentence that names the base.
def extendedBody (ctx : Context) (base : TypeExpr) (d : Declaration) : Rendered := do
  let fields ← ctx.baseChildren base
  let table ← ctx.table "Property" (fields ++ d.children)
  return (← ctx.baseLine base) ++ [table]

def extendedSteps (ctx : Context) (base : TypeExpr) (d : Declaration) : List Step :=
  let fields := ((ctx.baseChildren base).toOption).getD []
  [.fields base] ++ (tableSteps (fields ++ d.children) ++
    if ctx.showsBase base then [.part (.type base)] else [])

def bodySteps (ctx : Context) (type : Option TypeExpr) : List Step :=
  match type with
  | some (.shape d) => if isDocumented d.children then tableSteps d.children else typeSteps type
  | some (.intersection (base :: .shape d :: _)) =>
    if isDocumented d.children then ctx.extendedSteps base d else typeSteps type
  | type => typeSteps type

def symbolSteps (ctx : Context) (d : Declaration) : List Step :=
  if d.signatures.isEmpty then ctx.bodySteps d.type else functionSteps d

def pageSteps (ctx : Context) (ds : List Declaration) : List Step :=
  (classes (ctx.documented ds)).flatMap ctx.classSteps ++
    Group.all.flatMap fun group => (ctx.groupItems (ctx.documented ds) group).flatMap ctx.symbolSteps

end Context

namespace Step

def Succeeds (ctx : Context) : Step → Prop
  | .part whole => ∃ nodes, ctx.part whole = .ok nodes
  | .address file => ∃ url, ctx.editUrls.build file = .ok url
  | .parents types => ∃ nodes, ctx.parents types = .ok nodes
  | .fields base => ∃ fields, ctx.baseChildren base = .ok fields

def Related (R : OutcomeRelation) (ctx ctx' : Context) : Step → Prop
  | .part whole => R _ (ctx.part whole) (ctx'.part whole)
  | .address file => R _ (ctx.editUrls.build file) (ctx'.editUrls.build file)
  | .parents types => R _ (ctx.parents types) (ctx'.parents types)
  | .fields base =>
    R _ (ctx.baseChildren base) (ctx'.baseChildren base) ∧ ctx.showsBase base = ctx'.showsBase base

end Step

-- Two computations that take some steps, in two contexts: they are related when the steps are that
-- the first one reaches, and it succeeds only if all of them do.
structure Follows (R : OutcomeRelation) (ctx ctx' : Context) {α : Type} (steps : List Step)
    (x y : Except Fault α) : Prop where
  related : (∀ step, Reached (Step.Succeeds ctx) steps step → step.Related R ctx ctx') → R α x y
  succeeds : ∀ a, x = .ok a → ∀ step ∈ steps, step.Succeeds ctx

namespace Follows

variable {R : OutcomeRelation} {ctx ctx' : Context} {α β : Type} {steps rest : List Step}
  {x y : Except Fault α} (hR : IsCongruence R)

include hR in
theorem ok (a : α) : Follows R ctx ctx' [] (.ok a) (.ok a) where
  related _ := hR.ok a
  succeeds _ _ := List.forall_mem_nil _

include hR in
theorem bind {f g : α → Except Fault β} (h : Follows R ctx ctx' steps x y)
    (hf : ∀ a, x = .ok a → Follows R ctx ctx' rest (f a) (g a)) :
    Follows R ctx ctx' (steps ++ rest) (x >>= f) (y >>= g) where
  related hsteps := by
    refine hR.bind (h.related fun step hs => hsteps step hs.append_left) fun a ha => ?_
    exact (hf a ha).related fun step hs => hsteps step (hs.append_right (h.succeeds a ha))
  succeeds b hb := by
    obtain ⟨a, ha, hb⟩ := Outcome.bind_eq_ok_iff.mp hb
    exact List.forall_mem_append.mpr ⟨h.succeeds a ha, (hf a ha).succeeds b hb⟩

include hR in
theorem map (f : α → β) (h : Follows R ctx ctx' steps x y) :
    Follows R ctx ctx' steps (do return f (← x)) (do return f (← y)) := by
  have hbind : Follows R ctx ctx' (steps ++ []) (do return f (← x)) (do return f (← y)) :=
    h.bind hR fun a _ => ok hR (f a)
  rwa [List.append_nil] at hbind

include hR in
theorem mapM {f g : α → Except Fault β} {stepsOf : α → List Step} {items : List α}
    (h : ∀ a ∈ items, Follows R ctx ctx' (stepsOf a) (f a) (g a)) :
    Follows R ctx ctx' (items.flatMap stepsOf) (items.mapM f) (items.mapM g) := by
  induction items with
  | nil => exact ok hR []
  | cons item others ih =>
      rw [List.forall_mem_cons] at h
      rw [List.flatMap_cons, List.mapM_cons, List.mapM_cons]
      exact h.1.bind hR fun first _ => (ih h.2).map hR fun rest => first :: rest

theorem part (part : ModelPart) :
    Follows R ctx ctx' [.part part] (ctx.part part) (ctx'.part part) where
  related h := h _ (.head _ _)
  succeeds nodes h := List.forall_mem_singleton.mpr ⟨nodes, h⟩

theorem address (file : Option String) :
    Follows R ctx ctx' [.address file] (ctx.editUrls.build file) (ctx'.editUrls.build file) where
  related h := h _ (.head _ _)
  succeeds url h := List.forall_mem_singleton.mpr ⟨url, h⟩

theorem fields (base : TypeExpr) :
    Follows R ctx ctx' [.fields base] (ctx.baseChildren base) (ctx'.baseChildren base) where
  related h := (h (.fields base) (.head _ _)).1
  succeeds fields h := List.forall_mem_singleton.mpr ⟨fields, h⟩

theorem parents (types : List TypeExpr) :
    Follows R ctx ctx' [.parents types] (ctx.parents types) (ctx'.parents types) where
  related h := h _ (.head _ _)
  succeeds nodes h := List.forall_mem_singleton.mpr ⟨nodes, h⟩

end Follows

namespace Context

variable {R : OutcomeRelation} {ctx : Context} {page : String} {symbols : SymbolIndex}
  (hR : IsCongruence R)

include hR

theorem follows_type? (type : Option TypeExpr) :
    Follows R ctx (ctx.moved page symbols) (typeSteps type) (ctx.type? type)
      ((ctx.moved page symbols).type? type) := by
  cases type with
  | none =>
      rw [type?, type?, typeNodes?, typeNodes?]
      exact .ok hR []
  | some type =>
      rw [type?, type?, typeNodes?, typeNodes?]
      exact .part (.type type)

theorem follows_typeLine (type : Option TypeExpr) :
    Follows R ctx (ctx.moved page symbols) (typeSteps type) (ctx.typeLine type)
      ((ctx.moved page symbols).typeLine type) := by
  cases type with
  | none => exact .ok hR []
  | some type => exact (Follows.part (.type type)).map hR _

theorem follows_memberType (member : Declaration) :
    Follows R ctx (ctx.moved page symbols) (rowSteps member) (ctx.memberType member)
      ((ctx.moved page symbols).memberType member) := by
  unfold memberType rowSteps
  cases member.signatures with
  | nil => exact follows_type? hR member.type
  | cons s _ => exact .part (.signature s)

theorem follows_table (label : String) (members : List Declaration) :
    Follows R ctx (ctx.moved page symbols) (tableSteps members) (ctx.table label members)
      ((ctx.moved page symbols).table label members) :=
  (Follows.mapM hR fun member _ => (follows_memberType hR member).map hR _).map hR _

theorem follows_parameterTables (d : Declaration) :
    Follows R ctx (ctx.moved page symbols) (parameterSteps d) (ctx.parameterTables d)
      ((ctx.moved page symbols).parameterTables d) :=
  .mapM hR fun s _ => follows_table hR "Parameter" s.parameters

theorem follows_templateTables (d : Declaration) :
    Follows R ctx (ctx.moved page symbols) (templateSteps d) (ctx.templateTables d)
      ((ctx.moved page symbols).templateTables d) := by
  unfold templateTables templateSteps
  cases d.signatures.filter (·.typeParameters.any (·.comment.isSome)) with
  | nil => exact .ok hR []
  | cons s rest =>
      exact (Follows.mapM hR fun s _ => follows_table hR "Templates" s.typeParameters).map hR _

theorem follows_returnLine (d : Declaration) :
    Follows R ctx (ctx.moved page symbols) (returnSteps d) (ctx.returnLine d)
      ((ctx.moved page symbols).returnLine d) := by
  unfold returnLine returnSteps
  cases d.signatures with
  | nil => exact .ok hR []
  | cons first _ =>
      dsimp only [List.head?_cons, Option.bind_some]
      cases first.type with
      | none => exact .ok hR []
      | some type =>
          by_cases hvoid : type.name? = some voidName
          · simpa [hvoid, Option.filter, typeSteps] using Follows.ok hR []
          · simp only [Option.filter, hvoid, ne_eq, not_false_eq_true, decide_true, if_true, if_false]
            exact (Follows.part (.type type)).map hR _

theorem follows_memberSection (owner separator slug : String) (member : Declaration) :
    Follows R ctx (ctx.moved page symbols) (memberSteps member)
      (ctx.memberSection owner separator slug member)
      ((ctx.moved page symbols).memberSection owner separator slug member) := by
  refine (follows_typeLine hR member.type).bind hR fun type _ => ?_
  refine (follows_parameterTables hR member).bind hR fun parameters _ => ?_
  refine (follows_templateTables hR member).bind hR fun templates _ => ?_
  exact (follows_returnLine hR member).map hR _

theorem follows_memberSections (owner separator : String) (seen : List String)
    (members : List Declaration) :
    Follows R ctx (ctx.moved page symbols) (membersSteps members)
      (ctx.memberSections owner members separator seen)
      ((ctx.moved page symbols).memberSections owner members separator seen) := by
  unfold memberSections membersSteps
  induction visibleMembers members generalizing seen with
  | nil => exact .ok hR _
  | cons member rest ih =>
      rw [sectionsFor, sectionsFor, List.flatMap_cons]
      exact (follows_memberSection hR owner separator _ member).bind hR fun first _ =>
        (ih _).map hR fun found => (first :: found.1, found.2)

theorem follows_constructorTables (d : Declaration) :
    Follows R ctx (ctx.moved page symbols) (ctx.constructorSteps d) (ctx.constructorTables d)
      ((ctx.moved page symbols).constructorTables d) := by
  have htables : (ctx.moved page symbols).tables = ctx.tables := rfl
  unfold constructorTables constructorSteps
  rw [htables]
  cases d.children.find? isConstructor with
  | none => split <;> exact .ok hR []
  | some found =>
      dsimp only
      split
      · exact .ok hR []
      · simpa using follows_parameterTables hR found

theorem follows_classSection (d : Declaration) :
    Follows R ctx (ctx.moved page symbols) (ctx.classSteps d) (ctx.classSection d)
      ((ctx.moved page symbols).classSection d) := by
  refine (follows_constructorTables hR d).bind hR fun parameters _ => ?_
  refine (Follows.address d.sources.head?).bind hR fun editUrl _ => ?_
  refine (Follows.parents d.extendedTypes).bind hR fun parents _ => ?_
  refine (follows_memberSections hR d.name staticMark _ _).bind hR fun statics _ => ?_
  exact (follows_memberSections hR d.name instanceMark _ _).map hR _

theorem follows_functionSection (d : Declaration) :
    Follows R ctx (ctx.moved page symbols) (functionSteps d) (ctx.functionSection d)
      ((ctx.moved page symbols).functionSection d) := by
  refine (follows_parameterTables hR d).bind hR fun parameters _ => ?_
  refine (follows_templateTables hR d).bind hR fun templates _ => ?_
  refine (follows_returnLine hR d).bind hR fun returned _ => ?_
  exact (follows_memberSections hR d.name instanceMark _ _).map hR _

theorem follows_baseLine (base : TypeExpr)
    (h : ctx.showsBase base = (ctx.moved page symbols).showsBase base) :
    Follows R ctx (ctx.moved page symbols) (if ctx.showsBase base then [.part (.type base)] else [])
      (ctx.baseLine base) ((ctx.moved page symbols).baseLine base) := by
  unfold baseLine
  rw [← h]
  split
  · exact (Follows.part (.type base)).map hR _
  · exact .ok hR []

theorem follows_extendedBody_of_showsBase (base : TypeExpr) (d : Declaration)
    (h : ctx.showsBase base = (ctx.moved page symbols).showsBase base) :
    Follows R ctx (ctx.moved page symbols) (ctx.extendedSteps base d) (ctx.extendedBody base d)
      ((ctx.moved page symbols).extendedBody base d) := by
  refine (Follows.fields base).bind hR fun fields hfields => ?_
  rw [hfields, Except.toOption, Option.getD_some]
  refine (follows_table hR "Property" _).bind hR fun table _ => ?_
  exact (follows_baseLine hR base h).map hR _

-- The step that gives the fields also tells whether the base is named.
theorem follows_extendedBody (base : TypeExpr) (d : Declaration) :
    Follows R ctx (ctx.moved page symbols) (ctx.extendedSteps base d) (ctx.extendedBody base d)
      ((ctx.moved page symbols).extendedBody base d) where
  related hsteps :=
    (follows_extendedBody_of_showsBase hR base d (hsteps (.fields base) (.head _ _)).2).related hsteps
  succeeds := by
    have hself : Follows R ctx (ctx.moved ctx.page ctx.symbols) (ctx.extendedSteps base d) _ _ :=
      follows_extendedBody_of_showsBase hR base d rfl
    exact hself.succeeds

theorem follows_variableBody (type : Option TypeExpr) :
    Follows R ctx (ctx.moved page symbols) (ctx.bodySteps type) (ctx.variableBody type)
      ((ctx.moved page symbols).variableBody type) := by
  unfold variableBody
  split
  · rw [bodySteps]
    split
    · exact (follows_table hR "Property" _).map hR _
    · exact follows_typeLine hR _
  · rw [bodySteps]
    split
    · exact follows_extendedBody hR _ _
    · exact follows_typeLine hR _
  · rename_i hshape hextended
    rw [bodySteps]
    · exact follows_typeLine hR _
    · exact hshape
    · exact hextended

theorem follows_symbolSection (d : Declaration) :
    Follows R ctx (ctx.moved page symbols) (ctx.symbolSteps d) (ctx.symbolSection d)
      ((ctx.moved page symbols).symbolSection d) := by
  unfold symbolSection symbolSteps
  split
  · exact (follows_variableBody hR d.type).map hR _
  · exact follows_functionSection hR d

theorem follows_groupArticle (ds : List Declaration) (group : Group) :
    Follows R ctx (ctx.moved page symbols) ((ctx.groupItems ds group).flatMap ctx.symbolSteps)
      (ctx.groupArticle ds group) ((ctx.moved page symbols).groupArticle ds group) := by
  have hitems : (ctx.moved page symbols).groupItems ds group = ctx.groupItems ds group := rfl
  unfold groupArticle
  rw [hitems]
  cases ctx.groupItems ds group with
  | nil => exact .ok hR []
  | cons first rest =>
      exact (Follows.mapM hR fun d _ => follows_symbolSection hR d).map hR _

theorem follows_renderPage (ds : List Declaration) :
    Follows R ctx (ctx.moved page symbols) (ctx.pageSteps ds) (ctx.renderPage ds)
      ((ctx.moved page symbols).renderPage ds) := by
  have hclasses : Follows R ctx (ctx.moved page symbols) _ (ctx.classArticles (ctx.documented ds))
      ((ctx.moved page symbols).classArticles (ctx.documented ds)) :=
    .mapM hR fun d _ => follows_classSection hR d
  have hgroups : Follows R ctx (ctx.moved page symbols) _
      (Group.all.mapM (ctx.groupArticle (ctx.documented ds)))
      (Group.all.mapM ((ctx.moved page symbols).groupArticle (ctx.documented ds))) :=
    .mapM hR fun group _ => follows_groupArticle hR (ctx.documented ds) group
  exact (hclasses.bind hR fun classes _ => hgroups.map hR _).map hR _

end Context

-- The part that a step renders, or the base that it follows, has a property. The parents that a step
-- names are those of a class among the declarations of the page.
def Step.Holds (holds : ModelPart → Prop) (ds : List Declaration) : Step → Prop
  | .part whole => holds whole
  | .address _ => True
  | .parents types => ∃ d ∈ ds, d.kind = some .class_ ∧ d.extendedTypes = types
  | .fields base => holds (.type base)

namespace Context

open ModelPart

variable {ctx : Context} {ds : List Declaration} {holds : ModelPart → Prop}
  (hinner : Inherited holds)

theorem typeSteps_holds {type : Option TypeExpr} (h : ∀ t ∈ type, holds (.type t)) :
    ∀ step ∈ typeSteps type, step.Holds holds ds := by
  intro step hstep
  obtain ⟨t, ht, rfl⟩ := List.mem_map.mp hstep
  exact h t (Option.mem_toList.mp ht)

include hinner

theorem rowSteps_holds {member : Declaration} (h : holds (.declaration member)) :
    ∀ step ∈ rowSteps member, step.Holds holds ds := by
  unfold rowSteps
  split
  · rename_i s rest hs
    exact List.forall_mem_singleton.mpr (hinner _ (.signature s) h (by simp [hs]))
  · exact typeSteps_holds fun t ht => hinner _ _ h (by simp [Option.mem_def.mp ht])

theorem tableSteps_holds {members : List Declaration}
    (h : ∀ member ∈ members, holds (.declaration member)) :
    ∀ step ∈ tableSteps members, step.Holds holds ds := by
  intro step hstep
  obtain ⟨member, hm, hstep⟩ := List.mem_flatMap.mp hstep
  exact rowSteps_holds hinner (h member hm) step hstep

-- The tables under the signatures of a symbol, of parameters or of templates.
theorem signatureTables_hold {d : Declaration} {shown : Signature → Bool}
    {rows : Signature → List Declaration} (h : holds (.declaration d))
    (hrows : ∀ s, ∀ row ∈ rows s, .declaration row ∈ (ModelPart.signature s).inner) :
    ∀ step ∈ (d.signatures.filter shown).flatMap fun s => tableSteps (rows s),
      step.Holds holds ds := by
  intro step hstep
  obtain ⟨s, hs, hstep⟩ := List.mem_flatMap.mp hstep
  have hsignature : holds (.signature s) := hinner _ _ h (by simp [List.mem_of_mem_filter hs])
  have hrows : ∀ row ∈ rows s, holds (.declaration row) :=
    fun row hr => hinner _ _ hsignature (hrows s row hr)
  exact tableSteps_holds hinner hrows step hstep

theorem parameterSteps_holds {d : Declaration} (h : holds (.declaration d)) :
    ∀ step ∈ parameterSteps d, step.Holds holds ds :=
  signatureTables_hold hinner h fun s row hr => by simp [hr]

theorem templateSteps_holds {d : Declaration} (h : holds (.declaration d)) :
    ∀ step ∈ templateSteps d, step.Holds holds ds :=
  signatureTables_hold hinner h fun s row hr => by simp [hr]

theorem returnSteps_holds {d : Declaration} (h : holds (.declaration d)) :
    ∀ step ∈ returnSteps d, step.Holds holds ds := by
  refine typeSteps_holds fun t ht => ?_
  obtain ⟨s, hs, ht⟩ := Option.bind_eq_some_iff.mp (Option.filter_eq_some_iff.mp ht).1
  have hsignature : holds (.signature s) :=
    hinner _ _ h (by simp [List.mem_of_mem_head? (Option.mem_def.mpr hs)])
  exact hinner _ _ hsignature (by simp [ht])

theorem memberSteps_holds {member : Declaration} (h : holds (.declaration member)) :
    ∀ step ∈ memberSteps member, step.Holds holds ds := by
  simp only [memberSteps, List.forall_mem_append]
  refine ⟨typeSteps_holds fun t ht => ?_, parameterSteps_holds hinner h,
    templateSteps_holds hinner h, returnSteps_holds hinner h⟩
  exact hinner _ _ h (by simp [Option.mem_def.mp ht])

theorem membersSteps_holds {members : List Declaration}
    (h : ∀ member ∈ members, holds (.declaration member)) :
    ∀ step ∈ membersSteps members, step.Holds holds ds := by
  intro step hstep
  obtain ⟨member, hm, hstep⟩ := List.mem_flatMap.mp hstep
  have hm := List.mem_of_mem_filter ((List.mergeSort_perm _ _).mem_iff.mp hm)
  exact memberSteps_holds hinner (h member hm) step hstep

theorem children_hold {d : Declaration} (h : holds (.declaration d)) :
    ∀ child ∈ d.children, holds (.declaration child) :=
  fun child hc => hinner _ _ h (by simp [hc])

theorem classSteps_holds {d : Declaration} (hd : d ∈ ds) (hclass : d.kind = some .class_)
    (h : holds (.declaration d)) : ∀ step ∈ ctx.classSteps d, step.Holds holds ds := by
  have hchildren := children_hold hinner h
  simp only [classSteps, List.forall_mem_append, List.forall_mem_singleton]
  refine ⟨?_, trivial, ⟨d, hd, hclass, rfl⟩,
    membersSteps_holds hinner fun child hc => hchildren child (List.mem_of_mem_filter hc),
    membersSteps_holds hinner fun child hc => hchildren child (List.mem_of_mem_filter hc)⟩
  unfold constructorSteps
  split
  · exact List.forall_mem_nil _
  · intro step hstep
    obtain ⟨found, hfound, hstep⟩ := List.mem_flatMap.mp hstep
    have hfound := List.mem_of_find?_eq_some (Option.mem_toList.mp hfound)
    exact parameterSteps_holds hinner (hchildren found hfound) step hstep

theorem functionSteps_holds {d : Declaration} (h : holds (.declaration d)) :
    ∀ step ∈ functionSteps d, step.Holds holds ds := by
  simp only [functionSteps, List.forall_mem_append]
  exact ⟨parameterSteps_holds hinner h, templateSteps_holds hinner h, returnSteps_holds hinner h,
    membersSteps_holds hinner (children_hold hinner h)⟩

theorem extendedSteps_holds (hsymbols : ∀ id d, ctx.symbols.lookup? id = some d →
      holds (.declaration d)) {base : TypeExpr} {d : Declaration} (hbase : holds (.type base))
    (hd : holds (.declaration d)) : ∀ step ∈ ctx.extendedSteps base d, step.Holds holds ds := by
  have hfields : ∀ field ∈ ((ctx.baseChildren base).toOption).getD [],
      holds (.declaration field) := by
    cases h : ctx.baseChildren base with
    | error fault => exact List.forall_mem_nil _
    | ok fields =>
        exact baseFields_inherit hinner (expandFields_inherit hinner hsymbols _) hbase h
  simp only [extendedSteps, List.forall_mem_append, List.forall_mem_singleton]
  refine ⟨hbase, tableSteps_holds hinner ?_, ?_⟩
  · exact List.forall_mem_append.mpr ⟨hfields, children_hold hinner hd⟩
  · split
    · exact List.forall_mem_singleton.mpr hbase
    · exact List.forall_mem_nil _

theorem bodySteps_holds (hsymbols : ∀ id d, ctx.symbols.lookup? id = some d →
      holds (.declaration d)) {type : Option TypeExpr} (h : ∀ t ∈ type, holds (.type t)) :
    ∀ step ∈ ctx.bodySteps type, step.Holds holds ds := by
  unfold bodySteps
  split
  · rename_i d
    split
    · exact tableSteps_holds hinner (children_hold hinner (hinner _ _ (h _ rfl) (by simp)))
    · exact typeSteps_holds h
  · rename_i base d rest
    split
    · have hshape : holds (.type (.shape d)) := hinner _ _ (h _ rfl) (by simp)
      exact extendedSteps_holds hinner hsymbols (hinner _ _ (h _ rfl) (by simp))
        (hinner _ _ hshape (by simp))
    · exact typeSteps_holds h
  · exact typeSteps_holds h

theorem symbolSteps_holds (hsymbols : ∀ id d, ctx.symbols.lookup? id = some d →
      holds (.declaration d)) {d : Declaration} (h : holds (.declaration d)) :
    ∀ step ∈ ctx.symbolSteps d, step.Holds holds ds := by
  unfold symbolSteps
  split
  · exact bodySteps_holds hinner hsymbols fun t ht =>
      hinner _ _ h (by simp [Option.mem_def.mp ht])
  · exact functionSteps_holds hinner h

-- A page is about what stands in its declarations and in those that are looked up.
theorem pageSteps_holds (hsymbols : ∀ id d, ctx.symbols.lookup? id = some d →
      holds (.declaration d)) (h : ∀ d ∈ ds, holds (.declaration d)) :
    ∀ step ∈ ctx.pageSteps ds, step.Holds holds ds := by
  refine List.forall_mem_append.mpr ⟨fun step hstep => ?_, fun step hstep => ?_⟩
  · obtain ⟨d, hd, hstep⟩ := List.mem_flatMap.mp hstep
    have hd := List.mem_filter.mp ((List.mergeSort_perm _ _).mem_iff.mp hd)
    have hm := List.mem_of_mem_filter hd.1
    exact classSteps_holds hinner hm (of_decide_eq_true hd.2) (h d hm) step hstep
  · obtain ⟨group, -, hstep⟩ := List.mem_flatMap.mp hstep
    obtain ⟨d, hd, hstep⟩ := List.mem_flatMap.mp hstep
    have hd := List.mem_of_mem_filter ((List.mergeSort_perm _ _).mem_iff.mp hd)
    exact symbolSteps_holds hinner hsymbols (h d (List.mem_of_mem_filter hd)) step hstep

end Context

end ApiPages
