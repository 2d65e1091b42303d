import ApiPages.Proofs.Page.Members
import ApiPages.Proofs.Page.Vocabulary

namespace ApiPages

open Node Outcome

namespace Context

-- The text of a comment that is rendered at its place.
def commentTexts (comment : Option Comment) : List String := comment.toList.map (·.body)

-- The comments of the rows of a table.
def tableTexts (members : List Declaration) : List String :=
  members.flatMap fun member => commentTexts member.documentation

def parameterTexts (d : Declaration) : List String :=
  (d.signatures.filter (!·.parameters.isEmpty)).flatMap fun s => tableTexts s.parameters

def templateTexts (d : Declaration) : List String :=
  (d.signatures.filter (·.typeParameters.any (·.comment.isSome))).flatMap fun s =>
    tableTexts s.typeParameters

-- What is said of the result, when there is one.
def returnTexts (d : Declaration) : List String :=
  match (d.signatures.head?.bind (·.type)).filter fun type => type.name? ≠ some voidName with
  | some _ => d.documentation.toList.map (·.returns)
  | none => []

def memberTexts (member : Declaration) : List String :=
  commentTexts member.documentation ++ (parameterTexts member ++
    (templateTexts member ++ returnTexts member))

-- The members that have sections.
def membersTexts (d : Declaration) : List String :=
  (d.children.filter Declaration.isVisible).flatMap memberTexts

def constructorTexts (ctx : Context) (d : Declaration) : List String :=
  if ctx.tables.hideConstructor.contains d.name then []
  else (d.children.find? isConstructor).toList.flatMap parameterTexts

def classTexts (ctx : Context) (d : Declaration) : List String :=
  commentTexts d.comment ++ (ctx.constructorTexts d ++ membersTexts d)

def functionTexts (d : Declaration) : List String :=
  commentTexts (headComment d) ++ (parameterTexts d ++ (templateTexts d ++
    (returnTexts d ++ membersTexts d)))

-- The fields of an object stand in a table, after those of its base.
def bodyTexts (ctx : Context) : Option TypeExpr → List String
  | some (.shape d) => if isDocumented d.children then tableTexts d.children else []
  | some (.intersection (base :: .shape d :: _)) =>
    if isDocumented d.children then
      tableTexts (((ctx.baseChildren base).toOption).getD [] ++ d.children)
    else []
  | _ => []

def symbolTexts (ctx : Context) (d : Declaration) : List String :=
  if d.signatures.isEmpty then commentTexts d.comment ++ ctx.bodyTexts d.type else functionTexts d

-- The texts that are rendered for a page.
def pageTexts (ctx : Context) (ds : List Declaration) : List String :=
  (ds.filter ctx.showsClass).flatMap ctx.classTexts ++
    Group.all.flatMap fun group => (ds.filter (ctx.showsIn group)).flatMap ctx.symbolTexts

end Context

-- The elements that headings, lines, tables and sentences are written with.
def fragmentTags : List String :=
  ["a", "code", "h1", "h2", "p", "span", "table", "td", "th", "tr"]

-- Every element of the nodes is one of these or comes out of the rendering of one of the texts.
def MadeOf (ctx : Context) (texts : List String) (nodes : List Node) : Prop :=
  ∀ e ∈ elementsIn nodes, e.tag ∈ fragmentTags ∨
    ∃ text ∈ texts, e ∈ elementsIn (Prose.render ctx.style text)

namespace MadeOf

variable {ctx : Context} {texts others : List String} {nodes rest : List Node}

theorem mono (h : MadeOf ctx texts nodes) (hsub : ∀ text ∈ texts, text ∈ others) :
    MadeOf ctx others nodes :=
  fun e he => (h e he).imp id fun ⟨said, hm, ht⟩ => ⟨said, hsub said hm, ht⟩

theorem nil : MadeOf ctx texts [] := fun _ he => absurd he List.not_mem_nil

theorem append (h : MadeOf ctx texts nodes) (hr : MadeOf ctx texts rest) :
    MadeOf ctx texts (nodes ++ rest) := by
  intro e he
  rw [elementsIn_append] at he
  exact (List.mem_append.mp he).elim (h e) (hr e)

theorem join (h : MadeOf ctx texts nodes) (hr : MadeOf ctx others rest) :
    MadeOf ctx (texts ++ others) (nodes ++ rest) :=
  (h.mono fun _ => List.mem_append_left _).append (hr.mono fun _ => List.mem_append_right _)

theorem text (s : String) (h : MadeOf ctx texts nodes) : MadeOf ctx texts (.text s :: nodes) := h

theorem element {e : Element} (htag : e.tag ∈ fragmentTags) (hinner : MadeOf ctx texts e.children)
    (h : MadeOf ctx texts nodes) : MadeOf ctx texts (.element e :: nodes) := by
  intro inner hm
  rw [elementsIn_cons, elements_element] at hm
  rcases List.mem_append.mp hm with hm | hm
  · rcases List.mem_cons.mp hm with rfl | hm
    · exact .inl htag
    · exact hinner inner hm
  · exact h inner hm

theorem tag {name : String} (htag : name ∈ fragmentTags) (hinner : MadeOf ctx texts nodes)
    (h : MadeOf ctx texts rest) : MadeOf ctx texts (.tag name nodes :: rest) :=
  element htag hinner h

theorem bareCode (hinner : MadeOf ctx texts nodes) (h : MadeOf ctx texts rest) :
    MadeOf ctx texts (.bareCode nodes :: rest) :=
  element (by simp [fragmentTags]) hinner h

theorem singleton {node : Node} (h : MadeOf ctx texts [node]) (hr : MadeOf ctx texts rest) :
    MadeOf ctx texts (node :: rest) := append h hr

-- Several nodes, each made of its own texts.
theorem flatMap {α : Type} {items : List α} {f : α → List String} {results : List Node}
    (h : List.Forall₂ (fun a node => MadeOf ctx (f a) [node]) items results) :
    MadeOf ctx (items.flatMap f) results := by
  induction h with
  | nil => exact nil
  | cons hfirst _ ih => exact hfirst.join ih

theorem firstBlockChildren (h : MadeOf ctx texts nodes) :
    MadeOf ctx texts (firstBlockChildren nodes) := by
  induction nodes with
  | nil => exact nil
  | cons node rest ih =>
      cases node with
      | text s => exact ih h
      | element e =>
          intro inner hm
          apply h
          rw [elementsIn_cons, elements_element]
          exact List.mem_append_left _ (List.mem_cons_of_mem _ hm)

end MadeOf

-- The lines of types are links and marked texts.
theorem AreTypeNodes.madeOf {ctx : Context} {nodes : List Node} (h : AreTypeNodes ctx nodes)
    {texts : List String} : MadeOf ctx texts nodes := by
  intro e he
  have hnode := h.element he
  generalize hsame : Node.element e = node at hnode
  cases hnode with
  | text s => cases hsame
  | marked s name _ => cases hsame; exact .inl (by simp [fragmentTags])
  | link name _ _ => cases hsame; exact .inl (by simp [fragmentTags])

namespace Context

variable {ctx : Context} {d : Declaration} {node : Node} {nodes : List Node} {texts : List String}

theorem madeOf_comment (comment : Option Comment) :
    MadeOf ctx (commentTexts comment) (ctx.comment comment) := by
  cases comment with
  | none => exact .nil
  | some comment => exact fun e he => .inr ⟨comment.body, List.mem_singleton.mpr rfl, he⟩

theorem madeOf_typeLine {type : Option TypeExpr} (h : ctx.typeLine type = .ok nodes) :
    MadeOf ctx texts nodes := by
  cases type with
  | none =>
      cases h
      exact .nil
  | some type =>
      simp only [typeLine, bind_eq_ok_iff, pure_eq_ok_iff] at h
      obtain ⟨line, hline, rfl⟩ := h
      have htype : MadeOf ctx texts line := (areTypeNodes_type hline).madeOf
      exact .tag (by decide) (.text _ (.bareCode htype (.text _ .nil))) .nil

theorem madeOf_parents {types : List TypeExpr} (h : ctx.parents types = .ok nodes) :
    MadeOf ctx texts nodes := by
  cases types with
  | nil =>
      cases h
      exact .nil
  | cons parent rest =>
      simp only [parents, bind_eq_ok_iff, pure_eq_ok_iff] at h
      obtain ⟨name, -, rfl⟩ := h
      refine .tag (by decide) (.text _ (.singleton ?_ (.text _ .nil))) .nil
      split
      · exact .tag (by decide) (.text _ .nil) .nil
      · split <;> exact .element (by simp [fragmentTags]) (.text _ .nil) .nil

theorem madeOf_memberType {member : Declaration} (h : ctx.memberType member = .ok nodes) :
    MadeOf ctx texts nodes :=
  (areTypeNodes_memberType h).madeOf

theorem madeOf_nameCell (d : Declaration) : MadeOf ctx texts [nameCell d] := by
  refine .tag (by decide) (.tag (by decide) (.text _ .nil) ?_) .nil
  split
  · exact .text _ (.element (by simp [fragmentTags]) (.text _ .nil) .nil)
  · exact .text _ .nil

theorem madeOf_memberRow {described : Bool} (h : ctx.memberRow described d = .ok node) :
    MadeOf ctx (commentTexts d.documentation) [node] := by
  obtain ⟨type, htype, rfl⟩ := memberRow_parts h
  refine .tag (by decide) (.singleton (madeOf_nameCell d) (.tag (by decide)
    (.bareCode (madeOf_memberType htype) .nil) ?_)) .nil
  split
  · exact .tag (by decide) (madeOf_comment d.documentation).firstBlockChildren .nil
  · exact .text _ .nil

theorem madeOf_headerRow (label : String) (described : Bool) :
    MadeOf ctx texts [headerRow label described] := by
  have hcell : ∀ label, MadeOf ctx texts [heading label] := fun label =>
    .tag (by decide) (.text _ .nil) .nil
  refine .tag (by decide) (.singleton (hcell label) (.singleton (hcell "Type") ?_)) .nil
  split
  · exact hcell "Description"
  · exact .text _ .nil

theorem madeOf_table {label : String} {members : List Declaration}
    (h : ctx.table label members = .ok node) : MadeOf ctx (tableTexts members) [node] := by
  obtain ⟨rows, rfl, hrows⟩ := table_parts h
  have hbody : MadeOf ctx (tableTexts members) rows :=
    .flatMap (hrows.imp fun _ _ => madeOf_memberRow)
  exact .tag (by decide) (.singleton (madeOf_headerRow _ _) hbody) .nil

theorem madeOf_tables {α : Type} {label : String} {f : α → List Declaration} {items : List α}
    (h : items.mapM (fun a => ctx.table label (f a)) = .ok nodes) :
    MadeOf ctx (items.flatMap fun a => tableTexts (f a)) nodes :=
  .flatMap ((mapM_eq_ok_iff.mp h).imp fun _ _ => madeOf_table)

theorem madeOf_parameterTables (h : ctx.parameterTables d = .ok nodes) :
    MadeOf ctx (parameterTexts d) nodes := madeOf_tables h

theorem madeOf_templateTables (h : ctx.templateTables d = .ok nodes) :
    MadeOf ctx (templateTexts d) nodes := by
  unfold templateTables at h
  unfold templateTexts
  split at h
  · cases h
    exact .nil
  · simp only [bind_eq_ok_iff, pure_eq_ok_iff] at h
    obtain ⟨tables, htables, rfl⟩ := h
    exact .tag (by decide) (.text _ .nil) (madeOf_tables htables)

theorem madeOf_returnLine (h : ctx.returnLine d = .ok nodes) :
    MadeOf ctx (returnTexts d) nodes := by
  unfold returnLine at h
  split at h
  · cases h
    exact .nil
  · rename_i first rest hsignatures
    split at h
    · cases h
      exact .nil
    · rename_i type htype
      split at h
      · cases h
        exact .nil
      · rename_i hvoid
        simp only [bind_eq_ok_iff, pure_eq_ok_iff] at h
        obtain ⟨line, hline, rfl⟩ := h
        have htexts : returnTexts d = d.documentation.toList.map (·.returns) := by
          simp [returnTexts, hsignatures, htype, Option.filter, hvoid]
        rw [htexts]
        have htype : MadeOf ctx (d.documentation.toList.map (·.returns)) line :=
          (areTypeNodes_type hline).madeOf
        refine .tag (by decide) (.text _ (.bareCode htype (.text _ ?_))) .nil
        apply MadeOf.firstBlockChildren
        cases d.documentation with
        | none => exact .nil
        | some comment => exact fun e he => .inr ⟨comment.returns, List.mem_singleton.mpr rfl, he⟩

theorem madeOf_constructorTables (h : ctx.constructorTables d = .ok nodes) :
    MadeOf ctx (ctx.constructorTexts d) nodes := by
  unfold constructorTables at h
  unfold constructorTexts
  split at h
  · rename_i found hfound
    split at h
    · cases h
      exact .nil
    · rename_i hshown
      rw [if_neg hshown, hfound, Option.toList_some, List.flatMap_singleton]
      exact madeOf_parameterTables h
  · cases h
    exact .nil

theorem madeOf_baseLine {base : TypeExpr} (h : ctx.baseLine base = .ok nodes) :
    MadeOf ctx texts nodes := by
  unfold baseLine at h
  split at h
  · simp only [bind_eq_ok_iff, pure_eq_ok_iff] at h
    obtain ⟨line, hline, rfl⟩ := h
    exact .tag (by decide) (.text _ ((areTypeNodes_type hline).madeOf.append (.text _ .nil))) .nil
  · cases h
    exact .nil

theorem madeOf_variableBody {type : Option TypeExpr} (h : ctx.variableBody type = .ok nodes) :
    MadeOf ctx (ctx.bodyTexts type) nodes := by
  unfold variableBody at h
  split at h
  · rename_i own
    split at h
    · rename_i hdocumented
      simp only [bind_eq_ok_iff, pure_eq_ok_iff] at h
      obtain ⟨table, htable, rfl⟩ := h
      rw [bodyTexts, if_pos hdocumented]
      exact madeOf_table htable
    · exact madeOf_typeLine h
  · rename_i base own rest
    split at h
    · rename_i hdocumented
      simp only [bind_eq_ok_iff, pure_eq_ok_iff] at h
      obtain ⟨fields, hfields, table, htable, line, hline, rfl⟩ := h
      rw [bodyTexts, if_pos hdocumented, hfields]
      exact (madeOf_baseLine hline).append (madeOf_table htable)
    · exact madeOf_typeLine h
  · exact madeOf_typeLine h

theorem madeOf_heading {slug : String} {title : List Node} (h : MadeOf ctx texts title) :
    MadeOf ctx texts [anchored "h2" slug [Node.bareCode title]] :=
  .element (by simp [fragmentTags]) (.bareCode h .nil) .nil

theorem madeOf_extra (s : String) : MadeOf ctx texts [extra s] :=
  .element (by simp [fragmentTags]) (.text _ .nil) .nil

theorem madeOf_memberTitle (owner separator : String) (member : Declaration) :
    MadeOf ctx texts (memberTitle owner separator member) := by
  refine .singleton (madeOf_extra _) (.text _ ?_)
  split
  · exact madeOf_extra _
  · exact .nil

end Context

end ApiPages
