import ApiPages.Proofs.Page.Arrangement

namespace ApiPages

def TypeExpr.shape? : TypeExpr → Option Declaration
  | .shape d => some d
  | _ => none

-- The members of an intersection; any other type is its own and only member.
def TypeExpr.members : TypeExpr → List TypeExpr
  | .intersection members => members
  | type => [type]

namespace Context

open Outcome

variable {ctx : Context} {d own field : Declaration} {type : TypeExpr} {node table : Node}
  {body : List Node} {label : String} {members : List Declaration}

-- A row names a field and describes it with the first block of its documentation.
def ShowsField (ctx : Context) (field : Declaration) (node : Node) : Prop :=
  ∃ type, node = row [nameCell field, Node.tag "td" [Node.bareCode type], ctx.descriptionCell field]

-- A table that has such a row.
def HasFieldRow (ctx : Context) (field : Declaration) (node : Node) : Prop :=
  ∃ header rows, node = Node.tag "table" (header :: rows) ∧ ∃ row ∈ rows, ctx.ShowsField field row

-- A table describes its members as soon as one of them is documented.
theorem hasFieldRow_of_table (h : ctx.table label members = .ok table) (hfield : field ∈ members)
    (hdocumented : field.documentation.isSome = true) : ctx.HasFieldRow field table := by
  have hdescribed : (members.any fun member => member.documentation.isSome) = true :=
    List.any_eq_true.mpr ⟨field, hfield, hdocumented⟩
  obtain ⟨rows, rfl, hrows⟩ := table_parts h
  obtain ⟨row, hrow, hmember⟩ := exists_of_mem_forall₂ hrows hfield
  rw [hdescribed] at hmember
  obtain ⟨type, -, hcells⟩ := memberRow_parts hmember
  exact ⟨_, rows, rfl, row, hrow, type, hcells⟩

-- A table has no rows but those of its members.
theorem exists_of_hasFieldRow (h : ctx.table label members = .ok table)
    (hfield : ctx.HasFieldRow field table) : ∃ member ∈ members, nameCell member = nameCell field := by
  obtain ⟨rows, rfl, hrows⟩ := table_parts h
  obtain ⟨header, rows', htable, row, hrow, type, hcells⟩ := hfield
  obtain ⟨-, rfl⟩ : headerRow label _ = header ∧ rows = rows' := by simpa [Node.tag] using htable
  obtain ⟨member, hm, hmember⟩ := exists_of_mem_forall₂ hrows.flip hrow
  obtain ⟨type', -, hrow'⟩ := memberRow_parts hmember
  refine ⟨member, hm, ?_⟩
  have hsame := hrow'.symm.trans hcells
  simp only [Context.row, Node.tag, Node.element.injEq, Element.mk.injEq, List.cons.injEq] at hsame
  obtain ⟨-, -, ⟨hname, -⟩, -⟩ := hsame
  exact hname

-- A type whose fields may stand in a table, and the object that comes last in it.
inductive ListsFields : TypeExpr → Declaration → Prop
  | shape (own : Declaration) : ListsFields (.shape own) own
  | intersection (base : TypeExpr) (own : Declaration) (rest : List TypeExpr) :
      ListsFields (.intersection (base :: .shape own :: rest)) own

-- The fields that such a type has in its table.
def tableFields (ctx : Context) : TypeExpr → Fields
  | .shape own => .ok own.children
  | .intersection (base :: .shape own :: _) => do return (← ctx.baseChildren base) ++ own.children
  | _ => .ok []

-- The sentence in front of the table.
def tableIntroduction (ctx : Context) : TypeExpr → Rendered
  | .intersection (base :: _) => ctx.baseLine base
  | _ => .ok []

theorem variableBody_of_listsFields (hlists : ListsFields type own)
    (h : ctx.variableBody (some type) = .ok body) :
    (isDocumented own.children = true ∧ ∃ fields introduction table,
      ctx.tableFields type = .ok fields ∧ ctx.tableIntroduction type = .ok introduction ∧
      ctx.table "Property" fields = .ok table ∧ body = introduction ++ [table]) ∨
    (isDocumented own.children = false ∧ ctx.typeLine (some type) = .ok body) := by
  cases hdocumented : isDocumented own.children with
  | false =>
      refine .inr ⟨rfl, ?_⟩
      cases hlists <;> simpa [variableBody, hdocumented] using h
  | true =>
      refine .inl ⟨rfl, ?_⟩
      cases hlists with
      | shape =>
          simp only [variableBody, hdocumented, if_true, bind_eq_ok_iff, pure_eq_ok_iff] at h
          obtain ⟨table, htable, rfl⟩ := h
          exact ⟨own.children, [], table, rfl, rfl, htable, rfl⟩
      | intersection base rest =>
          simp only [variableBody, hdocumented, if_true, bind_eq_ok_iff, pure_eq_ok_iff] at h
          obtain ⟨fields, hfields, table, htable, introduction, hintroduction, rfl⟩ := h
          refine ⟨fields ++ own.children, introduction, table, ?_, hintroduction, htable, rfl⟩
          simp [tableFields, hfields]

-- The fields of the first two members are in the table.
theorem mem_tableFields {fields : List Declaration} {object : Declaration}
    (hlists : ListsFields type own) (h : ctx.tableFields type = .ok fields)
    (hobject : object ∈ (type.members.take 2).filterMap TypeExpr.shape?)
    (hfield : field ∈ object.children) : field ∈ fields := by
  cases hlists with
  | shape =>
      cases h
      simp only [TypeExpr.members, List.take, List.filterMap, TypeExpr.shape?,
        List.mem_singleton] at hobject
      rwa [hobject] at hfield
  | intersection base rest =>
      simp only [tableFields, bind_eq_ok_iff, pure_eq_ok_iff] at h
      obtain ⟨before, hbefore, rfl⟩ := h
      simp only [TypeExpr.members, List.take, List.mem_filterMap, List.mem_cons,
        List.not_mem_nil, or_false] at hobject
      obtain ⟨member, rfl | rfl, hshape⟩ := hobject
      · cases member with
        | shape d =>
            cases hshape
            cases hbefore
            exact List.mem_append_left _ hfield
        | _ => cases hshape
      · cases hshape
        exact List.mem_append_right _ hfield

-- Whether there is a table hangs on the first field of the object that comes last in it. If there is
-- one, the documented fields of the first two members have their rows in it.
theorem variableSection_fields (h : ctx.variableSection d = .ok node) (htype : d.type = some type)
    (hlists : ListsFields type own) :
    (isDocumented own.children = true ∧ ∃ fields introduction table,
      ctx.tableFields type = .ok fields ∧ ctx.tableIntroduction type = .ok introduction ∧
      ctx.table "Property" fields = .ok table ∧
      node = Node.tag "section"
        (symbolHeading d [] :: (ctx.comment d.comment ++ (introduction ++ [table]))) ∧
      ∀ object ∈ (type.members.take 2).filterMap TypeExpr.shape?, ∀ field ∈ object.children,
        field.documentation.isSome = true → ctx.HasFieldRow field table) ∨
    (isDocumented own.children = false ∧ ∃ line, ctx.typeLine (some type) = .ok line ∧
      node = Node.tag "section" (symbolHeading d [] :: (ctx.comment d.comment ++ line))) := by
  obtain ⟨body, hbody, rfl⟩ := variableSection_parts h
  rw [htype] at hbody
  obtain ⟨hdocumented, fields, introduction, table, hfields, hintroduction, htable, rfl⟩ |
    ⟨hdocumented, hline⟩ := variableBody_of_listsFields hlists hbody
  · refine .inl ⟨hdocumented, fields, introduction, table, hfields, hintroduction, htable, rfl, ?_⟩
    intro object hobject field hfield hdoc
    exact hasFieldRow_of_table htable (mem_tableFields hlists hfields hobject hfield) hdoc
  · exact .inr ⟨hdocumented, body, hline, rfl⟩

def sampleField (name : String) (comment : Option Comment) : Declaration :=
  { name, kind := some .property, type := some (.intrinsic "string"), comment }

def serverField : Declaration := sampleField "server" none

def tokenField : Declaration := sampleField "token" (some { shortText := "For the server." })

def retryField : Declaration := sampleField "retry" (some { shortText := "How often." })

def objectType (fields : List Declaration) : TypeExpr :=
  .shape { name := anonymousName, children := fields }

def optionsOf (type : TypeExpr) : Declaration :=
  { name := "options", kind := some .variable_, type := some type }

-- The second object of an intersection comes after the first one, which is documented further on.
def joinedObjects : TypeExpr :=
  .intersection [objectType [serverField, tokenField], objectType [retryField]]

theorem variableSection_fields_joinedObjects :
    ∃ node table, sampleContext.variableSection (optionsOf joinedObjects) = .ok node ∧
      node = Node.tag "section" [symbolHeading (optionsOf joinedObjects) [], table] ∧
      sampleContext.HasFieldRow tokenField table ∧ sampleContext.HasFieldRow retryField table := by
  obtain ⟨node, h⟩ : ∃ node, sampleContext.variableSection (optionsOf joinedObjects) = .ok node :=
    exists_eq_ok_of_isSome (by decide +kernel)
  obtain ⟨-, fields, introduction, table, -, hintroduction, -, hnode, hrows⟩ | ⟨hnone, -⟩ :=
    variableSection_fields h rfl (.intersection _ _ _)
  · cases hintroduction
    refine ⟨node, table, h, hnode, ?_, ?_⟩
    · exact hrows { name := anonymousName, children := [serverField, tokenField] }
        (.head _) tokenField (by simp) rfl
    · exact hrows { name := anonymousName, children := [retryField] }
        (.tail _ (.head _)) retryField (by simp) rfl
  · cases hnone

-- A section that shows a field has a table with its row.
def HasFieldTable (ctx : Context) (field : Declaration) (node : Node) : Prop :=
  ∃ children, node = Node.tag "section" children ∧ ∃ table ∈ children, ctx.HasFieldRow field table

theorem exists_of_hasFieldTable (hcomment : d.comment = none)
    (h : ctx.HasFieldTable field (Node.tag "section"
      (symbolHeading d [] :: (ctx.comment d.comment ++ body)))) :
    ∃ table ∈ body, ctx.HasFieldRow field table := by
  obtain ⟨children, hchildren, table, htable, hrow⟩ := h
  have hnone : ctx.comment d.comment = [] := by rw [hcomment]; rfl
  rw [hnone] at hchildren
  obtain rfl : symbolHeading d [] :: body = children := by simpa [Node.tag] using hchildren
  rcases List.mem_cons.mp htable with rfl | hm
  · obtain ⟨header, rows, hheading, -⟩ := hrow
    simp [symbolHeading, anchored, Node.tag] at hheading
  · exact ⟨table, hm, hrow⟩

theorem not_hasFieldRow_typeLine (h : ctx.typeLine (some type) = .ok body) :
    ∀ line ∈ body, ¬ ctx.HasFieldRow field line := by
  simp only [typeLine, bind_eq_ok_iff, pure_eq_ok_iff] at h
  obtain ⟨nodes, -, rfl⟩ := h
  rintro line hline ⟨header, rows, hrow, -⟩
  rw [List.mem_singleton.mp hline] at hrow
  simp [Node.tag] at hrow

-- The documented field behind one without a comment, and one of the third member.
def hiddenField : TypeExpr := objectType [serverField, tokenField]

def thirdObject : TypeExpr :=
  .intersection [objectType [serverField], objectType [tokenField], objectType [retryField]]

theorem variableSection_fields_leavesOut :
    (∃ node, sampleContext.variableSection (optionsOf hiddenField) = .ok node ∧
      ¬ sampleContext.HasFieldTable tokenField node) ∧
    ∃ node, sampleContext.variableSection (optionsOf thirdObject) = .ok node ∧
      ¬ sampleContext.HasFieldTable retryField node := by
  constructor
  · obtain ⟨node, h⟩ : ∃ node, sampleContext.variableSection (optionsOf hiddenField) = .ok node :=
      exists_eq_ok_of_isSome (by decide +kernel)
    refine ⟨node, h, fun htable => ?_⟩
    obtain ⟨body, hbody, rfl⟩ := variableSection_parts h
    obtain ⟨line, hm, hrow⟩ := exists_of_hasFieldTable rfl htable
    obtain ⟨hsome, -⟩ | ⟨-, hline⟩ := variableBody_of_listsFields (.shape _) hbody
    · cases hsome
    · exact not_hasFieldRow_typeLine hline line hm hrow
  · obtain ⟨node, h⟩ : ∃ node, sampleContext.variableSection (optionsOf thirdObject) = .ok node :=
      exists_eq_ok_of_isSome (by decide +kernel)
    refine ⟨node, h, fun htable => ?_⟩
    obtain ⟨body, hbody, rfl⟩ := variableSection_parts h
    obtain ⟨table, hm, hrow⟩ := exists_of_hasFieldTable rfl htable
    obtain ⟨-, fields, introduction, found, hfields, hintroduction, hfound, rfl⟩ | ⟨hnone, -⟩ :=
      variableBody_of_listsFields (.intersection _ _ _) hbody
    · cases hfields
      cases hintroduction
      rw [List.mem_singleton.mp hm] at hrow
      obtain ⟨member, hmember, hname⟩ := exists_of_hasFieldRow hfound hrow
      have hfields : member = serverField ∨ member = tokenField := by simpa using hmember
      rcases hfields with rfl | rfl <;>
        simp [nameCell, Node.tag, serverField, tokenField, retryField, sampleField] at hname
    · cases hnone

end Context

end ApiPages
