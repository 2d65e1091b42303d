import ApiPages.Proofs.Document.Texts
import ApiPages.Proofs.Page.Arrangement

namespace ApiPages

-- A declaration with a comment of its own or one of its first signature.
def Declaration.IsDocumented (d : Declaration) : Prop :=
  d.comment.isSome = true ∨ ∃ first ∈ d.signatures.head?, first.comment.isSome = true

theorem Declaration.isSome_documentation_iff (d : Declaration) :
    d.documentation.isSome = true ↔ d.IsDocumented := by
  unfold documentation IsDocumented
  cases d.comment <;> cases d.signatures <;> simp

namespace Context

variable {ctx : Context} {member : Declaration} {members : List Declaration} {node : Node}
  {label : String} {described : Bool}

-- The cells that tell a member by its name, its type and, in a table that describes its members, what
-- is said about it.
structure AreCellsOf (ctx : Context) (described : Bool) (member : Declaration)
    (name type description : Node) : Prop where
  named : (∃ children, name = Node.tag "td" children) ∧
    name.toText = member.name ++ if member.flags.isOptional then " ?" else ""
  typed : ∃ nodes, ctx.memberType member = .ok nodes ∧
    type = Node.tag "td" [Node.bareCode nodes]
  withDescription : described = true → ∃ children, description = Node.tag "td" children ∧
    (children ≠ [] → member.IsDocumented)
  withoutDescription : described = false → description = .text ""

def IsRowOf (ctx : Context) (described : Bool) (member : Declaration) (node : Node) : Prop :=
  ∃ name type description, node = Node.tag "tr" [name, type, description] ∧
    ctx.AreCellsOf described member name type description

theorem toText_nameCell (member : Declaration) :
    (nameCell member).toText = member.name ++ if member.flags.isOptional then " ?" else "" := by
  have hcode : (Node.tag "code" [.text member.name]).toText = member.name := by
    simp [Node.tag, Node.toText]
  have hmark : Node.toTexts optionalMark = " ?" := by decide
  have hempty : Node.toTexts [Node.empty] = "" := by decide
  rw [nameCell, Node.tag, Node.toText, Node.toTexts_cons, hcode]
  split
  · rw [hmark]
  · rw [hempty]

-- Without documentation there is nothing to describe a member with.
theorem documented_of_description
    (h : Node.firstBlockChildren (ctx.comment member.documentation) ≠ []) :
    member.IsDocumented := by
  rw [← member.isSome_documentation_iff]
  cases hdocumentation : member.documentation with
  | none =>
      rw [hdocumentation] at h
      exact absurd rfl h
  | some comment => rfl

theorem isRowOf_memberRow (h : ctx.memberRow described member = .ok node) :
    ctx.IsRowOf described member node := by
  obtain ⟨nodes, htype, rfl⟩ := memberRow_parts h
  refine ⟨_, _, _, rfl, ⟨⟨_, rfl⟩, toText_nameCell member⟩, ⟨nodes, htype, rfl⟩, ?_, ?_⟩
  · rintro rfl
    exact ⟨_, rfl, documented_of_description⟩
  · rintro rfl
    rfl

theorem table_rows (h : ctx.table label members = .ok node) :
    ∃ described rows, (described = true ↔ ∃ member ∈ members, member.IsDocumented) ∧
      node = Node.tag "table"
        (Node.tag "tr" [Node.tag "th" [.text label], Node.tag "th" [.text "Type"],
          if described then Node.tag "th" [.text "Description"] else .text ""] :: rows) ∧
      List.Forall₂ (ctx.IsRowOf described) members rows := by
  obtain ⟨rows, rfl, hrows⟩ := table_parts h
  refine ⟨members.any (·.documentation.isSome), rows, ?_, rfl, hrows.imp fun member row hrow => ?_⟩
  · simp only [List.any_eq_true, Declaration.isSome_documentation_iff]
  · exact isRowOf_memberRow hrow

-- An optional member without a word, one that is documented, and one by its first signature.
def mixedMembers : List Declaration :=
  [{ name := "port", type := some (.intrinsic "number"), flags := { isOptional := true } },
   { name := "host", type := some (.intrinsic "string"), comment := some { shortText := "Where." } },
   { name := "open", signatures := [{ comment := some { shortText := "Opens." } }] }]

theorem table_rows_mixedMembers :
    ∃ rows, sampleContext.table "Option" mixedMembers = .ok (Node.tag "table"
        (Node.tag "tr" [Node.tag "th" [.text "Option"], Node.tag "th" [.text "Type"],
          Node.tag "th" [.text "Description"]] :: rows)) ∧
      rows.length = 3 ∧ List.Forall₂ (sampleContext.IsRowOf true) mixedMembers rows := by
  obtain ⟨node, h⟩ : ∃ node, sampleContext.table "Option" mixedMembers = .ok node :=
    Outcome.exists_eq_ok_of_isSome (by decide +kernel)
  obtain ⟨described, rows, hdescribed, rfl, hrows⟩ := table_rows h
  have hsome : described = true := by
    rw [hdescribed]
    exact ⟨_, List.mem_cons_of_mem _ List.mem_cons_self, .inl rfl⟩
  subst hsome
  exact ⟨rows, h, hrows.length_eq.symm, hrows⟩

end Context

end ApiPages
