import ApiPages.Proofs.Page.Arrangement

namespace ApiPages.Context

open Outcome

variable {ctx : Context} {d : Declaration} {node : Node} {nodes : List Node}
  {owner separator : String}

-- The result of a symbol as a comment describes it.
def resultDescription (ctx : Context) (comment : Option Comment) : List Node :=
  Node.firstBlockChildren (comment.elim [] fun comment => Prose.render ctx.style comment.returns)

-- A sentence about what a symbol gives.
def returnSentence (type description : List Node) : Node :=
  Node.tag "p" (.text "Returns " :: Node.bareCode type :: .text ". " :: description)

-- What is said about the result of a symbol, if anything, is described by its documentation.
def IsReturnLine (ctx : Context) (d : Declaration) (nodes : List Node) : Prop :=
  nodes = [] ∨ ∃ type, nodes = [returnSentence type (ctx.resultDescription d.documentation)]

theorem returnLine_described (h : ctx.returnLine d = .ok nodes) : ctx.IsReturnLine d nodes := by
  unfold returnLine at h
  split at h
  · cases h
    exact .inl rfl
  · split at h
    · cases h
      exact .inl rfl
    · split at h
      · cases h
        exact .inl rfl
      · simp only [bind_eq_ok_iff, pure_eq_ok_iff] at h
        obtain ⟨type, -, rfl⟩ := h
        refine .inr ⟨type, ?_⟩
        cases d.documentation <;> rfl

-- The section of a member opens with its documentation, which also describes the result.
def IsDocumentedMember (ctx : Context) (owner separator : String) (member : Declaration)
    (section_ : Node) : Prop :=
  ∃ slug details returned, ctx.IsReturnLine member returned ∧
    section_ = Node.tag "section"
      (anchored "h2" slug [Node.bareCode (memberTitle owner separator member)] ::
        (ctx.comment member.documentation ++ details ++ returned))

theorem memberSection_documented {slug : String}
    (h : ctx.memberSection owner separator slug d = .ok node) :
    ctx.IsDocumentedMember owner separator d node := by
  obtain ⟨type, parameters, templates, returned, -, -, -, hreturned, rfl⟩ := memberSection_parts h
  exact ⟨slug, type ++ parameters ++ templates, returned, returnLine_described hreturned,
    by simp only [List.append_assoc]⟩

theorem sectionsFor_documented {members : List Declaration} {seen after : List String}
    (h : ctx.sectionsFor owner separator seen members = .ok (nodes, after)) :
    List.Forall₂ (ctx.IsDocumentedMember owner separator) members nodes := by
  induction members generalizing seen nodes with
  | nil =>
      cases h
      exact .nil
  | cons member rest ih =>
      obtain ⟨first, others, hfirst, hothers, rfl⟩ := sectionsFor_parts h
      exact .cons (memberSection_documented hfirst) (ih hothers)

-- The comment under the heading is the documentation unless that is another comment than the one of
-- the first signature.
theorem headComment_eq_documentation_iff (d : Declaration) :
    headComment d = d.documentation ↔
      d.signatures = [] ∨ d.comment = none ∨ d.comment = d.signatures.head?.bind (·.comment) := by
  unfold headComment Declaration.documentation
  cases d.signatures with
  | nil => cases d.comment <;> simp
  | cons first rest => cases d.comment <;> simp [eq_comm]

-- The blocks of one comment stand right under the heading of a symbol, and the result is described
-- by the documentation. The two are the same comment unless the symbol has one of its own besides
-- that of its first signature.
theorem symbolSection_documentation (h : ctx.symbolSection d = .ok node) :
    (headComment d = d.documentation ↔
      d.signatures = [] ∨ d.comment = none ∨ d.comment = d.signatures.head?.bind (·.comment)) ∧
    ((d.signatures = [] ∧ ∃ body, ctx.variableBody d.type = .ok body ∧
        node = Node.tag "section" (symbolHeading d [] :: (ctx.comment (headComment d) ++ body))) ∨
      (d.signatures ≠ [] ∧ ∃ parameters templates returned members,
        ctx.parameterTables d = .ok parameters ∧ ctx.templateTables d = .ok templates ∧
        ctx.IsReturnLine d returned ∧
        List.Forall₂ (ctx.IsDocumentedMember d.name instanceMark) (visibleMembers d.children)
          members ∧
        node = Node.tag "section" (symbolHeading d [extra d.argumentsText] ::
          (ctx.comment (headComment d) ++ parameters ++ templates ++ returned ++ members)))) := by
  refine ⟨headComment_eq_documentation_iff d, ?_⟩
  unfold symbolSection at h
  split at h
  · rename_i hnone
    have hsignatures : d.signatures = [] := List.isEmpty_iff.mp hnone
    obtain ⟨body, hbody, rfl⟩ := variableSection_parts h
    have hcomment : headComment d = d.comment := by rw [headComment, hsignatures]
    rw [hcomment]
    exact .inl ⟨hsignatures, body, hbody, rfl⟩
  · rename_i hsome
    obtain ⟨parameters, templates, returned, members, seen, hparameters, htemplates, hreturned,
      hmembers, rfl⟩ := functionSection_parts h
    exact .inr ⟨fun hnone => hsome (List.isEmpty_iff.mpr hnone), parameters, templates, returned,
      members, hparameters, htemplates, returnLine_described hreturned,
      sectionsFor_documented hmembers, rfl⟩

-- A function whose signature is documented, and one that is documented itself but has a signature.
def writeFile : Declaration :=
  { name := "write", kind := some .function,
    signatures := [{ type := some (.intrinsic "string"),
                     comment := some { shortText := "Writes.", returns := "The path." } }] }

def readFile : Declaration :=
  { name := "read", kind := some .function, comment := some { shortText := "Reads." },
    signatures := [{}] }

theorem symbolSection_documentation_writeFile :
    ∃ node parameters templates returned members,
      sampleContext.symbolSection writeFile = .ok node ∧
      headComment writeFile = writeFile.documentation ∧
      sampleContext.IsReturnLine writeFile returned ∧
      node = Node.tag "section" (symbolHeading writeFile [extra "()"] ::
        (sampleContext.comment writeFile.documentation ++ parameters ++ templates ++ returned ++
          members)) := by
  obtain ⟨node, h⟩ : ∃ node, sampleContext.symbolSection writeFile = .ok node :=
    exists_eq_ok_of_isSome (by decide +kernel)
  obtain ⟨hhead, ⟨hnone, -⟩ | ⟨-, parameters, templates, returned, members, -, -, hreturned, -,
    hnode⟩⟩ := symbolSection_documentation h
  · cases hnone
  · have hcomment := hhead.mpr (.inr (.inl rfl))
    rw [hcomment] at hnode
    exact ⟨node, parameters, templates, returned, members, h, hcomment, hreturned, hnode⟩

-- The documentation of the other one is nowhere in its section.
theorem symbolSection_documentation_readFile :
    sampleContext.symbolSection readFile =
        .ok (Node.tag "section" [symbolHeading readFile [extra "()"]]) ∧
      Node.toTexts (sampleContext.comment readFile.documentation) = "Reads." ∧
      ¬ ∃ rest, sampleContext.symbolSection readFile =
        .ok (Node.tag "section" (symbolHeading readFile [extra "()"] ::
          (sampleContext.comment readFile.documentation ++ rest))) := by
  have hsection : sampleContext.symbolSection readFile =
      .ok (Node.tag "section" [symbolHeading readFile [extra "()"]]) := by cbv
  have htext : Node.toTexts (sampleContext.comment readFile.documentation) = "Reads." := by
    decide +kernel
  refine ⟨hsection, htext, ?_⟩
  rintro ⟨rest, h⟩
  simp only [hsection, Node.tag, Except.ok.injEq, Node.element.injEq, Element.mk.injEq,
    List.cons.injEq, List.nil_eq, List.append_eq_nil_iff] at h
  obtain ⟨-, -, ⟨-, hnone, -⟩, -⟩ := h
  rw [hnone] at htext
  exact absurd htext (by decide)

end ApiPages.Context
