import ApiPages.Page.Basic
import ApiPages.Proofs.Outcome

namespace ApiPages.Context

open Outcome

variable {ctx : Context} {d : Declaration} {node : Node}

-- The heading of a class, with its anchor and the link to its source.
def classHeading (d : Declaration) (editUrl : Option String) : Node :=
  .element { tag := "h1", children := [.text d.name], slug := some (Text.lower d.name), editUrl }

-- The heading of a symbol; `extras` stand behind its name.
def symbolHeading (d : Declaration) (extras : List Node) : Node :=
  anchored "h2" (Anchor.ofSymbol d.name) [Node.bareCode (.text d.name :: extras)]

-- The comment under the heading of a symbol: that of its first signature if it has signatures, else
-- its own.
def headComment (d : Declaration) : Option Comment :=
  match d.signatures with
  | first :: _ => first.comment
  | [] => d.comment

theorem memberRow_parts {described : Bool} (h : ctx.memberRow described d = .ok node) :
    ∃ type, ctx.memberType d = .ok type ∧
      node = row [nameCell d, Node.tag "td" [Node.bareCode type],
        if described then ctx.descriptionCell d else Node.empty] := by
  simp only [memberRow, bind_eq_ok_iff, pure_eq_ok_iff] at h
  obtain ⟨type, htype, rfl⟩ := h
  exact ⟨type, htype, rfl⟩

theorem table_parts {label : String} {members : List Declaration}
    (h : ctx.table label members = .ok node) :
    ∃ rows, node = Node.tag "table"
        (headerRow label (members.any (·.documentation.isSome)) :: rows) ∧
      List.Forall₂ (fun member row =>
        ctx.memberRow (members.any (·.documentation.isSome)) member = .ok row) members rows := by
  simp only [table, bind_eq_ok_iff, pure_eq_ok_iff] at h
  obtain ⟨rows, hrows, rfl⟩ := h
  exact ⟨rows, rfl, mapM_eq_ok_iff.mp hrows⟩

theorem classSection_parts (h : ctx.classSection d = .ok node) :
    ∃ editUrl parents parameters statics instances seen rest,
      ctx.parents d.extendedTypes = .ok parents ∧
      ctx.constructorTables d = .ok parameters ∧
      ctx.memberSections d.name (d.children.filter (·.flags.isStatic)) staticMark
        [Text.lower d.name] = .ok (statics, seen) ∧
      ctx.memberSections d.name (d.children.filter (!·.flags.isStatic)) instanceMark seen =
        .ok (instances, rest) ∧
      node = Node.tag "article" (classHeading d editUrl ::
        (parents ++ ctx.comment d.comment ++ parameters ++ statics ++ instances)) := by
  simp only [classSection, bind_eq_ok_iff, pure_eq_ok_iff, Prod.exists] at h
  obtain ⟨parameters, hparameters, editUrl, -, parents, hparents, statics, seen, hstatics,
    instances, rest, hinstances, rfl⟩ := h
  exact ⟨editUrl, parents, parameters, statics, instances, seen, rest, hparents, hparameters,
    hstatics, hinstances, rfl⟩

theorem functionSection_parts (h : ctx.functionSection d = .ok node) :
    ∃ parameters templates returned members seen,
      ctx.parameterTables d = .ok parameters ∧
      ctx.templateTables d = .ok templates ∧
      ctx.returnLine d = .ok returned ∧
      ctx.memberSections d.name d.children instanceMark [Anchor.ofSymbol d.name] =
        .ok (members, seen) ∧
      node = Node.tag "section" (symbolHeading d [extra d.argumentsText] ::
        (ctx.comment (headComment d) ++ parameters ++ templates ++ returned ++ members)) := by
  simp only [functionSection, bind_eq_ok_iff, pure_eq_ok_iff, Prod.exists] at h
  obtain ⟨parameters, hparameters, templates, htemplates, returned, hreturned, members, seen,
    hmembers, rfl⟩ := h
  exact ⟨parameters, templates, returned, members, seen, hparameters, htemplates, hreturned,
    hmembers, rfl⟩

theorem variableSection_parts (h : ctx.variableSection d = .ok node) :
    ∃ body, ctx.variableBody d.type = .ok body ∧
      node = Node.tag "section" (symbolHeading d [] :: (ctx.comment d.comment ++ body)) := by
  simp only [variableSection, bind_eq_ok_iff, pure_eq_ok_iff] at h
  obtain ⟨body, hbody, rfl⟩ := h
  exact ⟨body, hbody, rfl⟩

theorem memberSection_parts {owner separator slug : String}
    (h : ctx.memberSection owner separator slug d = .ok node) :
    ∃ type parameters templates returned,
      ctx.typeLine d.type = .ok type ∧
      ctx.parameterTables d = .ok parameters ∧
      ctx.templateTables d = .ok templates ∧
      ctx.returnLine d = .ok returned ∧
      node = Node.tag "section"
        (anchored "h2" slug [Node.bareCode (memberTitle owner separator d)] ::
          (ctx.comment d.documentation ++ type ++ parameters ++ templates ++ returned)) := by
  simp only [memberSection, bind_eq_ok_iff, pure_eq_ok_iff] at h
  obtain ⟨type, htype, parameters, hparameters, templates, htemplates, returned, hreturned,
    rfl⟩ := h
  exact ⟨type, parameters, templates, returned, htype, hparameters, htemplates, hreturned, rfl⟩

-- The anchor of the first member is reserved before those of the other ones.
theorem sectionsFor_parts {owner separator : String} {seen after : List String}
    {member : Declaration} {rest : List Declaration} {nodes : List Node}
    (h : ctx.sectionsFor owner separator seen (member :: rest) = .ok (nodes, after)) :
    ∃ first others,
      ctx.memberSection owner separator
        (Anchor.unique (Anchor.ofMember owner member.name separator) seen) member = .ok first ∧
      ctx.sectionsFor owner separator
        (Anchor.unique (Anchor.ofMember owner member.name separator) seen :: seen) rest =
          .ok (others, after) ∧
      nodes = first :: others := by
  simp only [sectionsFor, Anchor.run_reserve, bind_eq_ok_iff, pure_eq_ok_iff, Prod.exists,
    Prod.mk.injEq] at h
  obtain ⟨first, hfirst, others, after, hothers, rfl, rfl⟩ := h
  exact ⟨first, others, hfirst, hothers, rfl⟩

theorem renderPage_parts {ds : List Declaration} {page : Page} (h : ctx.renderPage ds = .ok page) :
    ∃ classes functions variables_ types,
      ctx.classArticles (ctx.documented ds) = .ok classes ∧
      ctx.groupArticle (ctx.documented ds) .functions = .ok functions ∧
      ctx.groupArticle (ctx.documented ds) .variables_ = .ok variables_ ∧
      ctx.groupArticle (ctx.documented ds) .types = .ok types ∧
      page.tree = classes ++ functions ++ variables_ ++ types := by
  simp only [renderPage, tree, Group.all, List.mapM_cons, List.mapM_nil, bind_eq_ok_iff,
    pure_eq_ok_iff] at h
  obtain ⟨_, ⟨classes, hclasses, _, ⟨functions, hfunctions, _, ⟨variables_, hvariables, _,
    ⟨types, htypes, _, rfl, rfl⟩, rfl⟩, rfl⟩, rfl⟩, rfl⟩ := h
  exact ⟨classes, functions, variables_, types, hclasses, hfunctions, hvariables, htypes,
    by simp⟩

-- Every section of a symbol opens with the heading of the symbol.
theorem symbolSection_heading (h : ctx.symbolSection d = .ok node) :
    ∃ extras rest, node = Node.tag "section" (symbolHeading d extras :: rest) := by
  unfold symbolSection at h
  split at h
  · obtain ⟨body, -, rfl⟩ := variableSection_parts h
    exact ⟨_, _, rfl⟩
  · obtain ⟨parameters, templates, returned, members, seen, -, -, -, -, rfl⟩ :=
      functionSection_parts h
    exact ⟨_, _, rfl⟩

end ApiPages.Context
