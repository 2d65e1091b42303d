import ApiPages.Proofs.Page.Order
import ApiPages.Proofs.Page.Parts
import Mathlib

namespace ApiPages

-- The kinds of declarations that a group collects.
def Group.kinds : Group → List Kind
  | .functions => [.function]
  | .variables_ => [.variable_]
  | .types => [.typeAlias, .interface]

namespace Context

open Outcome

variable {ctx : Context} {ds : List Declaration} {d : Declaration} {node : Node} {page : Page}

-- A class has an article of its own unless its name is inline.
def showsClass (ctx : Context) (d : Declaration) : Bool :=
  d.kind = some .class_ && !ctx.isInline d.name

-- A group has a section for a declaration of its kinds unless the name is inline, is known as a
-- name only, or is that of a variable to be left out.
def showsIn (ctx : Context) (group : Group) (d : Declaration) : Bool :=
  d.kind.any group.kinds.contains && !ctx.isInline d.name && !ctx.tables.simple.contains d.name &&
    !(group = .variables_ && ctx.tables.excludedVariables.contains d.name)

-- The article of a class is headed by the name of the class.
def IsClassArticle (ctx : Context) (d : Declaration) (article : Node) : Prop :=
  ctx.classSection d = .ok article ∧
    ∃ editUrl rest, article = Node.tag "article" (classHeading d editUrl :: rest)

-- The section of a symbol is headed by the name of the symbol.
def IsSymbolSection (ctx : Context) (d : Declaration) (section_ : Node) : Prop :=
  ctx.symbolSection d = .ok section_ ∧
    ∃ extras rest, section_ = Node.tag "section" (symbolHeading d extras :: rest)

-- An article for each class that is shown, in the order of the names.
def AreClassArticles (ctx : Context) (ds : List Declaration) (articles : List Node) : Prop :=
  ∃ classes, Arranged Declaration.nameKey (ds.filter ctx.showsClass) classes ∧
    List.Forall₂ ctx.IsClassArticle classes articles

-- One article with a section for each member, in the order of the names, or none when the group is
-- empty.
def AreGroupArticles (ctx : Context) (ds : List Declaration) (group : Group)
    (articles : List Node) : Prop :=
  ∃ members, Arranged Declaration.nameKey (ds.filter (ctx.showsIn group)) members ∧
    ((members = [] ∧ articles = []) ∨
      (members ≠ [] ∧ ∃ sections, List.Forall₂ ctx.IsSymbolSection members sections ∧
        articles = [Node.tag "article" (groupTitle group :: sections)]))

theorem filter_documented_class (ctx : Context) (ds : List Declaration) :
    ((ctx.documented ds).filter fun d => d.kind = some .class_) = ds.filter ctx.showsClass := by
  rw [documented, List.filter_filter]
  rfl

theorem selects_eq (tables : TypeTables) (d : Declaration) (group : Group) :
    group.selects tables d = (d.kind.any group.kinds.contains &&
      !(group = .variables_ && tables.excludedVariables.contains d.name)) := by
  unfold Group.selects
  generalize d.kind = kind
  cases group <;> cases kind <;> simp [Group.kinds]

-- The three places that leave declarations out agree with the one test.
theorem filter_documented_group (ctx : Context) (ds : List Declaration) (group : Group) :
    ((ctx.documented ds).filter fun d => group.selects ctx.tables d && !ctx.isSimple d) =
      ds.filter (ctx.showsIn group) := by
  rw [documented, List.filter_filter]
  apply List.filter_congr
  intro d _
  rw [selects_eq, showsIn, isSimple]
  ac_rfl

theorem classArticles_arranged {articles : List Node}
    (h : ctx.classArticles (ctx.documented ds) = .ok articles) :
    ctx.AreClassArticles ds articles := by
  refine ⟨classes (ctx.documented ds), ?_, ?_⟩
  · rw [← filter_documented_class]
    exact Declaration.arranged_sortByName _
  · apply (mapM_eq_ok_iff.mp h).imp
    intro d article hd
    obtain ⟨editUrl, parents, parameters, statics, instances, seen, rest, -, -, -, -, rfl⟩ :=
      classSection_parts hd
    exact ⟨hd, editUrl, _, rfl⟩

theorem groupArticle_arranged {group : Group} {articles : List Node}
    (h : ctx.groupArticle (ctx.documented ds) group = .ok articles) :
    ctx.AreGroupArticles ds group articles := by
  refine ⟨ctx.groupItems (ctx.documented ds) group, ?_, ?_⟩
  · rw [← filter_documented_group]
    exact Declaration.arranged_sortByName _
  · unfold groupArticle at h
    split at h
    · rename_i hnone
      cases h
      exact .inl ⟨hnone, rfl⟩
    · rename_i members hsome
      simp only [bind_eq_ok_iff, pure_eq_ok_iff] at h
      obtain ⟨sections, hsections, rfl⟩ := h
      refine .inr ⟨hsome, sections, ?_, rfl⟩
      apply (mapM_eq_ok_iff.mp hsections).imp
      intro d section_ hd
      exact ⟨hd, symbolSection_heading hd⟩

theorem renderPage_arrangement (h : ctx.renderPage ds = .ok page) :
    ∃ classes functions variables_ types,
      page.tree = classes ++ functions ++ variables_ ++ types ∧
      ctx.AreClassArticles ds classes ∧
      ctx.AreGroupArticles ds .functions functions ∧
      ctx.AreGroupArticles ds .variables_ variables_ ∧
      ctx.AreGroupArticles ds .types types := by
  obtain ⟨classes, functions, variables_, types, hclasses, hfunctions, hvariables, htypes, htree⟩ :=
    renderPage_parts h
  exact ⟨classes, functions, variables_, types, htree, classArticles_arranged hclasses,
    groupArticle_arranged hfunctions, groupArticle_arranged hvariables,
    groupArticle_arranged htypes⟩

-- Nothing that is shown is left out.
theorem exists_classArticle (h : ctx.renderPage ds = .ok page) (hd : d ∈ ds)
    (hshows : ctx.showsClass d = true) : ∃ article ∈ page.tree, ctx.IsClassArticle d article := by
  obtain ⟨classes, functions, variables_, types, hclasses, -, -, -, htree⟩ := renderPage_parts h
  obtain ⟨shown, harranged, harticles⟩ := classArticles_arranged hclasses
  have hm := harranged.perm.mem_iff.mpr (List.mem_filter.mpr ⟨hd, hshows⟩)
  obtain ⟨article, harticle, his⟩ := exists_of_mem_forall₂ harticles hm
  exact ⟨article, by simp [htree, harticle], his⟩

theorem AreGroupArticles.exists_section {group : Group} {articles : List Node}
    (h : ctx.AreGroupArticles ds group articles) (hd : d ∈ ds)
    (hshows : ctx.showsIn group d = true) :
    ∃ sections, Node.tag "article" (groupTitle group :: sections) ∈ articles ∧
      ∃ section_ ∈ sections, ctx.IsSymbolSection d section_ := by
  obtain ⟨members, harranged, hmembers⟩ := h
  have hm := harranged.perm.mem_iff.mpr (List.mem_filter.mpr ⟨hd, hshows⟩)
  obtain ⟨rfl, -⟩ | ⟨-, sections, hsections, rfl⟩ := hmembers
  · cases hm
  · exact ⟨sections, List.mem_singleton.mpr rfl, exists_of_mem_forall₂ hsections hm⟩

theorem exists_symbolSection {group : Group} (h : ctx.renderPage ds = .ok page) (hd : d ∈ ds)
    (hshows : ctx.showsIn group d = true) :
    ∃ sections, Node.tag "article" (groupTitle group :: sections) ∈ page.tree ∧
      ∃ section_ ∈ sections, ctx.IsSymbolSection d section_ := by
  obtain ⟨classes, functions, variables_, types, -, hfunctions, hvariables, htypes, htree⟩ :=
    renderPage_parts h
  have hgroup : ∃ articles, ctx.AreGroupArticles ds group articles ∧
      ∀ article ∈ articles, article ∈ page.tree := by
    rw [htree]
    cases group with
    | functions => exact ⟨functions, groupArticle_arranged hfunctions, by simp +contextual⟩
    | variables_ => exact ⟨variables_, groupArticle_arranged hvariables, by simp +contextual⟩
    | types => exact ⟨types, groupArticle_arranged htypes, by simp +contextual⟩
  obtain ⟨articles, harticles, hon⟩ := hgroup
  obtain ⟨sections, harticle, hsection⟩ := harticles.exists_section hd hshows
  exact ⟨sections, hon _ harticle, hsection⟩

-- A page with an inline name and one that is known as a name only.
def sampleContext : Context :=
  { page := "client-api", tables := { inline := ["Options"], simple := ["Json"] },
    style := { read := Markdown.read {}, classMark := "" } }

def repeatedNames : List Declaration :=
  [{ name := "read", kind := some .function }, { name := "Client", kind := some .class_ },
   { name := "Options", kind := some .interface }, { name := "read", kind := some .function },
   { name := "Json", kind := some .typeAlias }, { name := "Client", kind := some .class_ }]

theorem renderPage_arrangement_repeatedNames :
    ∃ page classes functions variables_ types,
      sampleContext.renderPage repeatedNames = .ok page ∧
      page.tree = classes ++ functions ++ variables_ ++ types ∧
      sampleContext.AreClassArticles repeatedNames classes ∧
      sampleContext.AreGroupArticles repeatedNames .functions functions ∧
      sampleContext.AreGroupArticles repeatedNames .variables_ variables_ ∧
      sampleContext.AreGroupArticles repeatedNames .types types := by
  obtain ⟨page, h⟩ : ∃ page, sampleContext.renderPage repeatedNames = .ok page := ⟨_, by cbv⟩
  obtain ⟨classes, functions, variables_, types, hparts⟩ := renderPage_arrangement h
  exact ⟨page, classes, functions, variables_, types, h, hparts⟩

end Context

end ApiPages
