import ApiPages.Proofs.Page.Fragments

namespace ApiPages

open Node Outcome

namespace Node

theorem sectionCounts_append (nodes others : List Node) :
    sectionCounts (nodes ++ others) = sectionCounts nodes + sectionCounts others := by
  simp only [sectionCounts_eq_countP, elementsIn_append, List.countP_append]

theorem sectionCount_section (nodes : List Node) :
    (Node.tag "section" nodes).sectionCount = 1 + sectionCounts nodes := rfl

theorem sectionCount_article (nodes : List Node) :
    (Node.tag "article" nodes).sectionCount = 1 + sectionCounts nodes := rfl

-- A node for each item, and for each of them so many sections.
theorem sectionCounts_of_forall₂ {α : Type} {items : List α} {nodes : List Node} {count : α → Nat}
    (h : List.Forall₂ (fun a node => node.sectionCount = count a) items nodes) :
    sectionCounts nodes = (items.map count).sum := by
  induction h with
  | nil => rfl
  | cons hfirst _ ih => rw [sectionCounts, hfirst, ih, List.map_cons, List.sum_cons]

end Node

namespace Context

variable {ctx : Context} {ds : List Declaration} {d : Declaration} {node : Node}
  {nodes : List Node} {texts others : List String} {page : Page}

-- No section and no article comes out of the rendering of the texts.
def HasNoSections (ctx : Context) (texts : List String) : Prop :=
  ∀ text ∈ texts, ∀ e ∈ elementsIn (Prose.render ctx.style text),
    e.tag ≠ "section" ∧ e.tag ≠ "article"

theorem HasNoSections.mono (h : ctx.HasNoSections others) (hsub : ∀ text ∈ texts, text ∈ others) :
    ctx.HasNoSections texts := fun text ht => h text (hsub text ht)

theorem HasNoSections.left (h : ctx.HasNoSections (texts ++ others)) : ctx.HasNoSections texts :=
  h.mono fun _ => List.mem_append_left _

theorem HasNoSections.right (h : ctx.HasNoSections (texts ++ others)) : ctx.HasNoSections others :=
  h.mono fun _ => List.mem_append_right _

theorem sectionCounts_eq_zero (h : MadeOf ctx texts nodes) (hfree : ctx.HasNoSections texts) :
    sectionCounts nodes = 0 := by
  have hfragment : ∀ name ∈ fragmentTags, name ≠ "section" ∧ name ≠ "article" := by decide
  rw [sectionCounts_eq_countP, List.countP_eq_zero]
  intro e he
  have htag : e.tag ≠ "section" ∧ e.tag ≠ "article" := by
    rcases h e he with htag | ⟨said, hsaid, he⟩
    · exact hfragment e.tag htag
    · exact hfree said hsaid e he
  simp [isSection, htag]

theorem sectionCount_memberSection {owner separator slug : String}
    (h : ctx.memberSection owner separator slug d = .ok node)
    (hfree : ctx.HasNoSections (memberTexts d)) : node.sectionCount = 1 := by
  obtain ⟨type, parameters, templates, returned, htype, hparameters, htemplates, hreturned, rfl⟩ :=
    memberSection_parts h
  have hmade : MadeOf ctx (memberTexts d)
      (ctx.comment d.documentation ++ type ++ parameters ++ templates ++ returned) := by
    simp only [List.append_assoc]
    exact (madeOf_comment d.documentation).join ((madeOf_typeLine htype).append
      ((madeOf_parameterTables hparameters).join
        ((madeOf_templateTables htemplates).join (madeOf_returnLine hreturned))))
  have htitle : MadeOf ctx (memberTexts d)
      [anchored "h2" slug [Node.bareCode (memberTitle owner separator d)]] :=
    madeOf_heading (madeOf_memberTitle owner separator d)
  rw [sectionCount_section, sectionCounts_eq_zero (htitle.singleton hmade) hfree]

theorem sectionCounts_sectionsFor {owner separator : String} {seen after : List String}
    {members : List Declaration}
    (h : ctx.sectionsFor owner separator seen members = .ok (nodes, after))
    (hfree : ∀ member ∈ members, ctx.HasNoSections (memberTexts member)) :
    sectionCounts nodes = members.length := by
  induction members generalizing seen nodes with
  | nil =>
      cases h
      rfl
  | cons member rest ih =>
      obtain ⟨first, others, hfirst, hothers, rfl⟩ := sectionsFor_parts h
      rw [List.forall_mem_cons] at hfree
      rw [sectionCounts, sectionCount_memberSection hfirst hfree.1, ih hothers hfree.2,
        List.length_cons, Nat.add_comm]

theorem sectionCounts_memberSections {owner separator : String} {seen after : List String}
    {members : List Declaration}
    (h : ctx.memberSections owner members separator seen = .ok (nodes, after))
    (hfree : ∀ member ∈ members, member.isVisible = true → ctx.HasNoSections (memberTexts member)) :
    sectionCounts nodes = members.countP Declaration.isVisible := by
  have hperm := (arranged_visibleMembers members).perm
  rw [sectionCounts_sectionsFor h fun member hm => ?_, hperm.length_eq,
    List.countP_eq_length_filter]
  obtain ⟨hm, hvisible⟩ := List.mem_filter.mp (hperm.mem_iff.mp hm)
  exact hfree member hm hvisible

theorem HasNoSections.member (h : ctx.HasNoSections (membersTexts d)) :
    ∀ member ∈ d.children, member.isVisible = true → ctx.HasNoSections (memberTexts member) :=
  fun member hm hvisible => h.mono fun _ ht =>
    List.mem_flatMap.mpr ⟨member, List.mem_filter.mpr ⟨hm, hvisible⟩, ht⟩

-- The static members and the others are all of them.
theorem countP_statics_add_instances (members : List Declaration) :
    (members.filter (·.flags.isStatic)).countP Declaration.isVisible +
        (members.filter (!·.flags.isStatic)).countP Declaration.isVisible =
      members.countP Declaration.isVisible := by
  simpa using (members.countP_eq_countP_filter_add Declaration.isVisible (·.flags.isStatic)).symm

theorem sectionCount_classSection (h : ctx.classSection d = .ok node)
    (hfree : ctx.HasNoSections (ctx.classTexts d)) :
    node.sectionCount = 1 + d.children.countP Declaration.isVisible := by
  obtain ⟨editUrl, parents, parameters, statics, instances, seen, rest, hparents, hparameters,
    hstatics, hinstances, rfl⟩ := classSection_parts h
  have hfront : MadeOf ctx (commentTexts d.comment ++ ctx.constructorTexts d)
      (classHeading d editUrl :: (parents ++ (ctx.comment d.comment ++ parameters))) :=
    .element (by simp [fragmentTags]) (.text _ .nil) ((madeOf_parents hparents).append
      ((madeOf_comment d.comment).join (madeOf_constructorTables hparameters)))
  have hcount := sectionCounts_eq_zero hfront
    (hfree.mono fun text ht => by simp only [classTexts, List.mem_append] at ht ⊢; tauto)
  have hmembers : ctx.HasNoSections (membersTexts d) := hfree.right.right
  have hstaticCount := sectionCounts_memberSections hstatics fun member hm =>
    hmembers.member member (List.mem_of_mem_filter hm)
  have hinstanceCount := sectionCounts_memberSections hinstances fun member hm =>
    hmembers.member member (List.mem_of_mem_filter hm)
  have hparts : classHeading d editUrl ::
        (parents ++ ctx.comment d.comment ++ parameters ++ statics ++ instances) =
      (classHeading d editUrl :: (parents ++ (ctx.comment d.comment ++ parameters))) ++
        (statics ++ instances) := by simp
  rw [sectionCount_article, hparts, sectionCounts_append, hcount, sectionCounts_append,
    hstaticCount, hinstanceCount, countP_statics_add_instances, Nat.zero_add]

theorem sectionCount_functionSection (h : ctx.functionSection d = .ok node)
    (hfree : ctx.HasNoSections (functionTexts d)) :
    node.sectionCount = 1 + d.children.countP Declaration.isVisible := by
  obtain ⟨parameters, templates, returned, members, seen, hparameters, htemplates, hreturned,
    hmembers, rfl⟩ := functionSection_parts h
  have hfront : MadeOf ctx (commentTexts (headComment d) ++ (parameterTexts d ++
        (templateTexts d ++ returnTexts d)))
      (symbolHeading d [extra d.argumentsText] :: (ctx.comment (headComment d) ++
        (parameters ++ (templates ++ returned)))) :=
    (madeOf_heading (.text _ (madeOf_extra _))).singleton ((madeOf_comment (headComment d)).join
      ((madeOf_parameterTables hparameters).join
        ((madeOf_templateTables htemplates).join (madeOf_returnLine hreturned))))
  have hcount := sectionCounts_eq_zero hfront
    (hfree.mono fun text ht => by simp only [functionTexts, List.mem_append] at ht ⊢; tauto)
  have hmembersFree : ctx.HasNoSections (membersTexts d) := hfree.right.right.right.right
  have hparts : symbolHeading d [extra d.argumentsText] ::
        (ctx.comment (headComment d) ++ parameters ++ templates ++ returned ++ members) =
      (symbolHeading d [extra d.argumentsText] :: (ctx.comment (headComment d) ++
        (parameters ++ (templates ++ returned)))) ++ members := by simp
  rw [sectionCount_section, hparts, sectionCounts_append, hcount,
    sectionCounts_memberSections hmembers hmembersFree.member, Nat.zero_add]

theorem sectionCount_variableSection (h : ctx.variableSection d = .ok node)
    (hfree : ctx.HasNoSections (commentTexts d.comment ++ ctx.bodyTexts d.type)) :
    node.sectionCount = 1 := by
  obtain ⟨body, hbody, rfl⟩ := variableSection_parts h
  have hmade : MadeOf ctx (commentTexts d.comment ++ ctx.bodyTexts d.type)
      (symbolHeading d [] :: (ctx.comment d.comment ++ body)) :=
    (madeOf_heading (.text _ .nil)).singleton
      ((madeOf_comment d.comment).join (madeOf_variableBody hbody))
  rw [sectionCount_section, sectionCounts_eq_zero hmade hfree]

-- The sections of a symbol: its own and, if it can be called, those of its members.
def symbolCount (d : Declaration) : Nat :=
  1 + if d.signatures.isEmpty then 0 else d.children.countP Declaration.isVisible

theorem sectionCount_symbolSection (h : ctx.symbolSection d = .ok node)
    (hfree : ctx.HasNoSections (ctx.symbolTexts d)) : node.sectionCount = symbolCount d := by
  unfold symbolSection at h
  unfold symbolTexts at hfree
  unfold symbolCount
  split at h
  · rename_i hnone
    rw [if_pos hnone] at hfree ⊢
    exact sectionCount_variableSection h hfree
  · rename_i hsome
    rw [if_neg hsome] at hfree ⊢
    exact sectionCount_functionSection h hfree

def classCount (d : Declaration) : Nat := 1 + d.children.countP Declaration.isVisible

-- The sections of a group: an article with those of its symbols, unless there are none.
def groupCount (items : List Declaration) : Nat :=
  if items.isEmpty then 0 else 1 + (items.map symbolCount).sum

theorem HasNoSections.of_mem {texts : Declaration → List String} {items : List Declaration}
    (h : ctx.HasNoSections (items.flatMap texts)) (hd : d ∈ items) : ctx.HasNoSections (texts d) :=
  h.mono fun _ ht => List.mem_flatMap.mpr ⟨d, hd, ht⟩

theorem AreClassArticles.sectionCounts (h : ctx.AreClassArticles ds nodes)
    (hfree : ctx.HasNoSections ((ds.filter ctx.showsClass).flatMap ctx.classTexts)) :
    Node.sectionCounts nodes = ((ds.filter ctx.showsClass).map classCount).sum := by
  obtain ⟨classes, harranged, harticles⟩ := h
  have hall := (List.forall₂_and_left _ _).mpr
    ⟨fun d hd => hfree.of_mem (harranged.perm.mem_iff.mp hd), harticles⟩
  have hcounts : List.Forall₂ (fun d node => node.sectionCount = classCount d) classes nodes :=
    hall.imp fun d node hd => sectionCount_classSection hd.2.1 hd.1
  rw [sectionCounts_of_forall₂ hcounts, (harranged.perm.map classCount).sum_eq]

theorem AreGroupArticles.sectionCounts {group : Group} (h : ctx.AreGroupArticles ds group nodes)
    (hfree : ctx.HasNoSections ((ds.filter (ctx.showsIn group)).flatMap ctx.symbolTexts)) :
    Node.sectionCounts nodes = groupCount (ds.filter (ctx.showsIn group)) := by
  obtain ⟨members, harranged, ⟨rfl, rfl⟩ | ⟨hsome, sections, hsections, rfl⟩⟩ := h
  · rw [harranged.perm.symm.eq_nil]
    rfl
  · have hall := (List.forall₂_and_left _ _).mpr
      ⟨fun d hd => hfree.of_mem (harranged.perm.mem_iff.mp hd), hsections⟩
    have hcounts : List.Forall₂ (fun d node => node.sectionCount = symbolCount d) members
        sections := hall.imp fun d node hd => sectionCount_symbolSection hd.2.1 hd.1
    have hshown : ¬ (ds.filter (ctx.showsIn group)).isEmpty = true := by
      rw [List.isEmpty_iff]
      exact fun hnone => hsome (harranged.perm.trans (.of_eq hnone)).eq_nil
    rw [groupCount, if_neg hshown, ← (harranged.perm.map symbolCount).sum_eq,
      ← sectionCounts_of_forall₂ hcounts]
    simp [Node.sectionCounts, sectionCount_article, groupTitle, sectionCount]

-- The number of sections that is reported for a page is that of the symbols on it.
theorem renderPage_sectionCounts (h : ctx.renderPage ds = .ok page)
    (hfree : ctx.HasNoSections (ctx.pageTexts ds)) :
    sectionCounts page.tree = ((ds.filter ctx.showsClass).map classCount).sum +
      (Group.all.map fun group => groupCount (ds.filter (ctx.showsIn group))).sum := by
  obtain ⟨classes, functions, variables_, types, hclasses, hfunctions, hvariables, htypes, htree⟩ :=
    renderPage_parts h
  have hgroup : ∀ {group articles}, ctx.groupArticle (ctx.documented ds) group = .ok articles →
      sectionCounts articles = groupCount (ds.filter (ctx.showsIn group)) := by
    intro group articles harticle
    have hm : group ∈ Group.all := by cases group <;> decide
    exact (groupArticle_arranged harticle).sectionCounts
      (hfree.right.mono fun text ht => List.mem_flatMap.mpr ⟨group, hm, ht⟩)
  have hclassCount := (classArticles_arranged hclasses).sectionCounts hfree.left
  simp only [htree, sectionCounts_append, hclassCount, hgroup hfunctions, hgroup hvariables,
    hgroup htypes, Group.all, List.map_cons, List.map_nil, List.sum_cons, List.sum_nil]
  omega

-- A class with two members that show and two that do not, a function with a member, and an inline
-- type.
def countedSymbols : List Declaration :=
  [{ name := "Client", kind := some .class_, comment := some { shortText := "It reads." },
     children := [{ name := "constructor" }, { name := "read" }, { name := "Error" },
       { name := "open", flags := { isStatic := true } }] },
   { name := "connect", kind := some .function, signatures := [{}],
     children := [{ name := "opts" }] },
   { name := "Options", kind := some .interface }]

theorem renderPage_sectionCounts_countedSymbols :
    ∃ page, sampleContext.renderPage countedSymbols = .ok page ∧
      sampleContext.HasNoSections (sampleContext.pageTexts countedSymbols) ∧
      sectionCounts page.tree = 6 := by
  obtain ⟨page, h⟩ : ∃ page, sampleContext.renderPage countedSymbols = .ok page :=
    exists_eq_ok_of_isSome (by decide +kernel)
  have hfree : sampleContext.HasNoSections (sampleContext.pageTexts countedSymbols) := by
    unfold HasNoSections
    decide +kernel
  exact ⟨page, h, hfree, (renderPage_sectionCounts h hfree).trans (by decide +kernel)⟩

end Context

end ApiPages
