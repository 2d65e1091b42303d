import ApiPages.Proofs.Document.Elements
import ApiPages.Proofs.Page.Anchors

namespace ApiPages

def Declaration.isVisible (d : Declaration) : Bool := d.name ≠ "constructor" && d.name ≠ "Error"

open Node Outcome Declaration

namespace Context

variable {ctx : Context} {d : Declaration} {node : Node} {nodes : List Node}

theorem arranged_visibleMembers (members : List Declaration) :
    Arranged memberKey (members.filter isVisible) (visibleMembers members) := by
  have hvisible : (members.filter fun member => !hiddenMembers.contains member.name) =
      members.filter isVisible := by
    apply List.filter_congr
    intro member _
    simp [hiddenMembers, isVisible]
  rw [visibleMembers, hvisible]
  exact arranged_sortMembers _

-- The members of a class in the order of their sections: the static ones, then the others.
structure AreClassMembers (d : Declaration) (statics instances : List Declaration) : Prop where
  statics : Arranged memberKey (d.children.filter fun m => m.isVisible && m.flags.isStatic) statics
  instances : Arranged memberKey (d.children.filter fun m => m.isVisible && !m.flags.isStatic)
    instances

theorem areClassMembers_visible (d : Declaration) :
    AreClassMembers d (visibleMembers (d.children.filter (·.flags.isStatic)))
      (visibleMembers (d.children.filter (!·.flags.isStatic))) where
  statics := by
    rw [← List.filter_filter]
    exact arranged_visibleMembers _
  instances := by
    rw [← List.filter_filter]
    exact arranged_visibleMembers _

-- The names are free: they may repeat, differ in their case only, or look like numbered ones.
theorem section_anchors (ctx : Context) (d : Declaration) (node : Node) :
    (ctx.classSection d = .ok node → ∃ statics instances, AreClassMembers d statics instances ∧
      Anchor.AreInTurn (Text.lower d.name)
        (wishes d.name "." statics ++ wishes d.name "#" instances) node.slugs) ∧
    (ctx.functionSection d = .ok node → ∃ members,
      Arranged memberKey (d.children.filter isVisible) members ∧
      Anchor.AreInTurn (Anchor.ofSymbol d.name) (wishes d.name "#" members) node.slugs) := by
  constructor
  · intro h
    refine ⟨_, _, areClassMembers_visible d, ?_⟩
    rw [slugs_classSection h]
    exact Anchor.areInTurn_assign _ _
  · intro h
    refine ⟨_, arranged_visibleMembers d.children, ?_⟩
    rw [slugs_functionSection h]
    exact Anchor.areInTurn_assign _ _

-- Members with one name, with names that differ in their case only, and with a name that looks like
-- a numbered anchor.
def similarClass : Declaration :=
  { name := "A", kind := some .class_,
    children := [sampleMember "b" false, sampleMember "B" false, sampleMember "b-2" false,
      sampleMember "b" true, sampleMember "constructor" false, sampleMember "b" false] }

def similarFunction : Declaration :=
  { name := "f", kind := some .function, signatures := [{}],
    children := [sampleMember "x" true, sampleMember "X" false, sampleMember "Error" false] }

theorem section_anchors_similarMembers :
    ∃ article section_ statics instances members,
      sampleContext.classSection similarClass = .ok article ∧
      article.slugs = ["a", "a.b", "a-b", "a-b-2", "a-b-3", "a-b-2-2"] ∧
      AreClassMembers similarClass statics instances ∧
      Anchor.AreInTurn "a" (wishes "A" "." statics ++ wishes "A" "#" instances) article.slugs ∧
      sampleContext.functionSection similarFunction = .ok section_ ∧
      section_.slugs = ["globals-f", "f-x", "f-x-2"] ∧
      Arranged memberKey (similarFunction.children.filter isVisible) members ∧
      Anchor.AreInTurn "globals-f" (wishes "f" "#" members) section_.slugs := by
  obtain ⟨article, harticle, hslugs⟩ : ∃ article,
      sampleContext.classSection similarClass = .ok article ∧
      article.slugs = ["a", "a.b", "a-b", "a-b-2", "a-b-3", "a-b-2-2"] :=
    exists_eq_ok_of_toOption (by cbv)
  obtain ⟨section_, hsection, hown⟩ : ∃ section_,
      sampleContext.functionSection similarFunction = .ok section_ ∧
      section_.slugs = ["globals-f", "f-x", "f-x-2"] :=
    exists_eq_ok_of_toOption (by cbv)
  obtain ⟨statics, instances, hmembers, hturn⟩ :=
    (section_anchors sampleContext similarClass article).1 harticle
  obtain ⟨members, hothers, hafter⟩ :=
    (section_anchors sampleContext similarFunction section_).2 hsection
  exact ⟨article, section_, statics, instances, members, harticle, hslugs, hmembers, hturn,
    hsection, hown, hothers, hafter⟩

-- A heading names a member behind its owner; the parameters of a method stand behind its name.
structure IsMemberHeading (owner : String) (member : Declaration) (heading : Element) : Prop where
  tag : heading.tag = "h2"
  title : toTexts heading.children = owner ++ member.name ++
    if member.kind = some .method then member.argumentsText else ""

theorem toTexts_memberTitle (owner separator : String) (member : Declaration) :
    toTexts (memberTitle owner separator member) = owner ++ separator ++ member.name ++
      if member.kind = some .method then member.argumentsText else "" := by
  by_cases hmethod : member.kind = some .method
  · simp [memberTitle, hmethod, extra, Node.span, toTexts, toText, String.append_assoc]
  · simp [memberTitle, hmethod, extra, Node.span, toTexts, toText, String.append_assoc]

-- A heading with an anchor stands in front of all others.
theorem anchoredIn_headed {name : String} {heading : Element} {rest : List Node}
    (hslug : heading.slug.isSome) (hchildren : slugsIn heading.children = []) :
    anchoredIn [Node.tag name (.element heading :: rest)] = heading :: anchoredIn rest := by
  rw [Node.tag, anchoredIn_element_cons, anchoredIn_element_cons, if_pos hslug,
    anchoredIn_eq_nil hchildren]
  exact List.append_nil _

theorem anchoredIn_memberSection {owner separator slug : String}
    (h : ctx.memberSection owner separator slug d = .ok node) :
    ∃ heading, anchoredIn [node] = [heading] ∧ IsMemberHeading (owner ++ separator) d heading := by
  have hslugs := slugs_memberSection h
  obtain ⟨type, parameters, templates, returned, -, -, -, -, rfl⟩ := memberSection_parts h
  rw [slugs_tag, slugsIn_cons, anchored, slugs_element, Option.toList_some, List.singleton_append,
    List.cons_append, List.cons_eq_cons, List.append_eq_nil_iff] at hslugs
  obtain ⟨-, htitle, hrest⟩ := hslugs
  let heading : Element :=
    { tag := "h2", children := [Node.bareCode (memberTitle owner separator d)], slug := some slug }
  refine ⟨heading, ?_, rfl, ?_⟩
  · rw [anchored, anchoredIn_headed rfl htitle, anchoredIn_eq_nil hrest]
  rw [toTexts, toTexts, String.append_empty, Node.bareCode, toText]
  exact toTexts_memberTitle owner separator d

theorem anchoredIn_sectionsFor {owner separator : String} {seen after : List String}
    {members : List Declaration}
    (h : ctx.sectionsFor owner separator seen members = .ok (nodes, after)) :
    List.Forall₂ (IsMemberHeading (owner ++ separator)) members (anchoredIn nodes) := by
  induction members generalizing seen nodes with
  | nil =>
      cases h
      exact .nil
  | cons member rest ih =>
      obtain ⟨first, others, hfirst, hothers, rfl⟩ := sectionsFor_parts h
      obtain ⟨heading, hheading, hmember⟩ := anchoredIn_memberSection hfirst
      have hsplit := anchoredIn_append [first] others
      rw [List.singleton_append, hheading, List.singleton_append] at hsplit
      rw [hsplit]
      exact .cons hmember (ih hothers)

-- The headings of second rank with an anchor, in document order.
def anchoredHeadings (node : Node) : List Element :=
  (anchoredIn [node]).filter fun e => e.tag = "h2"

theorem filter_memberHeadings {owner : String} {members : List Declaration} {found : List Element}
    (h : List.Forall₂ (IsMemberHeading owner) members found) :
    (found.filter fun e => e.tag = "h2") = found := by
  rw [List.filter_eq_self]
  intro heading hheading
  obtain ⟨member, -, hmember⟩ := exists_of_mem_forall₂ h.flip hheading
  exact decide_eq_true hmember.tag

-- Nothing in front of the members has an anchor: not the parents, the documentation or the tables.
theorem anchoredHeadings_classSection (h : ctx.classSection d = .ok node) :
    ∃ first second, anchoredHeadings node = first ++ second ∧
      List.Forall₂ (IsMemberHeading (d.name ++ "."))
        (visibleMembers (d.children.filter (·.flags.isStatic))) first ∧
      List.Forall₂ (IsMemberHeading (d.name ++ "#"))
        (visibleMembers (d.children.filter (!·.flags.isStatic))) second := by
  obtain ⟨editUrl, parents, parameters, statics, instances, seen, rest, hparents, hparameters,
    hstatics, hinstances, rfl⟩ := classSection_parts h
  have hfirst := anchoredIn_sectionsFor hstatics
  have hsecond := anchoredIn_sectionsFor hinstances
  have hfront : slugsIn (parents ++ ctx.comment d.comment ++ parameters) = [] := by
    simp [slugsIn_comment, slugsIn_parents hparents, slugsIn_constructorTables hparameters]
  refine ⟨_, _, ?_, hfirst, hsecond⟩
  rw [anchoredHeadings, classHeading, anchoredIn_headed rfl rfl, anchoredIn_append,
    anchoredIn_append, anchoredIn_eq_nil hfront, List.nil_append, List.filter_cons_of_neg (by simp),
    List.filter_append, filter_memberHeadings hfirst, filter_memberHeadings hsecond]

theorem anchoredHeadings_functionSection (h : ctx.functionSection d = .ok node) :
    ∃ own rest, anchoredHeadings node = own :: rest ∧ own.slug = some (Anchor.ofSymbol d.name) ∧
      List.Forall₂ (IsMemberHeading (d.name ++ "#")) (visibleMembers d.children) rest := by
  obtain ⟨parameters, templates, returned, members, seen, hparameters, htemplates, hreturned,
    hmembers, rfl⟩ := functionSection_parts h
  have hrest := anchoredIn_sectionsFor hmembers
  have hfront :
      slugsIn (ctx.comment (headComment d) ++ parameters ++ templates ++ returned) = [] := by
    simp [slugsIn_comment, slugsIn_parameterTables hparameters, slugsIn_templateTables htemplates,
      slugsIn_returnLine hreturned]
  let own : Element :=
    { tag := "h2", children := [Node.bareCode [.text d.name, extra d.argumentsText]],
      slug := some (Anchor.ofSymbol d.name) }
  refine ⟨own, _, ?_, rfl, hrest⟩
  rw [anchoredHeadings, symbolHeading, anchored, anchoredIn_headed rfl rfl, anchoredIn_append,
    anchoredIn_eq_nil hfront, List.nil_append, List.filter_cons_of_pos (by simp),
    filter_memberHeadings hrest]

-- Occurrences count: a name that stands twice among the children has two headings. In the section
-- of a function the heading of the function itself comes first.
theorem section_memberHeadings (ctx : Context) (d : Declaration) (node : Node) :
    (ctx.classSection d = .ok node → ∃ statics instances first second,
      AreClassMembers d statics instances ∧ anchoredHeadings node = first ++ second ∧
      List.Forall₂ (IsMemberHeading (d.name ++ ".")) statics first ∧
      List.Forall₂ (IsMemberHeading (d.name ++ "#")) instances second) ∧
    (ctx.functionSection d = .ok node → ∃ members own rest,
      Arranged memberKey (d.children.filter isVisible) members ∧
      anchoredHeadings node = own :: rest ∧ own.slug = some (Anchor.ofSymbol d.name) ∧
      List.Forall₂ (IsMemberHeading (d.name ++ "#")) members rest) := by
  constructor
  · intro h
    obtain ⟨first, second, hheadings, hfirst, hsecond⟩ := anchoredHeadings_classSection h
    exact ⟨_, _, first, second, areClassMembers_visible d, hheadings, hfirst, hsecond⟩
  · intro h
    obtain ⟨own, rest, hheadings, hown, hrest⟩ := anchoredHeadings_functionSection h
    exact ⟨_, own, rest, arranged_visibleMembers d.children, hheadings, hown, hrest⟩

def sampleMethod (name parameter : String) (isStatic : Bool) : Declaration :=
  { name, kind := some .method, flags := { isStatic },
    signatures := [{ parameters := [{ name := parameter, flags := { isOptional := true } }] }] }

-- A static method, two methods with one name, and a property behind them.
def overloadedClass : Declaration :=
  { name := "Log", kind := some .class_,
    children := [sampleMethod "on" "a" false, sampleMethod "on" "b" false,
      sampleMember "size" false, sampleMethod "of" "x" true, sampleMember "Error" false] }

def overloadedFunction : Declaration :=
  { name := "log", kind := some .function, signatures := [{}],
    children := [sampleMethod "on" "a" false, sampleMember "size" false] }

-- What the headings of the members say.
def headingTitles (node : Node) : List String :=
  (anchoredHeadings node).map fun heading => toTexts heading.children

theorem section_memberHeadings_overloaded :
    ∃ article section_ statics instances first second members own rest,
      sampleContext.classSection overloadedClass = .ok article ∧
      headingTitles article = ["Log.of(x?)", "Log#size", "Log#on(a?)", "Log#on(b?)"] ∧
      AreClassMembers overloadedClass statics instances ∧
      anchoredHeadings article = first ++ second ∧
      List.Forall₂ (IsMemberHeading "Log.") statics first ∧
      List.Forall₂ (IsMemberHeading "Log#") instances second ∧
      sampleContext.functionSection overloadedFunction = .ok section_ ∧
      headingTitles section_ = ["log()", "log#size", "log#on(a?)"] ∧
      Arranged memberKey (overloadedFunction.children.filter isVisible) members ∧
      anchoredHeadings section_ = own :: rest ∧
      List.Forall₂ (IsMemberHeading "log#") members rest := by
  obtain ⟨article, harticle, htitles⟩ : ∃ article,
      sampleContext.classSection overloadedClass = .ok article ∧
      headingTitles article = ["Log.of(x?)", "Log#size", "Log#on(a?)", "Log#on(b?)"] :=
    exists_eq_ok_of_toOption (by cbv)
  obtain ⟨section_, hsection, hsaid⟩ : ∃ section_,
      sampleContext.functionSection overloadedFunction = .ok section_ ∧
      headingTitles section_ = ["log()", "log#size", "log#on(a?)"] :=
    exists_eq_ok_of_toOption (by cbv)
  obtain ⟨statics, instances, first, second, hmembers, hheadings, hfirst, hsecond⟩ :=
    (section_memberHeadings sampleContext overloadedClass article).1 harticle
  obtain ⟨members, own, rest, hothers, hbehind, -, hrest⟩ :=
    (section_memberHeadings sampleContext overloadedFunction section_).2 hsection
  exact ⟨article, section_, statics, instances, first, second, members, own, rest, harticle,
    htitles, hmembers, hheadings, hfirst, hsecond, hsection, hsaid, hothers, hbehind, hrest⟩

end Context

end ApiPages
