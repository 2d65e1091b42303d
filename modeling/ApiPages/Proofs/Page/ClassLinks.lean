import ApiPages.Proofs.Anchor.Identifier
import ApiPages.Proofs.Page.Menu
import ApiPages.Proofs.Page.TypeNodes

namespace ApiPages

open Node Outcome

-- What is known of a parent besides its name.
def TypeExpr.symbol : TypeExpr → Json
  | .reference r => r.symbol
  | _ => .null

namespace Context

variable {ctx : Context} {ds : List Declaration} {d : Declaration} {name href : String}
  {page : Page}

-- The sentence about a first parent with that name, unless an alias renames it, links to an address.
def ExtendsLink (ctx : Context) (name href : String) : Prop :=
  ∀ (parent : TypeExpr) (rest : List TypeExpr), parent.name? = some name →
    ctx.tables.relabelParent name parent.symbol = .ok name →
    ctx.parents (parent :: rest) =
      .ok [Node.tag "p" [.text "Extends ", Node.link href name, .text "."]]

-- A reference by that name starts with a link to an address, and is nothing else when it has no
-- arguments.
def ReferenceLink (ctx : Context) (name href : String) : Prop :=
  ∀ r : Reference, r.name = name →
    (r.arguments = [] → ctx.type (.reference r) = .ok [Node.link href name]) ∧
    ∀ nodes, ctx.type (.reference r) = .ok nodes → nodes.head? = some (Node.link href name)

-- A name that is a link to an anchor of the page.
def isLinked (ctx : Context) (name : String) : Bool :=
  !ctx.isInline name && !ctx.tables.simple.contains name &&
    (ctx.tables.external.lookup name).isNone

theorem isLinked_iff : ctx.isLinked name = true ↔
    ctx.isInline name = false ∧ ctx.tables.simple.contains name = false ∧
      ctx.tables.external.lookup name = none := by
  simp [isLinked, and_assoc]

theorem nameNode_of_isLinked (h : ctx.isLinked name = true) :
    ctx.nameNode name = Node.link ("#" ++ Anchor.ofSymbol name) name := by
  obtain ⟨-, hsimple, hexternal⟩ := isLinked_iff.mp h
  rw [nameNode, if_neg (Bool.eq_false_iff.mp hsimple), hexternal]

theorem head?_referenceNodes (groups : List (List Node)) :
    (ctx.referenceNodes name groups).head? = some (ctx.nameNode name) := by
  unfold referenceNodes
  split <;> rfl

theorem referenceLink_of_isLinked (h : ctx.isLinked name = true) :
    ctx.ReferenceLink name ("#" ++ Anchor.ofSymbol name) := by
  have hinline := Bool.eq_false_iff.mp (isLinked_iff.mp h).1
  rintro r rfl
  rw [← nameNode_of_isLinked h, type, typeNodes_reference, if_neg hinline]
  constructor
  · intro harguments
    rw [harguments]
    split <;> rfl
  · intro nodes hnodes
    split at hnodes
    · cases hnodes
      exact head?_referenceNodes _
    · simp only [bind_eq_ok_iff, pure_eq_ok_iff] at hnodes
      obtain ⟨groups, -, rfl⟩ := hnodes
      exact head?_referenceNodes groups

-- The name of a parent with its link, if it is linked at all.
def parentNode (ctx : Context) (name : String) : Node :=
  if ctx.tables.simple.contains name then Node.tag "code" [.text name]
  else match ctx.tables.external.lookup name with
    | some url => Node.link url name
    | none => Node.link ("#" ++ Text.lower name) name

theorem parents_cons (parent : TypeExpr) (rest : List TypeExpr) :
    ctx.parents (parent :: rest) = (do
      let name ← ctx.tables.relabelParent (parent.name?.getD "") parent.symbol
      return [Node.tag "p" [.text "Extends ", ctx.parentNode name, .text "."]]) := by
  cases parent <;> rfl

theorem parentNode_of_isLinked (h : ctx.isLinked name = true) :
    ctx.parentNode name = Node.link ("#" ++ Text.lower name) name := by
  obtain ⟨-, hsimple, hexternal⟩ := isLinked_iff.mp h
  rw [parentNode, if_neg (Bool.eq_false_iff.mp hsimple), hexternal]

theorem extendsLink_of_isLinked (h : ctx.isLinked name = true) :
    ctx.ExtendsLink name ("#" ++ Text.lower name) := by
  intro parent rest hname hlabel
  rw [parents_cons, hname, Option.getD_some, hlabel, ← parentNode_of_isLinked h]
  rfl

theorem classEntry_mem_menu (h : ctx.renderPage ds = .ok page) (hd : d ∈ ds)
    (hshows : ctx.showsClass d = true) : MenuItem.entry (classEntry d) ∈ page.menu := by
  have hm : d ∈ classes (ctx.documented ds) := by
    apply (Declaration.arranged_sortByName _).perm.mem_iff.mpr
    rw [filter_documented_class]
    exact List.mem_filter.mpr ⟨hd, hshows⟩
  rw [renderPage_menu_eq h, menu]
  exact List.mem_append_left _ (List.mem_map_of_mem hm)

-- The menu and the sentence about a parent lead to the heading of a class. A reference leads there
-- if the name has a capital; else it leads to the anchor of a global, which the heading is not.
theorem renderPage_classLinks (h : ctx.renderPage ds = .ok page) (hd : d ∈ ds)
    (hclass : d.kind = some .class_) (hname : Anchor.IsIdentifier d.name)
    (hlinked : ctx.isLinked d.name = true) :
    ∃ article ∈ page.tree, ctx.IsClassArticle d article ∧ ∃ heading slug,
      article.heading? = some heading ∧ heading.tag = "h1" ∧ heading.slug = some slug ∧
      .entry ⟨d.name, "#" ++ slug⟩ ∈ page.menu ∧
      ctx.ExtendsLink d.name ("#" ++ slug) ∧
      ctx.ReferenceLink d.name ("#" ++ Anchor.marked d.name slug) := by
  have hshows : ctx.showsClass d = true := by
    simp [showsClass, hclass, (isLinked_iff.mp hlinked).1]
  obtain ⟨article, hon, hsection, editUrl, rest, rfl⟩ := exists_classArticle h hd hshows
  refine ⟨_, hon, ⟨hsection, editUrl, rest, rfl⟩, _, _, rfl, rfl, rfl, ?_, ?_, ?_⟩
  · exact classEntry_mem_menu h hd hshows
  · exact extendsLink_of_isLinked hlinked
  · rw [← Anchor.ofSymbol_identifier hname]
    exact referenceLink_of_isLinked hlinked

-- A class with a capital, and one without that has the first one as its parent and refers to itself.
def linkedClasses : List Declaration :=
  [{ name := "Store", kind := some .class_ },
   { name := "client", kind := some .class_,
     extendedTypes := [.reference { name := "Store" }],
     children := [{ name := "next", kind := some .property,
                    type := some (.reference { name := "client" }) }] }]

theorem renderPage_linkedClasses :
    ∃ page, sampleContext.renderPage linkedClasses = .ok page ∧
      (page.tree.filterMap heading?).map Element.slug = [some "store", some "client"] ∧
      slugsIn page.tree = ["store", "client", "client-next"] := by
  refine ⟨_, by cbv, ?_, ?_⟩
  · cbv
  · simp
    rfl

theorem renderPage_classLinks_linkedClasses :
    ∃ page article heading slug, sampleContext.renderPage linkedClasses = .ok page ∧
      article ∈ page.tree ∧ article.heading? = some heading ∧ heading.slug = some slug ∧
      MenuItem.entry ⟨"Store", "#" ++ slug⟩ ∈ page.menu ∧
      sampleContext.ExtendsLink "Store" ("#" ++ slug) ∧
      sampleContext.ReferenceLink "Store" ("#" ++ slug) := by
  obtain ⟨page, h, -, -⟩ := renderPage_linkedClasses
  have hd : ({ name := "Store", kind := some .class_ } : Declaration) ∈ linkedClasses :=
    List.mem_cons_self
  obtain ⟨article, hon, -, heading, slug, hheading, -, hslug, hmenu, hextends, hreference⟩ :=
    renderPage_classLinks h hd rfl (by decide) (by decide)
  exact ⟨page, article, heading, slug, h, hon, hheading, hslug, hmenu, hextends, hreference⟩

-- The reference to the class without a capital leads to an anchor that the page does not have.
theorem renderPage_classLinks_missedHeading :
    ∃ page, sampleContext.renderPage linkedClasses = .ok page ∧
      (page.tree.filterMap heading?).map Element.slug = [some "store", some "client"] ∧
      slugsIn page.tree = ["store", "client", "client-next"] ∧
      sampleContext.parents [.reference { name := "client" }] =
        .ok [Node.tag "p" [.text "Extends ", Node.link "#client" "client", .text "."]] ∧
      sampleContext.type (.reference { name := "client" }) =
        .ok [Node.link "#globals-client" "client"] ∧
      ¬ sampleContext.ReferenceLink "client" "#client" := by
  obtain ⟨page, h, hheadings, hslugs⟩ := renderPage_linkedClasses
  have hsymbol : Anchor.ofSymbol "client" = "globals-client" := by decide +kernel
  have hlinked : sampleContext.ReferenceLink "client" ("#" ++ Anchor.ofSymbol "client") :=
    referenceLink_of_isLinked (by decide)
  rw [hsymbol] at hlinked
  have htype := (hlinked { name := "client" } rfl).1 rfl
  refine ⟨page, h, hheadings, hslugs, by cbv, htype, ?_⟩
  intro hlink
  have hhref := (hlink { name := "client" } rfl).1 rfl
  rw [htype] at hhref
  simp [Node.link] at hhref

end Context

end ApiPages
