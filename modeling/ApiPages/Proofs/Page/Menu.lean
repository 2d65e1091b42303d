import ApiPages.Proofs.Document.Slugs
import ApiPages.Proofs.Page.Arrangement

namespace ApiPages

-- The element that stands first in an element.
def Node.heading? : Node → Option Element
  | .element ⟨_, _, .element heading :: _, _, _, _, _⟩ => some heading
  | _ => none

theorem Node.mem_slugs_of_heading? {node : Node} {heading : Element} {slug : String}
    (h : node.heading? = some heading) (hslug : heading.slug = some slug) : slug ∈ node.slugs := by
  unfold heading? at h
  split at h
  · cases h
    simp [hslug]
  · cases h

-- The link of an entry is the anchor of the heading, of some level, that stands first in an element.
def MenuEntry.LeadsTo (entry : MenuEntry) (level : String) (node : Node) : Prop :=
  ∃ heading slug, node.heading? = some heading ∧ heading.tag = level ∧ heading.slug = some slug ∧
    entry.link = "#" ++ slug

def MenuItem.entries : MenuItem → List MenuEntry
  | .entry e => [e]
  | .group _ entries => entries

namespace Context

open Outcome Node

variable {ctx : Context} {ds : List Declaration} {page : Page}

-- An entry for the article of a class is labelled with the name of the class.
def IsClassEntry (ctx : Context) (ds : List Declaration) (entry : MenuEntry) (article : Node) :
    Prop :=
  ∃ d ∈ ds, ctx.showsClass d = true ∧ ctx.IsClassArticle d article ∧ entry.label = d.name ∧
    entry.LeadsTo "h1" article

-- An entry for the section of a symbol is labelled with the name of the symbol; functions are
-- marked.
def IsSymbolEntry (ctx : Context) (ds : List Declaration) (group : Group) (entry : MenuEntry)
    (section_ : Node) : Prop :=
  ∃ d ∈ ds, ctx.showsIn group d = true ∧ ctx.IsSymbolSection d section_ ∧
    entry.label = d.name ++ (if d.kind = some .function then "()" else "") ∧
    entry.LeadsTo "h2" section_

theorem IsClassEntry.leadsTo {entry : MenuEntry} {article : Node}
    (h : ctx.IsClassEntry ds entry article) : entry.LeadsTo "h1" article := by
  obtain ⟨d, -, -, -, -, hleads⟩ := h
  exact hleads

theorem IsSymbolEntry.leadsTo {group : Group} {entry : MenuEntry} {section_ : Node}
    (h : ctx.IsSymbolEntry ds group entry section_) : entry.LeadsTo "h2" section_ := by
  obtain ⟨d, -, -, -, -, hleads⟩ := h
  exact hleads

-- A group has an item in the menu if it has an article, with an entry for each section.
def AreGroupItems (ctx : Context) (ds : List Declaration) (group : Group) (items : List MenuItem)
    (articles : List Node) : Prop :=
  (items = [] ∧ articles = []) ∨
    ∃ entries sections, sections ≠ [] ∧ items = [.group group.title entries] ∧
      articles = [Node.tag "article" (groupTitle group :: sections)] ∧
      List.Forall₂ (ctx.IsSymbolEntry ds group) entries sections

theorem renderPage_menu_eq (h : ctx.renderPage ds = .ok page) :
    page.menu = ctx.menu (ctx.documented ds) := by
  simp only [renderPage, bind_eq_ok_iff, pure_eq_ok_iff] at h
  obtain ⟨tree, -, rfl⟩ := h
  rfl

theorem classArticles_entries {articles : List Node}
    (h : ctx.classArticles (ctx.documented ds) = .ok articles) :
    List.Forall₂ (ctx.IsClassEntry ds) ((classes (ctx.documented ds)).map classEntry) articles := by
  have hshown : ∀ d ∈ classes (ctx.documented ds), d ∈ ds ∧ ctx.showsClass d = true := by
    intro d hd
    have hm := (Declaration.arranged_sortByName _).perm.mem_iff.mp hd
    rw [filter_documented_class] at hm
    exact List.mem_filter.mp hm
  rw [List.forall₂_map_left_iff]
  have hnamed := (List.forall₂_and_left _ _).mpr ⟨hshown, mapM_eq_ok_iff.mp h⟩
  apply hnamed.imp
  rintro d article ⟨⟨hd, hshows⟩, hsection⟩
  obtain ⟨editUrl, parents, parameters, statics, instances, seen, rest, -, -, -, -, rfl⟩ :=
    classSection_parts hsection
  exact ⟨d, hd, hshows, ⟨hsection, editUrl, _, rfl⟩, rfl, _, _, rfl, rfl, rfl, rfl⟩

theorem groupArticle_items {group : Group} {articles : List Node}
    (h : ctx.groupArticle (ctx.documented ds) group = .ok articles) :
    ctx.AreGroupItems ds group (ctx.groupMenu (ctx.documented ds) group) articles := by
  have hshown : ∀ d ∈ ctx.groupItems (ctx.documented ds) group,
      d ∈ ds ∧ ctx.showsIn group d = true := by
    intro d hd
    have hm := (Declaration.arranged_sortByName _).perm.mem_iff.mp hd
    rw [filter_documented_group] at hm
    exact List.mem_filter.mp hm
  have hentry : ∀ {d section_}, (d ∈ ds ∧ ctx.showsIn group d = true) ∧
      ctx.symbolSection d = .ok section_ →
      ctx.IsSymbolEntry ds group (symbolEntry d) section_ := by
    rintro d section_ ⟨⟨hd, hshows⟩, hsection⟩
    obtain ⟨extras, rest, rfl⟩ := symbolSection_heading hsection
    refine ⟨d, hd, hshows, ⟨hsection, extras, rest, rfl⟩, ?_, _, _, rfl, rfl, rfl, rfl⟩
    unfold symbolEntry
    split <;> simp
  unfold groupArticle at h
  unfold groupMenu
  cases hmembers : ctx.groupItems (ctx.documented ds) group with
  | nil =>
      rw [hmembers] at h
      cases h
      exact .inl ⟨rfl, rfl⟩
  | cons first others =>
      simp only [hmembers, bind_eq_ok_iff, pure_eq_ok_iff] at h
      obtain ⟨sections, hsections, rfl⟩ := h
      have hall := mapM_eq_ok_iff.mp hsections
      have hnamed := (List.forall₂_and_left _ _).mpr ⟨hmembers ▸ hshown, hall⟩
      refine .inr ⟨(first :: others).map symbolEntry, sections, ?_, rfl, rfl, ?_⟩
      · rintro rfl
        cases hall
      · exact List.forall₂_map_left_iff.mpr (hnamed.imp fun _ _ => hentry)

-- Entries that lead to elements, one by one, have links to anchors in them.
theorem exists_slug_of_leadsTo {level : String} {entries : List MenuEntry} {nodes : List Node}
    (h : List.Forall₂ (fun entry node => entry.LeadsTo level node) entries nodes) :
    ∀ entry ∈ entries, ∃ slug ∈ slugsIn nodes, entry.link = "#" ++ slug := by
  induction h with
  | nil => exact List.forall_mem_nil _
  | @cons entry node entries nodes hentry _ ih =>
      obtain ⟨heading, slug, hheading, -, hslug, hlink⟩ := hentry
      rw [slugsIn_cons, List.forall_mem_cons]
      refine ⟨⟨slug, List.mem_append_left _ (mem_slugs_of_heading? hheading hslug), hlink⟩, ?_⟩
      intro other hm
      obtain ⟨found, hfound, hother⟩ := ih other hm
      exact ⟨found, List.mem_append_right _ hfound, hother⟩

theorem AreGroupItems.exists_slug {group : Group} {items : List MenuItem} {articles : List Node}
    (h : ctx.AreGroupItems ds group items articles) :
    ∀ item ∈ items, ∀ entry ∈ item.entries, ∃ slug ∈ slugsIn articles, entry.link = "#" ++ slug := by
  obtain ⟨rfl, rfl⟩ | ⟨entries, sections, -, rfl, rfl, hall⟩ := h
  · exact List.forall_mem_nil _
  · have hleads := hall.imp fun _ _ hentry => hentry.leadsTo
    rw [List.forall_mem_singleton]
    intro entry hm
    obtain ⟨slug, hslug, hlink⟩ := exists_slug_of_leadsTo hleads entry hm
    exact ⟨slug, by simpa [groupTitle] using hslug, hlink⟩

theorem renderPage_menu (h : ctx.renderPage ds = .ok page) :
    ∃ classes functions variables_ types entries functionItems variableItems,
      page.tree = classes ++ functions ++ variables_ ++ types ∧
      page.menu = entries.map .entry ++ functionItems ++ variableItems ∧
      List.Forall₂ (ctx.IsClassEntry ds) entries classes ∧
      ctx.AreGroupItems ds .functions functionItems functions ∧
      ctx.AreGroupItems ds .variables_ variableItems variables_ ∧
      ctx.AreGroupArticles ds .types types ∧
      ∀ item ∈ page.menu, ∀ entry ∈ item.entries,
        ∃ slug ∈ slugsIn page.tree, entry.link = "#" ++ slug := by
  obtain ⟨classes, functions, variables_, types, hclasses, hfunctions, hvariables, htypes, htree⟩ :=
    renderPage_parts h
  have hentries := classArticles_entries hclasses
  have hfunctionItems := groupArticle_items hfunctions
  have hvariableItems := groupArticle_items hvariables
  have hmenu : page.menu = (Context.classes (ctx.documented ds)).map (.entry ∘ classEntry) ++
      (ctx.groupMenu (ctx.documented ds) .functions ++
        ctx.groupMenu (ctx.documented ds) .variables_) := by
    rw [renderPage_menu_eq h, menu, Group.inMenu]
    simp
  refine ⟨classes, functions, variables_, types, _, _, _, htree, ?_, hentries, hfunctionItems,
    hvariableItems, groupArticle_arranged htypes, ?_⟩
  · rw [hmenu, List.map_map, List.append_assoc]
  · have hleads := hentries.imp fun _ _ hentry => hentry.leadsTo
    have hclass := exists_slug_of_leadsTo hleads
    rw [hmenu, htree]
    intro item hm entry hentry
    simp only [slugsIn_append, List.mem_append]
    rcases List.mem_append.mp hm with hm | hm
    · obtain ⟨d, hd, rfl⟩ := List.mem_map.mp hm
      rw [List.mem_singleton.mp hentry]
      obtain ⟨slug, hslug, hlink⟩ := hclass _ (List.mem_map_of_mem hd)
      exact ⟨slug, .inl (.inl (.inl hslug)), hlink⟩
    · rcases List.mem_append.mp hm with hm | hm
      · obtain ⟨slug, hslug, hlink⟩ := hfunctionItems.exists_slug item hm entry hentry
        exact ⟨slug, .inl (.inl (.inr hslug)), hlink⟩
      · obtain ⟨slug, hslug, hlink⟩ := hvariableItems.exists_slug item hm entry hentry
        exact ⟨slug, .inl (.inr hslug), hlink⟩

-- A function without signatures and a variable with one, so that each has the section of the other.
def exchangedSections : List Declaration :=
  [{ name := "on", kind := some .variable_, signatures := [{}] },
   { name := "Client", kind := some .class_ }, { name := "read", kind := some .function },
   { name := "Level", kind := some .typeAlias }]

theorem renderPage_menu_exchangedSections :
    ∃ page, sampleContext.renderPage exchangedSections = .ok page ∧
      page.menu = [.entry ⟨"Client", "#client"⟩,
        .group "Functions" [⟨"read()", "#globals-read"⟩],
        .group "Variables" [⟨"on", "#globals-on"⟩]] ∧
      ∀ item ∈ page.menu, ∀ entry ∈ item.entries,
        ∃ slug ∈ slugsIn page.tree, entry.link = "#" ++ slug := by
  obtain ⟨page, h⟩ : ∃ page, sampleContext.renderPage exchangedSections = .ok page := ⟨_, by cbv⟩
  obtain ⟨-, -, -, -, -, -, -, -, -, -, -, -, -, hlinks⟩ := renderPage_menu h
  refine ⟨page, h, ?_, hlinks⟩
  rw [renderPage_menu_eq h]
  decide +kernel

end Context

end ApiPages
