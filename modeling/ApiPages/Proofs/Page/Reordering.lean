import ApiPages.Proofs.Page.Agreement
import ApiPages.Proofs.Page.Arrangement

namespace ApiPages

-- Declarations put anywhere between others, which stay as they stand.
inductive Interspersed {α : Type} (added : α → Prop) : List α → List α → Prop
  | nil : Interspersed added [] []
  | kept (a : α) {items all : List α} (h : Interspersed added items all) :
      Interspersed added (a :: items) (a :: all)
  | added {a : α} {items all : List α} (ha : added a) (h : Interspersed added items all) :
      Interspersed added items (a :: all)

theorem Interspersed.filter_eq {α : Type} {added : α → Prop} {items all : List α}
    (h : Interspersed added items all) {p : α → Bool} (hp : ∀ a, added a → p a = false) :
    all.filter p = items.filter p := by
  induction h with
  | nil => rfl
  | kept a _ ih => rw [List.filter_cons, List.filter_cons, ih]
  | added ha _ ih => rw [List.filter_cons, hp _ ha, ih]; rfl

-- What is looked for in two orders is found the same if there is at most one such item.
theorem find?_eq_of_perm {α : Type} {p : α → Bool} {items others : List α}
    (hperm : others.Perm items)
    (hunique : ∀ a ∈ items, ∀ b ∈ items, p a = true → p b = true → a = b) :
    others.find? p = items.find? p := by
  cases hfound : others.find? p with
  | none =>
      rw [List.find?_eq_none] at hfound
      exact (List.find?_eq_none.mpr fun a ha => hfound a (hperm.mem_iff.mpr ha)).symm
  | some a =>
      have ha := hperm.mem_iff.mp (List.mem_of_find?_eq_some hfound)
      cases hother : items.find? p with
      | none => exact absurd (List.find?_some hfound) (List.find?_eq_none.mp hother a ha)
      | some b =>
          have hb := List.mem_of_find?_eq_some hother
          rw [hunique a ha b hb (List.find?_some hfound) (List.find?_some hother)]

-- Declarations that carry one number are one declaration.
def NumbersAreUnique (ds : List Declaration) : Prop :=
  ∀ d ∈ walkAll ds, ∀ other ∈ walkAll ds, ∀ id ∈ d.id, ∀ id' ∈ other.id, id.value = id'.value →
    d = other

-- No group collects the declaration, and no reference in the others goes by a number in it.
structure IsAside (ds : List Declaration) (d : Declaration) : Prop where
  kind : ∀ kind ∈ d.kind, kind ≠ .class_ ∧ ∀ group : Group, kind ∉ group.kinds
  numbers : ∀ found ∈ d.walk, ∀ id ∈ found.id, ∀ whole ∈ ds, ∀ r target,
    (ModelPart.type (.reference r)).Occurs (.declaration whole) → r.targetId = some target →
    id.value ≠ target.value

namespace SymbolIndex

variable {ds ds' : List Declaration}

theorem lookup?_eq_of_perm (hperm : ds'.Perm ds) (hunique : NumbersAreUnique ds) (id : SymbolId) :
    (ofDeclarations ds').lookup? id = (ofDeclarations ds).lookup? id := by
  rw [lookup?_ofDeclarations, lookup?_ofDeclarations]
  refine find?_eq_of_perm ?_ fun d hd other hother hid hid' => ?_
  · rw [walkAll_eq_flatMap, walkAll_eq_flatMap]
    exact hperm.flatMap_right _
  · obtain ⟨own, hown, hvalue⟩ := Declaration.carries_iff.mp hid
    obtain ⟨own', hown', hvalue'⟩ := Declaration.carries_iff.mp hid'
    exact hunique d hd other hother own hown own' hown' (hvalue.trans hvalue'.symm)

theorem lookup?_eq_of_interspersed {added : Declaration → Prop} (h : Interspersed added ds ds')
    {id : SymbolId} (hid : ∀ d, added d → ∀ found ∈ d.walk, found.carries id = false) :
    (ofDeclarations ds').lookup? id = (ofDeclarations ds).lookup? id := by
  rw [lookup?_ofDeclarations, lookup?_ofDeclarations]
  induction h with
  | nil => rfl
  | kept d _ ih => rw [walkAll, walkAll, List.find?_append, List.find?_append, ih]
  | @added d items all hd _ ih =>
      have hnone : d.walk.find? (·.carries id) = none :=
        List.find?_eq_none.mpr fun found hfound => by simp [hid d hd found hfound]
      rw [walkAll, List.find?_append, hnone, ih, Option.none_or]

end SymbolIndex

theorem IsAside.carries_eq_false {ds : List Declaration} {d : Declaration} (h : IsAside ds d)
    {whole : Declaration} (hwhole : whole ∈ ds) {r : Reference} {target : SymbolId}
    (hr : (ModelPart.type (.reference r)).Occurs (.declaration whole))
    (htarget : r.targetId = some target) : ∀ found ∈ d.walk, found.carries target = false := by
  intro found hfound
  rw [Bool.eq_false_iff]
  intro hcarries
  obtain ⟨id, hid, hvalue⟩ := Declaration.carries_iff.mp hcarries
  exact h.numbers found hfound id hid whole hwhole r target hr htarget hvalue

namespace Declaration

theorem name_eq_of_nameKey_eq {a b : Declaration} (h : a.nameKey = b.nameKey) :
    a.name = b.name :=
  codes_strictMono.injective (congrArg (fun key => (ofLex key).2) h)

-- Declarations with names of their own have one order.
theorem sortByName_eq_of_perm {ds ds' : List Declaration} (hperm : ds'.Perm ds)
    (hnames : (ds.map (·.name)).Nodup) : sortByName ds' = sortByName ds := by
  have hleft := arranged_sortByName ds'
  have hright := arranged_sortByName ds
  refine List.Perm.eq_of_pairwise (fun a b ha hb hab hba => ?_) hleft.ascending hright.ascending
    ((hleft.perm.trans hperm).trans hright.perm.symm)
  have ha := hperm.mem_iff.mp (hleft.perm.mem_iff.mp ha)
  have hb := hright.perm.mem_iff.mp hb
  exact List.inj_on_of_nodup_map hnames ha hb (name_eq_of_nameKey_eq (le_antisymm hab hba))

end Declaration

namespace Context

variable {ctx : Context} {ds ds' : List Declaration}

-- Declarations reach a page through the classes and the groups that they make, and otherwise only
-- through the symbols.
theorem renderPage_eq_of_groups
    (hclasses : classes (ctx.documented ds') = classes (ctx.documented ds))
    (hgroups : ∀ group,
      ctx.groupItems (ctx.documented ds') group = ctx.groupItems (ctx.documented ds) group) :
    ctx.renderPage ds' = ctx.renderPage ds := by
  have harticle : ctx.groupArticle (ctx.documented ds') = ctx.groupArticle (ctx.documented ds) := by
    funext group
    rw [groupArticle, groupArticle, hgroups]
  have hmenu : ctx.groupMenu (ctx.documented ds') = ctx.groupMenu (ctx.documented ds) := by
    funext group
    rw [groupMenu, groupMenu, hgroups]
  simp only [renderPage, tree, classArticles, menu, hclasses, harticle, hmenu]

theorem renderPage_eq_of_perm (hperm : ds'.Perm ds) (hnames : (ds.map (·.name)).Nodup) :
    ctx.renderPage ds' = ctx.renderPage ds := by
  have hsorted : ∀ p : Declaration → Bool,
      Declaration.sortByName (ds'.filter p) = Declaration.sortByName (ds.filter p) := by
    intro p
    exact Declaration.sortByName_eq_of_perm (hperm.filter p)
      (hnames.sublist (List.filter_sublist.map _))
  refine renderPage_eq_of_groups ?_ fun group => ?_
  · rw [classes, classes, filter_documented_class, filter_documented_class, hsorted]
  · rw [groupItems, groupItems, filter_documented_group, filter_documented_group, hsorted]

theorem showsClass_of_isAside {d : Declaration} (h : IsAside ds d) : ctx.showsClass d = false := by
  cases hkind : d.kind with
  | none => simp [showsClass, hkind]
  | some kind => simp [showsClass, hkind, (h.kind kind hkind).1]

theorem showsIn_of_isAside {d : Declaration} (h : IsAside ds d) (group : Group) :
    ctx.showsIn group d = false := by
  cases hkind : d.kind with
  | none => simp [showsIn, hkind]
  | some kind => simp [showsIn, hkind, (h.kind kind hkind).2 group]

theorem renderPage_eq_of_interspersed (h : Interspersed (IsAside ds) ds ds') :
    ctx.renderPage ds' = ctx.renderPage ds := by
  refine renderPage_eq_of_groups ?_ fun group => ?_
  · rw [classes, classes, filter_documented_class, filter_documented_class]
    exact congrArg _ (h.filter_eq fun d hd => showsClass_of_isAside hd)
  · rw [groupItems, groupItems, filter_documented_group, filter_documented_group]
    exact congrArg _ (h.filter_eq fun d hd => showsIn_of_isAside hd group)

end Context

namespace Page

open Context

section Orders

variable [Markdown.Extensions] {identity : String} {settings : Settings} {ds ds' : List Declaration}

-- A page is made of other declarations the same if it is so in one context and if the references in
-- the declarations mean the same among the other ones.
theorem render_eq_of_lookUps (hpage : ∀ ctx : Context, ctx.renderPage ds' = ctx.renderPage ds)
    (h : ∀ whole ∈ ds, ∀ r id, (ModelPart.type (.reference r)).Occurs (.declaration whole) →
      r.targetId = some id → (SymbolIndex.ofDeclarations ds).lookup? id =
        (SymbolIndex.ofDeclarations ds').lookup? id) :
    render identity settings ds' = render identity settings ds := by
  let means (part : ModelPart) : Prop := ∀ r id, (ModelPart.type (.reference r)).Occurs part →
    r.targetId = some id →
      (SymbolIndex.ofDeclarations ds).lookup? id = (SymbolIndex.ofDeclarations ds').lookup? id
  have hinner : ModelPart.Inherited means :=
    fun whole part hwhole hpart r id hr => hwhole r id (hr.of_inner hpart)
  have hds : ∀ d ∈ ds, means (.declaration d) := h
  unfold render
  rw [create_moved identity identity settings ds ds']
  cases hctx : Context.create identity settings ds with
  | error fault => rfl
  | ok ctx =>
      obtain ⟨hidentity, -, hsymbols⟩ := create_ok hctx
      have hlooked : ∀ id d, ctx.symbols.lookup? id = some d → means (.declaration d) := by
        intro id d hd
        rw [hsymbols] at hd
        obtain ⟨whole, hwhole, hoccurs⟩ := SymbolIndex.occurs_of_lookup? hd
        exact hinner.occurs hoccurs (hds whole hwhole)
      have hsame : ctx.renderPage ds =
          (ctx.moved ctx.page (SymbolIndex.ofDeclarations ds')).renderPage ds := by
        refine renderPage_eq_of_lookUps hinner hds hlooked fun r id hr hid => ?_
        rw [hsymbols]
        exact hr r id (.refl _) hid
      rw [hidentity] at hsame
      exact (hpage _).trans hsame.symm

theorem render_reordering (identity : String) (settings : Settings) (ds : List Declaration) :
    ((ds.map (·.name)).Nodup → NumbersAreUnique ds →
      ∀ ds', ds'.Perm ds → render identity settings ds' = render identity settings ds) ∧
    ∀ ds', Interspersed (IsAside ds) ds ds' →
      render identity settings ds' = render identity settings ds := by
  constructor
  · intro hnames hunique ds' hperm
    refine render_eq_of_lookUps (fun ctx => renderPage_eq_of_perm hperm hnames) ?_
    intro _ _ _ id _ _
    exact (SymbolIndex.lookup?_eq_of_perm hperm hunique id).symm
  · intro ds' h
    refine render_eq_of_lookUps (fun ctx => renderPage_eq_of_interspersed h) ?_
    intro whole hwhole r id hr hid
    refine (SymbolIndex.lookup?_eq_of_interspersed h fun d hd => ?_).symm
    exact hd.carries_eq_false hwhole hr hid

end Orders

def plainSettings : Settings := { root := {}, outputDir := {}, highlightMark := "" }

-- A variable of a class that is known by its number.
def linkedPage : List Declaration :=
  [{ name := "client", kind := some .variable_,
     type := some (.reference { name := "Client", targetId := some (.number 1) }) },
   { name := "Client", kind := some .class_, id := some (.number 1) }]

-- The class under a second number that nothing refers to.
def reexport : Declaration :=
  { name := "Client", kind := some .reference, id := some (.number 2) }

attribute [local instance] Markdown.noExtensions

theorem render_reordering_linkedPage :
    render "client-api" plainSettings linkedPage.reverse =
        render "client-api" plainSettings linkedPage ∧
      render "client-api" plainSettings (reexport :: linkedPage) =
        render "client-api" plainSettings linkedPage := by
  obtain ⟨hreordered, hinterspersed⟩ := render_reordering "client-api" plainSettings linkedPage
  constructor
  · refine hreordered (by decide) ?_ _ (List.reverse_perm _)
    have hwalk : walkAll linkedPage = linkedPage := by
      simp [linkedPage, walkAll, Declaration.walk, walkSignatures, walkType?, TypeExpr.walk,
        walkTarget?, walkTypes]
    have hcarrier : ∀ d ∈ walkAll linkedPage, ∀ id ∈ d.id,
        d = { name := "Client", kind := some .class_, id := some (.number 1) } := by
      rw [hwalk]
      simp [linkedPage]
    intro d hd other hother id hid id' hid' _
    exact (hcarrier d hd id hid).trans (hcarrier other hother id' hid').symm
  · refine hinterspersed _ (.added ⟨?_, ?_⟩ (.kept _ (.kept _ .nil)))
    · intro kind hkind
      cases hkind
      exact ⟨by decide, fun group => by cases group <;> decide⟩
    · intro found hfound id hid whole hwhole r target hr htarget
      have hnumber : id = .number 2 := by
        simp [reexport, Declaration.walk, walkAll, walkSignatures, walkType?] at hfound
        subst hfound
        cases hid
        rfl
      have hone : target = .number 1 := by
        simp only [linkedPage, List.mem_cons, List.not_mem_nil, or_false] at hwhole
        obtain h | ⟨middle, hm, hmiddle⟩ := ModelPart.occurs_iff.mp hr
        · cases h
        · obtain rfl | rfl := hwhole
          · rw [List.mem_singleton.mp hm] at hmiddle
            obtain h | ⟨middle, hm, -⟩ := ModelPart.occurs_iff.mp hmiddle
            · cases h
              cases htarget
              rfl
            · cases hm
          · cases hm
      rw [hnumber, hone]
      decide

end Page

end ApiPages
