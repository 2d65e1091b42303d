import ApiPages.Proofs.Anchor.Identifier
import ApiPages.Proofs.Document.Slugs
import ApiPages.Proofs.Page.Arrangement
import ApiPages.Proofs.Page.TypeNodes

namespace ApiPages

open Node Outcome

theorem AreTypeNodes.slugsIn_eq_nil {ctx : Context} {nodes : List Node}
    (h : AreTypeNodes ctx nodes) : slugsIn nodes = [] := by
  rw [slugsIn_eq_nil_iff]
  intro node hm
  cases h node hm with
  | text s => rfl
  | marked s name _ => rfl
  | link name _ _ => rfl

namespace Context

variable {ctx : Context} {d : Declaration} {node : Node} {nodes : List Node}

theorem slugsIn_type {type : TypeExpr} (h : ctx.type type = .ok nodes) : slugsIn nodes = [] :=
  (areTypeNodes_type h).slugsIn_eq_nil

theorem slugsIn_comment (ctx : Context) (comment : Option Comment) :
    slugsIn (ctx.comment comment) = [] :=
  Prose.slugsIn_renderComment ctx.style comment

theorem slugsIn_typeLine {type : Option TypeExpr} (h : ctx.typeLine type = .ok nodes) :
    slugsIn nodes = [] := by
  cases type with
  | none =>
      cases h
      rfl
  | some type =>
      simp only [typeLine, bind_eq_ok_iff, pure_eq_ok_iff] at h
      obtain ⟨line, hline, rfl⟩ := h
      simp [slugsIn_type hline]

theorem slugsIn_parents {types : List TypeExpr} (h : ctx.parents types = .ok nodes) :
    slugsIn nodes = [] := by
  cases types with
  | nil =>
      cases h
      rfl
  | cons parent rest =>
      simp only [parents, bind_eq_ok_iff, pure_eq_ok_iff] at h
      obtain ⟨name, -, rfl⟩ := h
      split
      · rfl
      · split <;> rfl

theorem slugsIn_memberType {member : Declaration} (h : ctx.memberType member = .ok nodes) :
    slugsIn nodes = [] :=
  (areTypeNodes_memberType h).slugsIn_eq_nil

theorem slugs_memberRow {described : Bool} (h : ctx.memberRow described d = .ok node) :
    node.slugs = [] := by
  obtain ⟨type, htype, rfl⟩ := memberRow_parts h
  have hname : (nameCell d).slugs = [] := by
    unfold nameCell
    split <;> rfl
  have hdescription : (if described then ctx.descriptionCell d else Node.empty).slugs = [] := by
    split
    · exact slugsIn_firstBlockChildren (slugsIn_comment ctx d.documentation)
    · rfl
  simp [row, hname, hdescription, slugsIn_memberType htype]

theorem slugs_table {label : String} {members : List Declaration}
    (h : ctx.table label members = .ok node) : node.slugs = [] := by
  obtain ⟨rows, rfl, hrows⟩ := table_parts h
  have hheader : ∀ described, (headerRow label described).slugs = [] := by
    intro described
    cases described <;> rfl
  have hbody : slugsIn rows = [] := by
    rw [slugsIn_eq_nil_iff]
    intro row hm
    obtain ⟨member, -, hrow⟩ := exists_of_mem_forall₂ hrows.flip hm
    exact slugs_memberRow hrow
  simp [hheader, hbody]

-- Any number of tables.
theorem slugsIn_tables {α : Type} {label : String} {f : α → List Declaration} {items : List α}
    (h : items.mapM (fun a => ctx.table label (f a)) = .ok nodes) : slugsIn nodes = [] := by
  rw [slugsIn_eq_nil_iff]
  intro node hm
  obtain ⟨a, -, htable⟩ := exists_of_mem_mapM h hm
  exact slugs_table htable

theorem slugsIn_parameterTables (h : ctx.parameterTables d = .ok nodes) : slugsIn nodes = [] :=
  slugsIn_tables h

theorem slugsIn_templateTables (h : ctx.templateTables d = .ok nodes) : slugsIn nodes = [] := by
  unfold templateTables at h
  split at h
  · cases h
    rfl
  · simp only [bind_eq_ok_iff, pure_eq_ok_iff] at h
    obtain ⟨tables, htables, rfl⟩ := h
    simp [slugsIn_tables htables]

theorem slugsIn_returnLine (h : ctx.returnLine d = .ok nodes) : slugsIn nodes = [] := by
  unfold returnLine at h
  split at h
  · cases h
    rfl
  · split at h
    · cases h
      rfl
    · split at h
      · cases h
        rfl
      · simp only [bind_eq_ok_iff, pure_eq_ok_iff] at h
        obtain ⟨type, htype, rfl⟩ := h
        simp only [slugsIn_cons, slugs_tag, slugs_text, slugs_bareCode, slugsIn_type htype,
          slugsIn_nil, List.nil_append, List.append_nil]
        apply slugsIn_firstBlockChildren
        split
        · exact Prose.slugsIn_render ctx.style _
        · rfl

theorem slugsIn_constructorTables (h : ctx.constructorTables d = .ok nodes) :
    slugsIn nodes = [] := by
  unfold constructorTables at h
  split at h
  · split at h
    · cases h
      rfl
    · exact slugsIn_parameterTables h
  · cases h
    rfl

theorem slugsIn_baseLine {base : TypeExpr} (h : ctx.baseLine base = .ok nodes) :
    slugsIn nodes = [] := by
  unfold baseLine at h
  split at h
  · simp only [bind_eq_ok_iff, pure_eq_ok_iff] at h
    obtain ⟨type, htype, rfl⟩ := h
    simp [slugsIn_type htype]
  · cases h
    rfl

theorem slugsIn_variableBody {type : Option TypeExpr} (h : ctx.variableBody type = .ok nodes) :
    slugsIn nodes = [] := by
  unfold variableBody at h
  split at h
  · split at h
    · simp only [bind_eq_ok_iff, pure_eq_ok_iff] at h
      obtain ⟨table, htable, rfl⟩ := h
      simp [slugs_table htable]
    · exact slugsIn_typeLine h
  · split at h
    · simp only [bind_eq_ok_iff, pure_eq_ok_iff] at h
      obtain ⟨fields, -, table, htable, line, hline, rfl⟩ := h
      simp [slugs_table htable, slugsIn_baseLine hline]
    · exact slugsIn_typeLine h
  · exact slugsIn_typeLine h

theorem slugs_memberSection {owner separator slug : String}
    (h : ctx.memberSection owner separator slug d = .ok node) : node.slugs = [slug] := by
  obtain ⟨type, parameters, templates, returned, htype, hparameters, htemplates, hreturned, rfl⟩ :=
    memberSection_parts h
  have htitle : slugsIn (memberTitle owner separator d) = [] := by
    unfold memberTitle
    split <;> rfl
  simp [anchored, htitle, slugsIn_comment, slugsIn_typeLine htype,
    slugsIn_parameterTables hparameters, slugsIn_templateTables htemplates,
    slugsIn_returnLine hreturned]

-- The anchors that the members of a symbol would have if all of them were free.
def wishes (owner separator : String) (members : List Declaration) : List String :=
  members.map fun member => Anchor.ofMember owner member.name separator

theorem slugsIn_sectionsFor {owner separator : String} {seen after : List String}
    {members : List Declaration}
    (h : ctx.sectionsFor owner separator seen members = .ok (nodes, after)) :
    slugsIn nodes = Anchor.assign seen (wishes owner separator members) ∧
      after = (slugsIn nodes).reverse ++ seen := by
  induction members generalizing seen nodes with
  | nil =>
      cases h
      exact ⟨rfl, rfl⟩
  | cons member rest ih =>
      obtain ⟨first, others, hfirst, hothers, rfl⟩ := sectionsFor_parts h
      obtain ⟨hslugs, hafter⟩ := ih hothers
      have hhead := slugs_memberSection hfirst
      constructor
      · rw [slugsIn_cons, hhead, hslugs]
        rfl
      · rw [hafter, slugsIn_cons, hhead]
        simp

end Context

-- The anchors of one symbol: they are distinct, and each of them serves the symbol.
structure Anchor.AreOf (name : String) (slugs : List String) : Prop where
  nodup : slugs.Nodup
  serves : ∀ slug ∈ slugs, Serves name slug

-- An anchor of a symbol and those that its members are given after it.
theorem Anchor.areOf_assign {name slug : String} (wishes : List String)
    (hname : IsIdentifier name) (hslug : Serves name slug)
    (hwishes : ∀ wish ∈ wishes, ∃ member separator, (separator = "#" ∨ separator = ".") ∧
      wish = ofMember name member separator) :
    AreOf name (slug :: assign [slug] wishes) := by
  constructor
  · have h := assign_nodup [slug] wishes (List.nodup_singleton slug)
    exact List.perm_append_singleton slug _ |>.nodup_iff.mp h
  · intro given hgiven
    rcases List.mem_cons.mp hgiven with rfl | hgiven
    · exact hslug
    · obtain ⟨wish, hwish, hform⟩ := mem_assign hgiven
      obtain ⟨member, separator, hs, rfl⟩ := hwishes wish hwish
      obtain ⟨mark, rest, hm, hlist⟩ := toList_ofMember hname member hs
      rcases hform with rfl | ⟨n, -, rfl⟩
      · exact .ofMember mark rest hm hlist
      · refine .ofMember mark (rest ++ ("-" ++ toString n).toList) hm ?_
        simp [suffixed, hlist]

namespace Context

variable {ctx : Context} {ds : List Declaration} {d : Declaration} {node : Node}
  {nodes : List Node} {page : Page}

theorem exists_ofMember_of_wishes {owner separator wish : String} {members : List Declaration}
    (hs : separator = "#" ∨ separator = ".") (h : wish ∈ wishes owner separator members) :
    ∃ member separator, (separator = "#" ∨ separator = ".") ∧
      wish = Anchor.ofMember owner member separator := by
  obtain ⟨member, -, rfl⟩ := List.mem_map.mp h
  exact ⟨member.name, separator, hs, rfl⟩

-- An article or a section holds the anchors of one symbol.
def HasAnchorsOf (d : Declaration) (node : Node) : Prop := Anchor.AreOf d.name node.slugs

-- The members of both sections of a class share one list of taken anchors.
theorem slugs_classSection (h : ctx.classSection d = .ok node) :
    node.slugs = Text.lower d.name :: Anchor.assign [Text.lower d.name]
      (wishes d.name staticMark (visibleMembers (d.children.filter (·.flags.isStatic))) ++
        wishes d.name instanceMark (visibleMembers (d.children.filter (!·.flags.isStatic)))) := by
  obtain ⟨editUrl, parents, parameters, statics, instances, seen, rest, hparents, hparameters,
    hstatics, hinstances, rfl⟩ := classSection_parts h
  obtain ⟨hs, hseen⟩ := slugsIn_sectionsFor hstatics
  obtain ⟨hi, -⟩ := slugsIn_sectionsFor hinstances
  rw [Anchor.assign_append, ← hs, ← hseen, ← hi]
  simp [classHeading, slugsIn_comment, slugsIn_parents hparents,
    slugsIn_constructorTables hparameters]

theorem slugs_functionSection (h : ctx.functionSection d = .ok node) :
    node.slugs = Anchor.ofSymbol d.name :: Anchor.assign [Anchor.ofSymbol d.name]
      (wishes d.name instanceMark (visibleMembers d.children)) := by
  obtain ⟨parameters, templates, returned, members, seen, hparameters, htemplates, hreturned,
    hmembers, rfl⟩ := functionSection_parts h
  obtain ⟨hm, -⟩ := slugsIn_sectionsFor hmembers
  rw [← hm]
  simp [symbolHeading, anchored, extra, slugsIn_comment, slugsIn_parameterTables hparameters,
    slugsIn_templateTables htemplates, slugsIn_returnLine hreturned]

theorem areOf_classSection (hname : Anchor.IsIdentifier d.name)
    (h : ctx.classSection d = .ok node) : HasAnchorsOf d node := by
  rw [HasAnchorsOf, slugs_classSection h]
  apply Anchor.areOf_assign _ hname (.ofClass rfl)
  intro wish hwish
  rcases List.mem_append.mp hwish with hwish | hwish
  · exact exists_ofMember_of_wishes (.inr rfl) hwish
  · exact exists_ofMember_of_wishes (.inl rfl) hwish

theorem areOf_symbolSection (hname : Anchor.IsIdentifier d.name)
    (h : ctx.symbolSection d = .ok node) : HasAnchorsOf d node := by
  unfold symbolSection at h
  split at h
  · obtain ⟨body, hbody, rfl⟩ := variableSection_parts h
    have hslugs := Anchor.areOf_assign [] hname (.ofSymbol rfl) (by simp)
    simpa [HasAnchorsOf, symbolHeading, anchored, slugsIn_comment, slugsIn_variableBody hbody,
      Anchor.assign] using hslugs
  · rw [HasAnchorsOf, slugs_functionSection h]
    apply Anchor.areOf_assign _ hname (.ofSymbol rfl)
    exact fun wish hwish => exists_ofMember_of_wishes (.inl rfl) hwish

-- Each anchor is that of some symbol, whose name can be read off it.
theorem exists_servedName (h : List.Forall₂ HasAnchorsOf ds nodes)
    (hident : ∀ d ∈ ds, Anchor.IsIdentifier d.name)
    (hglobals : ∀ d ∈ ds, Text.lower d.name ≠ "globals") :
    ∀ slug ∈ slugsIn nodes, ∃ d ∈ ds, Anchor.servedName slug = (Text.lower d.name).toList := by
  induction h with
  | nil => simp
  | @cons d node ds nodes hd _ ih =>
      rw [List.forall_mem_cons] at hident hglobals
      intro slug hslug
      rw [slugsIn_cons] at hslug
      rcases List.mem_append.mp hslug with hslug | hslug
      · exact ⟨d, List.mem_cons_self, (hd.serves slug hslug).servedName hident.1 hglobals.1⟩
      · obtain ⟨other, hm, hs⟩ := ih hident.2 hglobals.2 slug hslug
        exact ⟨other, List.mem_cons_of_mem _ hm, hs⟩

-- Symbols whose names differ in more than their case have different anchors.
theorem nodup_slugsIn (h : List.Forall₂ HasAnchorsOf ds nodes)
    (hident : ∀ d ∈ ds, Anchor.IsIdentifier d.name)
    (hglobals : ∀ d ∈ ds, Text.lower d.name ≠ "globals")
    (hnames : (ds.map fun d => Text.lower d.name).Nodup) : (slugsIn nodes).Nodup := by
  induction h with
  | nil => exact List.nodup_nil
  | @cons d node ds nodes hd hrest ih =>
      rw [List.forall_mem_cons] at hident hglobals
      rw [List.map_cons, List.nodup_cons] at hnames
      rw [slugsIn_cons, List.nodup_append']
      refine ⟨hd.nodup, ih hident.2 hglobals.2 hnames.2, ?_⟩
      intro slug hslug hother
      have hown := (hd.serves slug hslug).servedName hident.1 hglobals.1
      obtain ⟨other, hm, hs⟩ := exists_servedName hrest hident.2 hglobals.2 slug hother
      have hsame : Text.lower other.name = Text.lower d.name :=
        String.toList_inj.mp (hs.symm.trans hown)
      exact hnames.1 (List.mem_map.mpr ⟨other, hm, hsame⟩)

-- The nodes hold an article or a section for each declaration, in some order.
def HaveAnchorsOf (ds : List Declaration) (nodes : List Node) : Prop :=
  ∃ arranged sections, arranged.Perm ds ∧ List.Forall₂ HasAnchorsOf arranged sections ∧
    slugsIn nodes = slugsIn sections

theorem HaveAnchorsOf.append {others : List Declaration} {rest : List Node}
    (h : HaveAnchorsOf ds nodes) (ho : HaveAnchorsOf others rest) :
    HaveAnchorsOf (ds ++ others) (nodes ++ rest) := by
  obtain ⟨arranged, sections, hperm, hsections, hslugs⟩ := h
  obtain ⟨arrangedRest, sectionsRest, hpermRest, hsectionsRest, hslugsRest⟩ := ho
  refine ⟨arranged ++ arrangedRest, sections ++ sectionsRest, hperm.append hpermRest,
    List.rel_append hsections hsectionsRest, ?_⟩
  rw [slugsIn_append, slugsIn_append, hslugs, hslugsRest]

theorem HaveAnchorsOf.nodup (h : HaveAnchorsOf ds nodes)
    (hident : ∀ d ∈ ds, Anchor.IsIdentifier d.name)
    (hnames : (ds.map fun d => Text.lower d.name).Nodup)
    (hglobals : ∀ d ∈ ds, Text.lower d.name ≠ "globals") : (slugsIn nodes).Nodup := by
  obtain ⟨arranged, sections, hperm, hsections, hslugs⟩ := h
  rw [hslugs]
  exact nodup_slugsIn hsections (fun d hd => hident d (hperm.mem_iff.mp hd))
    (fun d hd => hglobals d (hperm.mem_iff.mp hd)) ((hperm.map _).nodup_iff.mpr hnames)

theorem AreClassArticles.haveAnchors (h : ctx.AreClassArticles ds nodes)
    (hident : ∀ d ∈ ds.filter ctx.showsClass, Anchor.IsIdentifier d.name) :
    HaveAnchorsOf (ds.filter ctx.showsClass) nodes := by
  obtain ⟨classes, harranged, harticles⟩ := h
  refine ⟨classes, nodes, harranged.perm, ?_, rfl⟩
  have hnamed := (List.forall₂_and_left _ _).mpr
    ⟨fun d hd => hident d (harranged.perm.mem_iff.mp hd), harticles⟩
  exact hnamed.imp fun d node hd => areOf_classSection hd.1 hd.2.1

-- The heading of a group has no anchor.
theorem AreGroupArticles.haveAnchors {group : Group} (h : ctx.AreGroupArticles ds group nodes)
    (hident : ∀ d ∈ ds.filter (ctx.showsIn group), Anchor.IsIdentifier d.name) :
    HaveAnchorsOf (ds.filter (ctx.showsIn group)) nodes := by
  obtain ⟨members, harranged, ⟨rfl, rfl⟩ | ⟨-, sections, hsections, rfl⟩⟩ := h
  · exact ⟨[], [], harranged.perm, .nil, rfl⟩
  · refine ⟨members, sections, harranged.perm, ?_, by simp [groupTitle]⟩
    have hnamed := (List.forall₂_and_left _ _).mpr
      ⟨fun d hd => hident d (harranged.perm.mem_iff.mp hd), hsections⟩
    exact hnamed.imp fun d node hd => areOf_symbolSection hd.1 hd.2.1

-- The declarations with an article or a section of their own: the classes that are shown and the
-- members of the groups.
def selected (ctx : Context) (ds : List Declaration) : List Declaration :=
  ds.filter ctx.showsClass ++ Group.all.flatMap fun group => ds.filter (ctx.showsIn group)

-- The names of the members are free; only those of the selected declarations must be identifiers
-- that are told apart without regard to case.
theorem renderPage_slugs_nodup (h : ctx.renderPage ds = .ok page)
    (hident : ∀ d ∈ ctx.selected ds, Anchor.IsIdentifier d.name)
    (hnames : ((ctx.selected ds).map fun d => Text.lower d.name).Nodup)
    (hglobals : ∀ d ∈ ctx.selected ds, Text.lower d.name ≠ "globals") :
    (slugsIn page.tree).Nodup := by
  obtain ⟨classes, functions, variables_, types, hclasses, hfunctions, hvariables, htypes, htree⟩ :=
    renderPage_parts h
  have hparts : ∀ d, (d ∈ ds.filter ctx.showsClass ∨ ∃ group, d ∈ ds.filter (ctx.showsIn group)) →
      Anchor.IsIdentifier d.name := by
    rintro d (hd | ⟨group, hd⟩)
    · exact hident d (List.mem_append_left _ hd)
    · have hgroup : group ∈ Group.all := by cases group <;> decide
      exact hident d (List.mem_append_right _ (List.mem_flatMap.mpr ⟨group, hgroup, hd⟩))
  have harticles := (classArticles_arranged hclasses).haveAnchors fun d hd => hparts d (.inl hd)
  have hgroup : ∀ {group articles}, ctx.groupArticle (ctx.documented ds) group = .ok articles →
      HaveAnchorsOf (ds.filter (ctx.showsIn group)) articles := fun harticle =>
    (groupArticle_arranged harticle).haveAnchors fun d hd => hparts d (.inr ⟨_, hd⟩)
  have hall := ((harticles.append (hgroup hfunctions)).append (hgroup hvariables)).append
    (hgroup htypes)
  have hpage : HaveAnchorsOf (ctx.selected ds) page.tree := by
    simpa [htree, selected, Group.all] using hall
  exact hpage.nodup hident hnames hglobals

def sampleMember (name : String) (isStatic : Bool) : Declaration :=
  { name, kind := some .property, flags := { isStatic } }

-- Members that differ in their case only, or that look like numbered ones.
def similarMembers : List Declaration :=
  [{ name := "A", kind := some .class_,
     children := [sampleMember "b" false, sampleMember "B" false, sampleMember "b-2" false,
       sampleMember "b" true] },
   { name := "f", kind := some .function, signatures := [{}],
     children := [sampleMember "f" false, sampleMember "F" false] },
   { name := "V", kind := some .variable_ }]

theorem renderPage_slugs_nodup_similarMembers :
    ∃ page, sampleContext.renderPage similarMembers = .ok page ∧ (slugsIn page.tree).Nodup := by
  obtain ⟨page, h⟩ : ∃ page, sampleContext.renderPage similarMembers = .ok page := ⟨_, by cbv⟩
  refine ⟨page, h, renderPage_slugs_nodup h ?_ ?_ ?_⟩
  · decide +kernel
  · decide +kernel
  · decide +kernel

end Context

end ApiPages
