import ApiPages.Proofs.Page.Menu
import ApiPages.Proofs.Prose.Mention

namespace ApiPages.Context

open Node Outcome

variable {ctx : Context} {ds : List Declaration} {d : Declaration} {node : Node}
  {nodes : List Node} {owner separator : String} {page : Page}

-- A section opens with the heading of a member, whose anchor has a number if it has to. Where it has
-- none and the names are plain, a mention of the member in any text is a link to that anchor, marked
-- for an owner without a capital.
def IsMentionedIn (owner separator : String) (member : Declaration) (section_ : Node) : Prop :=
  ∃ heading slug, section_.heading? = some heading ∧ heading.tag = "h2" ∧
    heading.slug = some slug ∧
    (slug = Anchor.ofMember owner member.name separator ∨
      ∃ n, 2 ≤ n ∧ slug = Anchor.suffixed (Anchor.ofMember owner member.name separator) n) ∧
    (Anchor.IsPlain owner → Anchor.IsPlain member.name →
      slug = Anchor.ofMember owner member.name separator → ∀ before after,
        Prose.linkMentions
            (before ++ Prose.mentionOf (owner ++ separator ++ member.name) ++ after) =
          Prose.linkMentions before ++
            Prose.linkTo (owner ++ separator ++ member.name) (Anchor.marked owner slug) ++
            Prose.linkMentions after)

theorem memberSection_isMentionedIn {seen : List String}
    (hseparator : separator = "#" ∨ separator = ".")
    (h : ctx.memberSection owner separator
      (Anchor.unique (Anchor.ofMember owner d.name separator) seen) d = .ok node) :
    IsMentionedIn owner separator d node := by
  obtain ⟨type, parameters, templates, returned, -, -, -, -, rfl⟩ := memberSection_parts h
  refine ⟨_, _, rfl, rfl, rfl, Anchor.unique_eq _ seen, ?_⟩
  intro howner hmember hslug before after
  rw [hslug]
  exact Prose.linkMentions_append_member howner hmember hseparator before after

theorem sectionsFor_areMentioned {members : List Declaration} {seen after : List String}
    (hseparator : separator = "#" ∨ separator = ".")
    (h : ctx.sectionsFor owner separator seen members = .ok (nodes, after)) :
    List.Forall₂ (IsMentionedIn owner separator) members nodes := by
  induction members generalizing seen nodes with
  | nil =>
      cases h
      exact .nil
  | cons member rest ih =>
      obtain ⟨first, others, hfirst, hothers, rfl⟩ := sectionsFor_parts h
      exact .cons (memberSection_isMentionedIn hseparator hfirst) (ih hothers)

-- The sections of the members stand at the end of the article of a class: those of the static ones,
-- then the other ones.
theorem classSection_members (h : ctx.classSection d = .ok node) :
    ∃ start statics instances, node = Node.tag "article" (start ++ statics ++ instances) ∧
      List.Forall₂ (IsMentionedIn d.name staticMark)
        (visibleMembers (d.children.filter (·.flags.isStatic))) statics ∧
      List.Forall₂ (IsMentionedIn d.name instanceMark)
        (visibleMembers (d.children.filter (!·.flags.isStatic))) instances := by
  obtain ⟨editUrl, parents, parameters, statics, instances, seen, rest, -, -, hstatics, hinstances,
    rfl⟩ := classSection_parts h
  exact ⟨classHeading d editUrl :: (parents ++ ctx.comment d.comment ++ parameters), statics,
    instances, rfl, sectionsFor_areMentioned (.inr rfl) hstatics,
    sectionsFor_areMentioned (.inl rfl) hinstances⟩

theorem functionSection_members (h : ctx.functionSection d = .ok node) :
    ∃ start members, node = Node.tag "section" (start ++ members) ∧
      List.Forall₂ (IsMentionedIn d.name instanceMark) (visibleMembers d.children) members := by
  obtain ⟨parameters, templates, returned, members, seen, -, -, -, hmembers, rfl⟩ :=
    functionSection_parts h
  exact ⟨symbolHeading d [extra d.argumentsText] ::
      (ctx.comment (headComment d) ++ parameters ++ templates ++ returned), members, rfl,
    sectionsFor_areMentioned (.inl rfl) hmembers⟩

-- Every class and every symbol with signatures that a page shows has a section for each visible
-- member in turn.
theorem renderPage_memberLinks (h : ctx.renderPage ds = .ok page) (hd : d ∈ ds) :
    (ctx.showsClass d = true → ∃ article ∈ page.tree, ctx.IsClassArticle d article ∧
      ∃ start statics instances, article = Node.tag "article" (start ++ statics ++ instances) ∧
        List.Forall₂ (IsMentionedIn d.name staticMark)
          (visibleMembers (d.children.filter (·.flags.isStatic))) statics ∧
        List.Forall₂ (IsMentionedIn d.name instanceMark)
          (visibleMembers (d.children.filter (!·.flags.isStatic))) instances) ∧
    ∀ group, ctx.showsIn group d = true → d.signatures ≠ [] →
      ∃ sections, Node.tag "article" (groupTitle group :: sections) ∈ page.tree ∧
        ∃ section_ ∈ sections, ctx.IsSymbolSection d section_ ∧
          ∃ start members, section_ = Node.tag "section" (start ++ members) ∧
            List.Forall₂ (IsMentionedIn d.name instanceMark) (visibleMembers d.children)
              members := by
  constructor
  · intro hshows
    obtain ⟨article, hon, harticle⟩ := exists_classArticle h hd hshows
    exact ⟨article, hon, harticle, classSection_members harticle.1⟩
  · intro group hshows hsignatures
    obtain ⟨sections, hon, section_, hsection, his⟩ := exists_symbolSection h hd hshows
    have hfunction : ctx.functionSection d = .ok section_ := by
      have hsymbol := his.1
      rwa [symbolSection, if_neg (by simpa using hsignatures)] at hsymbol
    exact ⟨sections, hon, section_, hsection, his, functionSection_members hfunction⟩

def logProperty : Declaration := { name := "log", kind := some .property }

def createMethod : Declaration :=
  { name := "create", kind := some .method, flags := { isStatic := true } }

def optsProperty : Declaration := { name := "opts", kind := some .property }

def clientClass : Declaration :=
  { name := "Client", kind := some .class_, children := [logProperty, createMethod] }

def connectFunction : Declaration :=
  { name := "connect", kind := some .function, signatures := [{}], children := [optsProperty] }

-- A class with a static member and another one, and a function with a member.
def ownersOfMembers : List Declaration := [clientClass, connectFunction]

theorem renderPage_ownersOfMembers :
    ∃ page, sampleContext.renderPage ownersOfMembers = .ok page ∧
      slugsIn page.tree =
        ["client", "client.create", "client-log", "globals-connect", "connect-opts"] :=
  exists_eq_ok_of_toOption (by decide +kernel)

theorem renderPage_memberLinks_ownersOfMembers :
    ∃ page article start statics instances section_ before members,
      sampleContext.renderPage ownersOfMembers = .ok page ∧ article ∈ page.tree ∧
      article = Node.tag "article" (start ++ statics ++ instances) ∧
      List.Forall₂ (IsMentionedIn "Client" ".") [createMethod] statics ∧
      List.Forall₂ (IsMentionedIn "Client" "#") [logProperty] instances ∧
      section_ = Node.tag "section" (before ++ members) ∧
      List.Forall₂ (IsMentionedIn "connect" "#") [optsProperty] members := by
  obtain ⟨page, h, -⟩ := renderPage_ownersOfMembers
  have hclient : clientClass ∈ ownersOfMembers := by simp [ownersOfMembers]
  have hconnect : connectFunction ∈ ownersOfMembers := by simp [ownersOfMembers]
  obtain ⟨article, hon, -, start, statics, instances, harticle, hstatics, hinstances⟩ :=
    (renderPage_memberLinks h hclient).1 (by decide)
  obtain ⟨sections, -, section_, -, -, before, members, hsection, hmembers⟩ :=
    (renderPage_memberLinks h hconnect).2 .functions (by decide) (List.cons_ne_nil _ _)
  have hcreate : visibleMembers (clientClass.children.filter (·.flags.isStatic)) =
      [createMethod] := by
    simp [visibleMembers, Declaration.sortMembers, clientClass, createMethod, logProperty,
      hiddenMembers]
  have hlog : visibleMembers (clientClass.children.filter (!·.flags.isStatic)) = [logProperty] := by
    simp [visibleMembers, Declaration.sortMembers, clientClass, createMethod, logProperty,
      hiddenMembers]
  have hopts : visibleMembers connectFunction.children = [optsProperty] := by
    simp [visibleMembers, Declaration.sortMembers, connectFunction, optsProperty, hiddenMembers]
  rw [hcreate] at hstatics
  rw [hlog] at hinstances
  rw [hopts] at hmembers
  exact ⟨page, article, start, statics, instances, section_, before, members, h, hon, harticle,
    hstatics, hinstances, hsection, hmembers⟩

-- The mention of the member of a function leads to an anchor that the page does not have.
theorem renderPage_memberLinks_missedHeading :
    ∃ page, sampleContext.renderPage ownersOfMembers = .ok page ∧
      slugsIn page.tree =
        ["client", "client.create", "client-log", "globals-connect", "connect-opts"] ∧
      Anchor.ofMember "connect" "opts" "#" = "connect-opts" ∧
      Prose.linkMentions "\x7b@link connect#opts\x7d" =
        "[`connect#opts`](#globals-connect-opts)" := by
  obtain ⟨page, h, hslugs⟩ := renderPage_ownersOfMembers
  exact ⟨page, h, hslugs, by decide, by decide +kernel⟩

end ApiPages.Context
