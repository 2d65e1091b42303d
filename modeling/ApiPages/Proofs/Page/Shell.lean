import ApiPages.Page.Layout
import ApiPages.Proofs.Document.Recovery

namespace ApiPages

open Text

namespace Html

-- The HTML that is cut into some pieces.
def written : List (Piece (List Char)) → List Char
  | [] => []
  | .gap text :: rest => text ++ written rest
  | .token content :: rest => '<' :: (content ++ '>' :: written rest)

@[simp] theorem written_append (pieces others : List (Piece (List Char))) :
    written (pieces ++ others) = written pieces ++ written others := by
  induction pieces with
  | nil => rfl
  | cons piece rest ih => cases piece <;> simp [written, ih]

-- A text holds no start of a tag and a tag no end of one.
def IsWhole : Piece (List Char) → Prop
  | .gap text => '<' ∉ text
  | .token content => '>' ∉ content

instance : DecidablePred IsWhole
  | .gap text => inferInstanceAs (Decidable ('<' ∉ text))
  | .token content => inferInstanceAs (Decidable ('>' ∉ content))

theorem Scans.written {pieces : List (Piece (List Char))} (h : ∀ piece ∈ pieces, IsWhole piece) :
    Scans (written pieces) (tokens pieces) (gaps pieces) := by
  induction pieces with
  | nil => exact .nil
  | cons piece rest ih =>
      rw [List.forall_mem_cons] at h
      have hrest := ih h.2
      cases piece with
      | gap text =>
          have htext : ∀ c ∈ text, c ≠ '<' := fun c hc => ne_of_mem_of_not_mem hc h.1
          exact (Scans.text htext).append hrest
      | token content =>
          have hcontent : ∀ c ∈ content, c ≠ '>' := fun c hc => ne_of_mem_of_not_mem hc h.1
          simpa [Html.written, tokens, gaps] using (Scans.tag hcontent).append hrest

-- Characters of markup that no escaped text holds.
def isStop (c : Char) : Bool := c == '<' || c == '"'

theorem isStop_escape {s : String} {c : Char} (h : c ∈ (escape s).toList) : isStop c = false := by
  simp [isStop, (escape_ne h).1, escape_ne_quote h]

-- An escaped text ends in front of the markup behind it.
theorem escape_append_inj {s t mark rest rest' : String} (hmark : mark.toList.any isStop = true)
    (h : escape s ++ (mark ++ rest) = escape t ++ (mark ++ rest')) : s = t ∧ rest = rest' := by
  obtain ⟨c, hfound⟩ := Option.isSome_iff_exists.mp
    (List.find?_isSome.mpr (List.any_eq_true.mp hmark))
  obtain ⟨hc, gap, tail, hsplit, hgap⟩ := List.find?_eq_some_iff_append.mp hfound
  have hstem : ∀ s : String, ∀ d ∈ (escape s).toList ++ gap, ¬ isStop d = true := by
    intro s d hd
    rw [Bool.not_eq_true]
    rcases List.mem_append.mp hd with hd | hd
    · exact isStop_escape hd
    · simpa using hgap d hd
  have hstop : ∀ ending : List Char, ∀ d ∈ (c :: ending).head?, isStop d = true := by
    intro ending d hd
    cases hd
    exact hc
  have hlist := congrArg String.toList h
  simp only [String.toList_append, hsplit] at hlist
  have hstems : ((escape s).toList ++ gap) ++ c :: (tail ++ rest.toList) =
      ((escape t).toList ++ gap) ++ c :: (tail ++ rest'.toList) := by
    simpa using hlist
  obtain ⟨hstart, hend⟩ := append_inj_of_stop (hstem s) (hstem t) (hstop _) (hstop _) hstems
  have hs := List.append_cancel_right hstart
  have hrest := List.append_cancel_left (List.cons.inj hend).2
  exact ⟨toList_escape_inj hs, String.toList_inj.mp hrest⟩

end Html

-- A text can be read off the start of any longer one.
def IsPrefixFree {α : Type} (write : α → String) : Prop :=
  ∀ {a b rest rest'}, write a ++ rest = write b ++ rest' → a = b ∧ rest = rest'

theorem append_ne_append {start other : String} (h : ¬ start.toList <+: other.toList)
    (h' : ¬ other.toList <+: start.toList) (rest rest' : String) :
    start ++ rest ≠ other ++ rest' := by
  intro heq
  have hlist := congrArg String.toList heq
  simp only [String.toList_append] at hlist
  have hstart : start.toList <+: other.toList ++ rest'.toList := ⟨_, hlist⟩
  exact (List.prefix_or_prefix_of_prefix hstart (List.prefix_append _ _)).elim h h'

-- A list of texts ends where none of them can start.
theorem IsPrefixFree.join {α : Type} {write : α → String} {stop : String} (h : IsPrefixFree write)
    (hstop : ∀ a rest rest', write a ++ rest ≠ stop ++ rest') {items others : List α}
    {rest rest' : String}
    (heq : String.join (items.map write) ++ (stop ++ rest) =
      String.join (others.map write) ++ (stop ++ rest')) : items = others ∧ rest = rest' := by
  induction items generalizing others with
  | nil =>
      cases others with
      | nil => simpa using heq
      | cons other others =>
          simp only [List.map_nil, List.map_cons, String.join_nil, String.join_cons,
            String.append_assoc, String.empty_append] at heq
          exact absurd heq.symm (hstop _ _ _)
  | cons item items ih =>
      cases others with
      | nil =>
          simp only [List.map_nil, List.map_cons, String.join_nil, String.join_cons,
            String.append_assoc, String.empty_append] at heq
          exact absurd heq (hstop _ _ _)
      | cons other others =>
          simp only [List.map_cons, String.join_cons, String.append_assoc] at heq
          obtain ⟨hitem, hothers⟩ := h heq
          obtain ⟨hitems, hrest⟩ := ih hothers
          exact ⟨by rw [hitem, hitems], hrest⟩

namespace Layout

open Html

variable {indent title title' path path' : String} {menu menu' : List MenuItem}

theorem itemLines_entry (entry : MenuEntry) :
    itemLines (.entry entry) = entryLine "      " entry := rfl

theorem itemLines_group (title : String) (entries : List MenuEntry) :
    itemLines (.group title entries) =
      "      <li>\n        " ++ escape title ++ "\n        <ul>\n" ++
        String.join (entries.map (entryLine "          ")) ++ "        </ul>\n      </li>\n" := rfl

theorem isPrefixFree_entryLine : IsPrefixFree (entryLine indent) := by
  intro entry other rest rest' h
  simp only [entryLine, String.append_assoc, String.append_right_inj] at h
  obtain ⟨hlink, h⟩ := escape_append_inj (by decide) h
  obtain ⟨hlabel, h⟩ := escape_append_inj (by decide) h
  exact ⟨by cases entry; cases other; simp_all, h⟩

-- The list of a group ends where no entry starts.
theorem entryLine_ne_groupEnd (entry : MenuEntry) (rest rest' : String) :
    entryLine "          " entry ++ rest ≠ "        </ul>\n      </li>\n" ++ rest' := by
  simp only [entryLine, String.append_assoc]
  rw [← String.append_assoc]
  exact append_ne_append (by simp) (by simp) _ _

theorem entryLine_ne_group (entry : MenuEntry) (rest rest' : String) :
    entryLine "      " entry ++ rest ≠ "      <li>\n        " ++ rest' := by
  simp only [entryLine, String.append_assoc]
  rw [← String.append_assoc]
  exact append_ne_append (by simp) (by simp) _ _

theorem isPrefixFree_itemLines : IsPrefixFree itemLines := by
  intro item other rest rest' h
  cases item with
  | entry entry =>
      cases other with
      | entry other =>
          rw [itemLines_entry, itemLines_entry] at h
          obtain ⟨hentry, hrest⟩ := isPrefixFree_entryLine h
          exact ⟨by rw [hentry], hrest⟩
      | group title entries =>
          simp only [itemLines_entry, itemLines_group, String.append_assoc] at h
          exact absurd h (entryLine_ne_group _ _ _)
  | group title entries =>
      cases other with
      | entry other =>
          simp only [itemLines_entry, itemLines_group, String.append_assoc] at h
          exact absurd h.symm (entryLine_ne_group _ _ _)
      | group title' entries' =>
          simp only [itemLines_group, String.append_assoc, String.append_right_inj] at h
          obtain ⟨htitle, h⟩ := escape_append_inj (by decide) h
          obtain ⟨hentries, hrest⟩ := isPrefixFree_entryLine.join entryLine_ne_groupEnd h
          exact ⟨by rw [htitle, hentries], hrest⟩

-- The menu ends where no item starts.
theorem itemLines_ne_menuEnd (item : MenuItem) (rest rest' : String) :
    itemLines item ++ rest ≠ "    </ul>\n  </nav>\n  <main>\n" ++ rest' := by
  cases item with
  | entry entry =>
      simp only [itemLines_entry, entryLine, String.append_assoc]
      rw [← String.append_assoc]
      exact append_ne_append (by simp) (by simp) _ _
  | group title entries =>
      simp only [itemLines_group, String.append_assoc]
      exact append_ne_append (by simp) (by simp) _ _

-- The standard shell in front of the body.
def front (title path : String) (menu : List MenuItem) : String :=
  "<!DOCTYPE html>\n<html lang=\"en\">\n<head>\n  <meta charset=\"utf-8\">\n  <title>" ++
    escape title ++ "</title>\n</head>\n<body>\n  <nav class=\"submenu\" data-path=\"" ++
    escape path ++ "\">\n    <ul>\n" ++ String.join (menu.map itemLines) ++
    "    </ul>\n  </nav>\n  <main>\n"

-- The standard shell behind the body.
def back : String := "\n  </main>\n</body>\n</html>"

theorem standardShell_eq (content : Content) :
    standardShell content =
      front content.title content.path content.menu ++ ofNodes content.tree ++ back := rfl

theorem front_append_inj {rest rest' : String}
    (h : front title path menu ++ rest = front title' path' menu' ++ rest') :
    title = title' ∧ path = path' ∧ menu = menu' ∧ rest = rest' := by
  unfold front at h
  simp only [String.append_assoc, String.append_right_inj] at h
  obtain ⟨htitle, h⟩ := escape_append_inj (by decide) h
  obtain ⟨hpath, h⟩ := escape_append_inj (by decide) h
  obtain ⟨hmenu, hrest⟩ := isPrefixFree_itemLines.join itemLines_ne_menuEnd h
  exact ⟨htitle, hpath, hmenu, hrest⟩

def tagPiece (content : String) : Piece (List Char) := .token content.toList

def textPiece (text : String) : Piece (List Char) := .gap text.toList

def entryPieces (indent : String) (entry : MenuEntry) : List (Piece (List Char)) :=
  [textPiece indent] ++ [tagPiece "li"] ++
    [tagPiece ("a href=\"" ++ escape entry.link ++ "\"")] ++ [tagPiece "code"] ++
    [textPiece (escape entry.label)] ++
    [tagPiece "/code", tagPiece "/a", tagPiece "/li", textPiece "\n"]

def itemPieces : MenuItem → List (Piece (List Char))
  | .entry entry => entryPieces "      " entry
  | .group title entries =>
    [textPiece "      ", tagPiece "li", textPiece "\n        "] ++ [textPiece (escape title)] ++
      [textPiece "\n        ", tagPiece "ul", textPiece "\n"] ++
      entries.flatMap (entryPieces "          ") ++
      [textPiece "        ", tagPiece "/ul", textPiece "\n      ", tagPiece "/li", textPiece "\n"]

def frontPieces (title path : String) (menu : List MenuItem) : List (Piece (List Char)) :=
  [tagPiece "!DOCTYPE html", textPiece "\n", tagPiece "html lang=\"en\"", textPiece "\n",
   tagPiece "head", textPiece "\n  ", tagPiece "meta charset=\"utf-8\"", textPiece "\n  ",
   tagPiece "title"] ++ [textPiece (escape title)] ++
    [tagPiece "/title", textPiece "\n", tagPiece "/head", textPiece "\n", tagPiece "body",
     textPiece "\n  "] ++
    [tagPiece ("nav class=\"submenu\" data-path=\"" ++ escape path ++ "\"")] ++
    [textPiece "\n    ", tagPiece "ul", textPiece "\n"] ++ menu.flatMap itemPieces ++
    [textPiece "    ", tagPiece "/ul", textPiece "\n  ", tagPiece "/nav", textPiece "\n  ",
     tagPiece "main", textPiece "\n"]

theorem written_entryPieces (indent : String) (entry : MenuEntry) :
    written (entryPieces indent entry) = (entryLine indent entry).toList := by
  simp [entryPieces, tagPiece, textPiece, written, entryLine]

theorem written_itemPieces (item : MenuItem) :
    written (itemPieces item) = (itemLines item).toList := by
  cases item with
  | entry entry => exact written_entryPieces _ entry
  | group title entries =>
      have hentries : written (entries.flatMap (entryPieces "          ")) =
          (String.join (entries.map (entryLine "          "))).toList := by
        induction entries with
        | nil => rfl
        | cons entry rest ih => simp [written_entryPieces, ih]
      rw [itemLines_group, itemPieces]
      simp [tagPiece, textPiece, written, hentries]

theorem written_frontPieces (title path : String) (menu : List MenuItem) :
    written (frontPieces title path menu) = (front title path menu).toList := by
  have hmenu : written (menu.flatMap itemPieces) = (String.join (menu.map itemLines)).toList := by
    induction menu with
    | nil => rfl
    | cons item rest ih => simp [written_itemPieces, ih]
  unfold front
  rw [frontPieces]
  simp [tagPiece, textPiece, written, hmenu]

-- An escaped text does not start a tag, and an escaped value does not end the tag it stands in.
theorem isWhole_escape (s : String) : ∀ piece ∈ [textPiece (escape s)], IsWhole piece :=
  List.forall_mem_singleton.mpr fun hm => (escape_ne hm).1 rfl

theorem isWhole_valued {start ending : String} (value : String)
    (hstart : '>' ∉ start.toList) (hending : '>' ∉ ending.toList) :
    ∀ piece ∈ [tagPiece (start ++ escape value ++ ending)], IsWhole piece := by
  refine List.forall_mem_singleton.mpr ?_
  simp only [tagPiece, IsWhole, String.toList_append, List.mem_append, not_or]
  exact ⟨⟨hstart, fun hm => (escape_ne hm).2 rfl⟩, hending⟩

theorem isWhole_entryPieces (hindent : IsWhole (textPiece indent)) (entry : MenuEntry) :
    ∀ piece ∈ entryPieces indent entry, IsWhole piece := by
  simp only [entryPieces, List.forall_mem_append]
  refine ⟨⟨⟨⟨⟨?_, by decide⟩, ?_⟩, by decide⟩, isWhole_escape _⟩, by decide⟩
  · exact List.forall_mem_singleton.mpr hindent
  · exact isWhole_valued _ (by decide) (by decide)

theorem isWhole_itemPieces (item : MenuItem) : ∀ piece ∈ itemPieces item, IsWhole piece := by
  cases item with
  | entry entry => exact isWhole_entryPieces (by decide) entry
  | group title entries =>
      simp only [itemPieces, List.forall_mem_append, List.forall_mem_flatMap]
      refine ⟨⟨⟨⟨by decide, isWhole_escape title⟩, by decide⟩, ?_⟩, by decide⟩
      exact fun entry _ => isWhole_entryPieces (by decide) entry

theorem isWhole_frontPieces (title path : String) (menu : List MenuItem) :
    ∀ piece ∈ frontPieces title path menu, IsWhole piece := by
  simp only [frontPieces, List.forall_mem_append, List.forall_mem_flatMap]
  refine ⟨⟨⟨⟨⟨⟨by decide, isWhole_escape title⟩, by decide⟩, ?_⟩, by decide⟩, ?_⟩, by decide⟩
  · exact isWhole_valued _ (by decide) (by decide)
  · exact fun item _ => isWhole_itemPieces item

-- The tags of an entry, of an item and of the shell in front of the body.
def entryTags : List Tag :=
  [.opening "li", .opening "a", .opening "code", .closing "code", .closing "a", .closing "li"]

def itemTags : MenuItem → List Tag
  | .entry _ => entryTags
  | .group _ entries =>
    [.opening "li", .opening "ul"] ++ entries.flatMap (fun _ => entryTags) ++
      [.closing "ul", .closing "li"]

def frontTags (menu : List MenuItem) : List Tag :=
  [.opening "!DOCTYPE", .opening "html", .opening "head", .opening "meta", .opening "title",
   .closing "title", .closing "head", .opening "body", .opening "nav", .opening "ul"] ++
    menu.flatMap itemTags ++ [.closing "ul", .closing "nav", .opening "main"]

def backTags : List Tag := [.closing "main", .closing "body", .closing "html"]

def tagsOf (pieces : List (Piece (List Char))) : List Tag := (tokens pieces).map Tag.ofContent

@[simp] theorem tagsOf_append (pieces others : List (Piece (List Char))) :
    tagsOf (pieces ++ others) = tagsOf pieces ++ tagsOf others := by
  simp [tagsOf]

theorem tagsOf_flatMap {α : Type} {pieces : α → List (Piece (List Char))} {tags : α → List Tag}
    (h : ∀ a, tagsOf (pieces a) = tags a) (items : List α) :
    tagsOf (items.flatMap pieces) = items.flatMap tags := by
  induction items with
  | nil => rfl
  | cons a rest ih => rw [List.flatMap_cons, List.flatMap_cons, tagsOf_append, h, ih]

theorem tagsOf_entryPieces (indent : String) (entry : MenuEntry) :
    tagsOf (entryPieces indent entry) = entryTags := by
  simp [tagsOf, entryPieces, tagPiece, textPiece, tokens, entryTags, Tag.ofContent]

theorem tagsOf_itemPieces (item : MenuItem) : tagsOf (itemPieces item) = itemTags item := by
  cases item with
  | entry entry => exact tagsOf_entryPieces _ entry
  | group title entries =>
      have hentries := tagsOf_flatMap (tagsOf_entryPieces "          ") entries
      simp only [itemPieces, itemTags, tagsOf_append, hentries]
      simp [tagsOf, tagPiece, textPiece, tokens, Tag.ofContent]

theorem tagsOf_frontPieces (title path : String) (menu : List MenuItem) :
    tagsOf (frontPieces title path menu) = frontTags menu := by
  have hmenu := tagsOf_flatMap tagsOf_itemPieces menu
  simp only [frontPieces, frontTags, tagsOf_append, hmenu]
  simp [tagsOf, tagPiece, textPiece, tokens, Tag.ofContent]

theorem scans_front (title path : String) (menu : List MenuItem) :
    Scans (front title path menu).toList (tokens (frontPieces title path menu))
      (gaps (frontPieces title path menu)) := by
  rw [← written_frontPieces]
  exact .written (isWhole_frontPieces title path menu)

-- The tags in front of a body are read the same whatever the body is.
theorem tags_front_append (title path : String) (menu : List MenuItem) (rest : String) :
    tags (front title path menu ++ rest) = frontTags menu ++ tags rest := by
  rw [tags, String.toList_append, (scans_front title path menu).tokens_eq, List.map_append,
    ← tagsOf, tagsOf_frontPieces, ← tags]

theorem tags_front (title path : String) (menu : List MenuItem) :
    tags (front title path menu) = frontTags menu := by
  have h := tags_front_append title path menu ""
  rw [String.append_empty] at h
  simpa [tags, cut, tokens] using h

def backPieces : List (Piece (List Char)) :=
  [textPiece "\n  ", tagPiece "/main", textPiece "\n", tagPiece "/body", textPiece "\n",
   tagPiece "/html"]

theorem tags_back : tags back = backTags := by
  have hwritten : written backPieces = back.toList := by
    simp [backPieces, textPiece, tagPiece, written, back]
  have hscans : Scans back.toList (tokens backPieces) (gaps backPieces) := by
    rw [← hwritten]
    exact .written (by decide)
  have htokens := hscans.tokens_eq []
  rw [List.append_nil] at htokens
  rw [tags, htokens]
  simp [backPieces, textPiece, tagPiece, tokens, backTags, Tag.ofContent, cut]

theorem nest_itemTags (opened : List String) (item : MenuItem) :
    nest opened (itemTags item) = some opened := by
  cases item with
  | entry entry => rfl
  | group title entries =>
      have hentries : nest ("ul" :: "li" :: opened) (entries.flatMap fun _ => entryTags) =
          some ("ul" :: "li" :: opened) := by
        induction entries with
        | nil => rfl
        | cons entry rest ih =>
            rw [List.flatMap_cons, nest_append]
            exact ih
      rw [itemTags, nest_append, nest_append]
      change (nest ("ul" :: "li" :: opened) (entries.flatMap fun _ => entryTags) >>= _) = _
      rw [hentries]
      rfl

-- The body stands in the main part, which is inside of the body of the page.
theorem nest_frontTags (menu : List MenuItem) :
    nest [] (frontTags menu).tail = some ["main", "body", "html"] := by
  have hmenu : nest ["ul", "nav", "body", "html"] (menu.flatMap itemTags) =
      some ["ul", "nav", "body", "html"] := by
    induction menu with
    | nil => rfl
    | cons item rest ih => rw [List.flatMap_cons, nest_append, nest_itemTags]; exact ih
  change nest ["ul", "nav", "body", "html"]
    (menu.flatMap itemTags ++ [.closing "ul", .closing "nav", .opening "main"]) = _
  rw [nest_append, hmenu]
  rfl

theorem count_main_frontTags (menu : List MenuItem) :
    (frontTags menu).count (.opening "main") = 1 := by
  have hitem : ∀ item : MenuItem, Tag.opening "main" ∉ itemTags item := by
    intro item
    cases item with
    | entry entry => simp [itemTags, entryTags]
    | group title entries => simp [itemTags, entryTags]
  have hmenu : (menu.flatMap itemTags).count (.opening "main") = 0 := by
    simpa [List.count_eq_zero] using fun item _ => hitem item
  simp only [frontTags, List.count_append, hmenu]
  rfl

-- What stands around the body of a page has the tags of the shape of the menu and no other ones,
-- whatever the body is, and puts the body into the only main part.
structure IsFrame (menu : List MenuItem) (start ending : String) : Prop where
  start_tags : ∀ rest, tags (start ++ rest) = frontTags menu ++ tags rest
  ending_tags : tags ending = backTags
  inside : nest [] (tags start).tail = some ["main", "body", "html"]
  once : (tags start ++ tags ending).count (.opening "main") = 1

theorem isFrame (title path : String) (menu : List MenuItem) :
    IsFrame menu (front title path menu) back where
  start_tags := tags_front_append title path menu
  ending_tags := tags_back
  inside := by rw [tags_front, nest_frontTags]
  once := by rw [tags_front, tags_back, List.count_append, count_main_frontTags]; rfl

-- The standard shell keeps the body as it is, inside of a frame that is fixed but for the texts in
-- it, and a page tells all of these texts apart.
theorem render_frame (site : String) :
    (∀ title path menu, ∃ start ending, IsFrame menu start ending ∧ ∀ tree,
      standardShell ⟨title ++ site, path, menu, tree⟩ = start ++ ofNodes tree ++ ending) ∧
    ∀ title title' path path' menu menu' tree tree',
      standardShell ⟨title ++ site, path, menu, tree⟩ =
          standardShell ⟨title' ++ site, path', menu', tree'⟩ ↔
        title = title' ∧ path = path' ∧ menu = menu' ∧ ofNodes tree = ofNodes tree' := by
  constructor
  · intro title path menu
    exact ⟨_, _, isFrame (title ++ site) path menu, fun tree => standardShell_eq _⟩
  · intro title title' path path' menu menu' tree tree'
    simp only [standardShell_eq, String.append_assoc]
    constructor
    · intro h
      obtain ⟨htitle, hpath, hmenu, hbody⟩ := front_append_inj h
      exact ⟨(String.append_left_inj site).mp htitle, hpath, hmenu,
        (String.append_left_inj back).mp hbody⟩
    · rintro ⟨rfl, rfl, rfl, hbody⟩
      rw [hbody]

end Layout

end ApiPages
