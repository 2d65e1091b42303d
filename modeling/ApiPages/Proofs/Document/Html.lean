import ApiPages.Document.Html
import ApiPages.Proofs.Text.Piece
import Mathlib.Data.List.TakeWhile

namespace ApiPages.Html

open Text

-- What stands between an opening angle bracket at the start and the next closing one.
def tag? : List Char → Option (List Char × List Char)
  | '<' :: rest =>
    match rest.dropWhile (· ≠ '>') with
    | _ :: after => some (rest.takeWhile (· ≠ '>'), after)
    | [] => none
  | _ => none

theorem tag?_length (cs content rest : List Char) (h : tag? cs = some (content, rest)) :
    rest.length < cs.length := by
  unfold tag? at h
  split at h
  · rename_i cs
    split at h
    · rename_i c after hafter
      cases h
      have hle := List.length_dropWhile_le (fun c => decide (c ≠ '>')) cs
      rw [hafter] at hle
      simp only [List.length_cons] at hle ⊢
      omega
    · cases h
  · cases h

-- Cut an HTML text at its tags.
def cut (html : List Char) : List (Piece (List Char)) := pieces tag? tag?_length html

inductive Tag where
  | opening (name : String)
  | closing (name : String)
  deriving DecidableEq, Repr

-- A slash stands in front of the name in a closing tag; attributes follow it after a blank.
def Tag.ofContent : List Char → Tag
  | '/' :: name => .closing (String.ofList name)
  | content => .opening (String.ofList (content.takeWhile (· ≠ ' ')))

def tags (html : String) : List Tag := (tokens (cut html.toList)).map Tag.ofContent

def withoutTags (html : String) : String := String.ofList (gaps (cut html.toList))

-- The elements that are open behind some tags, the innermost one first. Void elements are never
-- open, and only the innermost element can be closed.
def nest (opened : List String) : List Tag → Option (List String)
  | [] => some opened
  | .opening name :: rest => nest (if isVoidTag name then opened else name :: opened) rest
  | .closing name :: rest =>
    match opened with
    | innermost :: outer => if innermost = name then nest outer rest else none
    | [] => none

def WellNested (tags : List Tag) : Prop := nest [] tags = some []

theorem nest_append (opened : List String) (first second : List Tag) :
    nest opened (first ++ second) = (nest opened first).bind fun opened => nest opened second := by
  induction first generalizing opened with
  | nil => rfl
  | cons tag rest ih =>
      cases tag with
      | opening name => exact ih _
      | closing name =>
          cases opened with
          | nil => rfl
          | cons innermost outer =>
              by_cases hname : innermost = name
              · simpa only [List.cons_append, nest, if_pos hname] using ih outer
              · simp only [List.cons_append, nest, if_neg hname, Option.bind_none]

-- The text of a link to the source, if there is one.
def editLabel (editUrl : Option String) : String :=
  if editUrl.all (·.isEmpty) then "" else "Edit"

mutual

-- The text that a node shows: nothing inside a void element, and the link to its source at the end
-- of any other one.
def shown : Node → String
  | .text value => value
  | .element ⟨tag, _, children, _, editUrl, _, _⟩ =>
    if isVoidTag tag then "" else shownIn children ++ editLabel editUrl

def shownIn : List Node → String
  | [] => ""
  | node :: rest => shown node ++ shownIn rest

end

def isNameChar (c : Char) : Bool := c.isAlphanum || c == '-'

def isName (s : String) : Bool := !s.isEmpty && s.toList.all isNameChar

mutual

-- Tags and properties are named by words of letters, digits and hyphens, at any depth.
def isNamed : Node → Bool
  | .text _ => true
  | .element ⟨tag, properties, children, _, _, _, _⟩ =>
    isName tag && properties.all (fun property => isName property.1) && areNamed children

def areNamed : List Node → Bool
  | [] => true
  | node :: rest => isNamed node && areNamed rest

end

-- A stretch has its own tags and its own text, whatever follows it.
structure Scans (html : List Char) (contents : List (List Char)) (left : List Char) : Prop where
  tokens_eq : ∀ rest, tokens (cut (html ++ rest)) = contents ++ tokens (cut rest)
  gaps_eq : ∀ rest, gaps (cut (html ++ rest)) = left ++ gaps (cut rest)

theorem Scans.nil : Scans [] [] [] := ⟨fun _ => rfl, fun _ => rfl⟩

theorem Scans.append {html others : List Char} {contents contents' : List (List Char)}
    {left left' : List Char} (h : Scans html contents left) (ho : Scans others contents' left') :
    Scans (html ++ others) (contents ++ contents') (left ++ left') := by
  constructor
  · intro rest
    rw [List.append_assoc, h.tokens_eq, ho.tokens_eq, List.append_assoc]
  · intro rest
    rw [List.append_assoc, h.gaps_eq, ho.gaps_eq, List.append_assoc]

theorem Scans.text {text : List Char} (h : ∀ c ∈ text, c ≠ '<') : Scans text [] text := by
  induction text with
  | nil => exact .nil
  | cons c text ih =>
      rw [List.forall_mem_cons] at h
      have hread : ∀ rest, tag? (c :: rest) = none := by
        intro rest
        unfold tag?
        split
        · rename_i heq
          cases heq
          exact absurd rfl h.1
        · rfl
      have hrest := ih h.2
      constructor
      · intro rest
        rw [cut, List.cons_append, pieces_of_none (hread _), tokens_addChar]
        exact hrest.tokens_eq rest
      · intro rest
        rw [cut, List.cons_append, pieces_of_none (hread _), gaps_addChar, List.cons_append]
        exact congrArg (c :: ·) (hrest.gaps_eq rest)

theorem Scans.tag {content : List Char} (h : ∀ c ∈ content, c ≠ '>') :
    Scans ('<' :: (content ++ ['>'])) [content] [] := by
  have hread : ∀ rest, tag? ('<' :: (content ++ '>' :: rest)) = some (content, rest) := by
    intro rest
    have hall : ∀ c ∈ content, decide (c ≠ '>') = true := fun c hc => decide_eq_true (h c hc)
    unfold tag?
    simp only [List.dropWhile_append_of_pos hall, List.takeWhile_append_of_pos hall]
    simp
  have hcut : ∀ rest, cut ('<' :: (content ++ ['>']) ++ rest) = .token content :: cut rest := by
    intro rest
    rw [List.cons_append, List.append_assoc]
    exact pieces_of_some (hread rest)
  constructor
  · intro rest
    rw [hcut]
    rfl
  · intro rest
    rw [hcut]
    rfl

-- A stretch shows a text, and its tags leave open what was open before it.
def Shows (html shown : List Char) : Prop :=
  ∃ contents, Scans html contents shown ∧
    ∀ opened, nest opened (contents.map Tag.ofContent) = some opened

namespace Shows

variable {html others shown shown' : List Char}

theorem nil : Shows [] [] := ⟨[], .nil, fun _ => rfl⟩

theorem text (h : ∀ c ∈ html, c ≠ '<') : Shows html html := ⟨[], .text h, fun _ => rfl⟩

theorem append (h : Shows html shown) (ho : Shows others shown') :
    Shows (html ++ others) (shown ++ shown') := by
  obtain ⟨contents, hscans, hnest⟩ := h
  obtain ⟨contents', hscans', hnest'⟩ := ho
  refine ⟨contents ++ contents', hscans.append hscans', ?_⟩
  intro opened
  rw [List.map_append, nest_append, hnest, Option.bind_some, hnest']

theorem void {content : List Char} {name : String} (hend : ∀ c ∈ content, c ≠ '>')
    (hcontent : Tag.ofContent content = .opening name) (hvoid : isVoidTag name = true) :
    Shows ('<' :: (content ++ ['>'])) [] := by
  refine ⟨[content], .tag hend, ?_⟩
  intro opened
  simp only [List.map_cons, List.map_nil, hcontent, nest, if_pos hvoid]

theorem element {content : List Char} {name : String} (hend : ∀ c ∈ content, c ≠ '>')
    (hname : ∀ c ∈ name.toList, c ≠ '>') (hcontent : Tag.ofContent content = .opening name)
    (hvoid : isVoidTag name = false) (h : Shows html shown) :
    Shows ('<' :: (content ++ ['>']) ++ html ++ '<' :: ('/' :: name.toList ++ ['>'])) shown := by
  obtain ⟨contents, hscans, hnest⟩ := h
  have hclosing : ∀ c ∈ '/' :: name.toList, c ≠ '>' :=
    List.forall_mem_cons.mpr ⟨by decide, hname⟩
  have hall := ((Scans.tag hend).append hscans).append (.tag hclosing)
  refine ⟨_, by simpa using hall, ?_⟩
  intro opened
  have hof : Tag.ofContent ('/' :: name.toList) = .closing name := by
    rw [Tag.ofContent, String.ofList_toList]
  simp only [List.map_append, List.map_cons, List.map_nil, nest, hcontent, hof, hvoid,
    Bool.false_eq_true, ite_false, nest_append, hnest, Option.bind_some, ite_true]

end Shows

theorem escapeChar_ne (d : Char) : ∀ c ∈ escapeChar d, c ≠ '<' ∧ c ≠ '>' := by
  unfold escapeChar
  split
  · simp
  · simp
  · simp
  · simp
  · simp
  · rename_i hopen hclose _ _
    intro c hc
    rw [List.mem_singleton.mp hc]
    exact ⟨hopen, hclose⟩

theorem escape_ne {s : String} {c : Char} (h : c ∈ (escape s).toList) : c ≠ '<' ∧ c ≠ '>' := by
  rw [escape, String.toList_ofList] at h
  obtain ⟨d, -, hc⟩ := List.mem_flatMap.mp h
  exact escapeChar_ne d c hc

@[simp] theorem escape_empty : escape "" = "" := rfl

theorem escape_append (s t : String) : escape (s ++ t) = escape s ++ escape t := by
  apply String.toList_inj.mp
  simp [escape]

theorem isNameChar_ne {c : Char} (h : isNameChar c = true) : c ≠ ' ' ∧ c ≠ '/' ∧ c ≠ '>' := by
  refine ⟨?_, ?_, ?_⟩
  all_goals
    rintro rfl
    exact absurd h (by decide)

theorem isNameChar_of_mem {name : String} (h : isName name = true) {c : Char}
    (hc : c ∈ name.toList) : isNameChar c = true := by
  rw [isName, Bool.and_eq_true, List.all_eq_true] at h
  exact h.2 c hc

-- Attributes do not end their tag, and a blank stands in front of them.
def AreAttributes (text : List Char) : Prop :=
  (∀ c ∈ text, c ≠ '>') ∧ ∀ c ∈ text.head?, c = ' '

theorem AreAttributes.nil : AreAttributes [] := ⟨by simp, by simp⟩

theorem AreAttributes.blank {text : List Char} (h : ∀ c ∈ text, c ≠ '>') :
    AreAttributes (' ' :: text) :=
  ⟨List.forall_mem_cons.mpr ⟨by decide, h⟩, by simp⟩

theorem AreAttributes.append {text others : List Char} (h : AreAttributes text)
    (ho : AreAttributes others) : AreAttributes (text ++ others) := by
  cases text with
  | nil => exact ho
  | cons c text => exact ⟨List.forall_mem_append.mpr ⟨h.1, ho.1⟩, h.2⟩

theorem areAttributes_valued {key : String} (value : String) (h : isName key = true) :
    AreAttributes (" " ++ key ++ "=\"" ++ escape value ++ "\"").toList := by
  have hkey : ∀ c ∈ key.toList, c ≠ '>' := fun c hc => (isNameChar_ne (isNameChar_of_mem h hc)).2.2
  have hvalue : ∀ c ∈ (escape value).toList, c ≠ '>' := fun c hc => (escape_ne hc).2
  have hall : ∀ c ∈ key.toList ++ ('=' :: '"' :: ((escape value).toList ++ ['"'])), c ≠ '>' := by
    simp only [List.forall_mem_append, List.forall_mem_cons]
    exact ⟨hkey, by decide, by decide, hvalue, by decide, by simp⟩
  simpa using AreAttributes.blank hall

theorem areAttributes_attributeText {key : String} (value : Json) (h : isName key = true) :
    AreAttributes (attributeText key value).toList := by
  unfold attributeText
  split
  · exact .nil
  · exact .nil
  · simpa using AreAttributes.blank fun c hc => (isNameChar_ne (isNameChar_of_mem h hc)).2.2
  · exact areAttributes_valued _ h
  · exact areAttributes_valued _ h

def AreKeyed (members : List (String × Json)) : Prop := ∀ member ∈ members, isName member.1 = true

theorem areKeyed_setMember {name : String} {members : List (String × Json)} (value : Json)
    (hname : isName name = true) (h : AreKeyed members) :
    AreKeyed (Json.setMember name value members) := by
  induction members with
  | nil => simpa [AreKeyed, Json.setMember] using hname
  | cons member rest ih =>
      obtain ⟨key, old⟩ := member
      obtain ⟨hkey, hrest⟩ := List.forall_mem_cons.mp h
      rw [Json.setMember]
      split
      · exact List.forall_mem_cons.mpr ⟨hkey, hrest⟩
      · exact List.forall_mem_cons.mpr ⟨hkey, ih hrest⟩

theorem areKeyed_properties {properties members : List (String × Json)}
    (h : AreKeyed properties) (hmembers : AreKeyed members) :
    AreKeyed (properties.foldl (fun acc (key, value) =>
      Json.setMember (if key = "className" then "class" else key) value acc) members) := by
  induction properties generalizing members with
  | nil => exact hmembers
  | cons property rest ih =>
      obtain ⟨hkey, hrest⟩ := List.forall_mem_cons.mp h
      apply ih hrest
      apply areKeyed_setMember _ _ hmembers
      split
      · decide
      · exact hkey

theorem areKeyed_attributes {e : Element} (h : AreKeyed e.properties) :
    AreKeyed (attributes e) := by
  have hid : ∀ slug, AreKeyed [("id", Json.text slug)] :=
    fun slug => List.forall_mem_singleton.mpr (by decide : isName "id" = true)
  unfold attributes
  extract_lets anchor named
  have hanchor : AreKeyed anchor := by
    dsimp only [anchor]
    cases e.slug with
    | none => exact List.forall_mem_nil _
    | some slug =>
        dsimp only
        split
        · exact List.forall_mem_nil _
        · exact hid slug
  have hnamed : AreKeyed named := areKeyed_properties h hanchor
  split
  · exact areKeyed_setMember _ (by decide) hnamed
  · exact hnamed

-- The content of an opening tag is read as the name in front of the attributes.
theorem ofContent_name {name : String} {text : List Char} (hname : isName name = true)
    (htext : AreAttributes text) : Tag.ofContent (name.toList ++ text) = .opening name := by
  have hne : name.toList ≠ [] := by
    intro hnil
    rw [String.toList_eq_nil_iff.mp hnil] at hname
    exact absurd hname (by decide)
  obtain ⟨c, cs, hcs⟩ := List.exists_cons_of_ne_nil hne
  have hslash : c ≠ '/' := (isNameChar_ne (isNameChar_of_mem hname (by simp [hcs]))).2.1
  have hof : Tag.ofContent (name.toList ++ text) =
      .opening (String.ofList ((name.toList ++ text).takeWhile (· ≠ ' '))) := by
    rw [hcs, List.cons_append, Tag.ofContent]
    intro rest hrest
    exact hslash (List.cons.inj hrest).1
  have hblank : ∀ c ∈ name.toList, decide (c ≠ ' ') = true := fun c hc =>
    decide_eq_true (isNameChar_ne (isNameChar_of_mem hname hc)).1
  have htake : text.takeWhile (fun c => decide (c ≠ ' ')) = [] := by
    cases text with
    | nil => rfl
    | cons c text => simp [htext.2 c rfl]
  rw [hof, List.takeWhile_append_of_pos hblank, htake, List.append_nil, String.ofList_toList]

theorem content_ne {name : String} {text : List Char} (hname : isName name = true)
    (htext : AreAttributes text) : ∀ c ∈ name.toList ++ text, c ≠ '>' :=
  List.forall_mem_append.mpr
    ⟨fun _ hc => (isNameChar_ne (isNameChar_of_mem hname hc)).2.2, htext.1⟩

theorem openTag_eq {e : Element} (h : AreKeyed e.properties) :
    ∃ text, AreAttributes text ∧ (openTag e).toList = '<' :: (e.tag.toList ++ text ++ ['>']) := by
  refine ⟨(attributes e).flatMap fun member => (attributeText member.1 member.2).toList, ?_, ?_⟩
  · have hkeyed := areKeyed_attributes h
    generalize attributes e = members at hkeyed
    induction members with
    | nil => exact .nil
    | cons member rest ih =>
        obtain ⟨hkey, hrest⟩ := List.forall_mem_cons.mp hkeyed
        exact (areAttributes_attributeText member.2 hkey).append (ih hrest)
  · simp [openTag, String.toList_join, List.flatMap_map]

theorem shows_editLink (e : Element) :
    Shows (editLink e).toList (escape (editLabel e.editUrl)).toList := by
  unfold editLink editLabel
  cases e.editUrl with
  | none => exact .nil
  | some url =>
      simp only [Option.all_some]
      split
      · exact .nil
      · have hclass := areAttributes_valued "title_edit" (by decide : isName "class" = true)
        have hhref := areAttributes_valued url (by decide : isName "href" = true)
        have hname : isName "a" = true := by decide
        have htext := hclass.append hhref
        have hedit : Shows "Edit".toList "Edit".toList := .text (by simp)
        have hlink := Shows.element (content_ne hname htext) (by simp)
          (ofContent_name hname htext) (by decide) hedit
        have hclassText : escape "title_edit" = "title_edit" := rfl
        have hlabel : escape "Edit" = "Edit" := rfl
        simpa [hclassText, hlabel] using hlink

mutual

theorem shows_ofNode : (node : Node) → isNamed node = true →
    Shows (ofNode node).toList (escape (shown node)).toList
  | .text value, _ => by
      rw [ofNode, shown]
      exact .text fun c hc => (escape_ne hc).1
  | .element ⟨tag, properties, children, slug, editUrl, noClass, noSlug⟩, h => by
      rw [isNamed, Bool.and_eq_true, Bool.and_eq_true, List.all_eq_true] at h
      obtain ⟨⟨htag, hproperties⟩, hchildren⟩ := h
      obtain ⟨text, htext, hopen⟩ :=
        openTag_eq (e := ⟨tag, properties, children, slug, editUrl, noClass, noSlug⟩) hproperties
      have hend := content_ne htag htext
      have hname := ofContent_name htag htext
      rw [ofNode, shown]
      cases hvoid : isVoidTag tag with
      | true =>
          simpa [hopen] using Shows.void hend hname hvoid
      | false =>
          have hbody := (shows_ofNodes children hchildren).append (shows_editLink
            ⟨tag, properties, children, slug, editUrl, noClass, noSlug⟩)
          have htagEnd : ∀ c ∈ tag.toList, c ≠ '>' := fun c hc =>
            (isNameChar_ne (isNameChar_of_mem htag hc)).2.2
          simpa [hopen, escape_append] using Shows.element hend htagEnd hname hvoid hbody

theorem shows_ofNodes : (nodes : List Node) → areNamed nodes = true →
    Shows (ofNodes nodes).toList (escape (shownIn nodes)).toList
  | [], _ => by
      rw [ofNodes, shownIn]
      exact .nil
  | node :: rest, h => by
      rw [areNamed, Bool.and_eq_true] at h
      rw [ofNodes, shownIn, escape_append, String.toList_append, String.toList_append]
      exact (shows_ofNode node h.1).append (shows_ofNodes rest h.2)

end

-- An HTML text has nested tags, and without them it is a text with its characters escaped.
structure IsMarkupOf (html shown : String) : Prop where
  nested : WellNested (tags html)
  text : withoutTags html = escape shown

theorem Shows.isMarkupOf {html shown : String} (h : Shows html.toList (escape shown).toList) :
    IsMarkupOf html shown := by
  obtain ⟨contents, hscans, hnest⟩ := h
  have hend : cut [] = [] := pieces_nil
  constructor
  · have htokens := hscans.tokens_eq []
    rw [List.append_nil, hend, tokens, List.append_nil] at htokens
    rw [WellNested, tags, htokens, hnest]
  · have hgaps := hscans.gaps_eq []
    rw [List.append_nil, hend, gaps, List.append_nil] at hgaps
    rw [withoutTags, hgaps, String.ofList_toList]

theorem isMarkupOf_html :
    (∀ node, isNamed node = true → IsMarkupOf (ofNode node) (shown node)) ∧
      ∀ nodes, areNamed nodes = true → IsMarkupOf (ofNodes nodes) (shownIn nodes) := by
  constructor
  · intro node h
    exact (shows_ofNode node h).isMarkupOf
  · intro nodes h
    exact (shows_ofNodes nodes h).isMarkupOf

-- Values that would end their attribute, their tag or their element if they stood there as they are.
def hostileNodes : List Node :=
  [.element
    { tag := "h1", properties := [("className", .list [.text "a\"><b"]), ("hidden", .bool true)],
      children :=
        [.text "</h1>",
         .element { tag := "br", children := [.text "gone"], editUrl := some "/gone" },
         .element { tag := "code", children := [.text "a < b && c"] }],
      slug := some "'><script>", editUrl := some "\">&" }]

theorem isMarkupOf_html_hostileNodes :
    areNamed hostileNodes = true ∧ IsMarkupOf (ofNodes hostileNodes) "</h1>a < b && cEdit" := by
  have hnamed : areNamed hostileNodes = true := by decide
  exact ⟨hnamed, isMarkupOf_html.2 hostileNodes hnamed⟩

end ApiPages.Html
