import ApiPages.Proofs.Document.Html
import ApiPages.Proofs.Text.Scan

namespace ApiPages.Html

def isKeyChar (c : Char) : Bool := c.isAlpha || c == '-'

-- A text under a name of letters and hyphens.
def IsPlainProperty (property : String × Json) : Prop :=
  property.1 ≠ "className" ∧ (∀ c ∈ property.1.toList, isKeyChar c = true) ∧
    ∃ s, property.2 = .text s

-- Elements without hints for the layout, whose attributes are their properties as they stand.
structure IsPlain (e : Element) : Prop where
  tag : ∀ c ∈ e.tag.toList, c.isAlphanum = true
  notVoid : isVoidTag e.tag = false
  properties : ∀ property ∈ e.properties, IsPlainProperty property
  distinct : (e.properties.map (·.1)).Nodup
  codeClass : e.tag = "code" → "class" ∈ e.properties.map (·.1)
  slug : e.slug = none
  editUrl : e.editUrl = none
  noClass : e.noClass = false
  noSlug : e.noSlug = false

-- Whether a text stands first.
def startsWithText : List Node → Bool
  | .text _ :: _ => true
  | _ => false

-- At any depth no text is empty or next to another one, and every element is plain.
inductive AreNormal : List Node → Prop
  | nil : AreNormal []
  | text {value : String} {rest : List Node} (nonempty : value ≠ "")
      (alone : startsWithText rest = false) (others : AreNormal rest) :
      AreNormal (.text value :: rest)
  | element {e : Element} {rest : List Node} (plain : IsPlain e) (children : AreNormal e.children)
      (others : AreNormal rest) : AreNormal (.element e :: rest)

-- Escaping leaves no character empty, keeps quotes out, and no escaped character starts another one.
theorem escapeChar_append_inj {c d : Char} {xs ys : List Char}
    (h : escapeChar c ++ xs = escapeChar d ++ ys) : c = d ∧ xs = ys := by
  unfold escapeChar at h
  split at h <;> split at h <;> grind

theorem escapeChar_ne_nil (c : Char) : escapeChar c ≠ [] := by
  unfold escapeChar
  split <;> simp

theorem escapeChar_ne_quote (d : Char) : ∀ c ∈ escapeChar d, c ≠ '"' := by
  unfold escapeChar
  split <;> grind

theorem flatMap_escapeChar_inj {xs ys : List Char}
    (h : xs.flatMap escapeChar = ys.flatMap escapeChar) : xs = ys := by
  induction xs generalizing ys with
  | nil =>
      have hnil : ys.flatMap escapeChar = [] := h.symm
      rw [List.flatMap_eq_nil_iff] at hnil
      exact (List.eq_nil_iff_forall_not_mem.mpr fun y hy => escapeChar_ne_nil y (hnil y hy)).symm
  | cons x xs ih =>
      cases ys with
      | nil =>
          rw [List.flatMap_nil, List.flatMap_eq_nil_iff] at h
          exact absurd (h x List.mem_cons_self) (escapeChar_ne_nil x)
      | cons y ys =>
          rw [List.flatMap_cons, List.flatMap_cons] at h
          obtain ⟨rfl, hrest⟩ := escapeChar_append_inj h
          rw [ih hrest]

theorem toList_escape_inj {s t : String} (h : (escape s).toList = (escape t).toList) : s = t := by
  rw [escape, escape, String.toList_ofList, String.toList_ofList] at h
  exact String.toList_inj.mp (flatMap_escapeChar_inj h)

theorem escape_ne_quote {s : String} {c : Char} (h : c ∈ (escape s).toList) : c ≠ '"' := by
  rw [escape, String.toList_ofList] at h
  obtain ⟨d, -, hc⟩ := List.mem_flatMap.mp h
  exact escapeChar_ne_quote d c hc

-- The attributes of a plain element, written out.
def attributesText : List (String × Json) → List Char
  | [] => []
  | (key, value) :: rest =>
    ' ' :: (key.toList ++ '=' :: '"' :: ((escape value.plain).toList ++ '"' :: attributesText rest))

theorem setMember_of_notMem {name : String} {value : Json} {members : List (String × Json)}
    (h : name ∉ members.map (·.1)) : Json.setMember name value members = members ++ [(name, value)] := by
  induction members with
  | nil => rfl
  | cons member rest ih =>
      obtain ⟨key, old⟩ := member
      rw [List.map_cons, List.mem_cons, not_or] at h
      rw [Json.setMember, if_neg (Ne.symm h.1), ih h.2, List.cons_append]

theorem foldl_setMember {properties : List (String × Json)} (members : List (String × Json))
    (hnames : ∀ property ∈ properties, property.1 ≠ "className")
    (h : ((members ++ properties).map (·.1)).Nodup) :
    properties.foldl (fun acc (key, value) =>
      Json.setMember (if key = "className" then "class" else key) value acc) members =
        members ++ properties := by
  induction properties generalizing members with
  | nil => rw [List.foldl_nil, List.append_nil]
  | cons property rest ih =>
      obtain ⟨key, value⟩ := property
      obtain ⟨hkey, hrest⟩ := List.forall_mem_cons.mp hnames
      have hnew : key ∉ members.map (·.1) := by
        rw [List.map_append, List.map_cons, List.nodup_append] at h
        intro hm
        exact h.2.2 key hm key List.mem_cons_self rfl
      simp only [List.foldl_cons, if_neg hkey, setMember_of_notMem hnew]
      rw [List.append_cons] at h
      rw [ih _ hrest h, ← List.append_cons]

theorem lookup_isSome {name : String} {members : List (String × Json)}
    (h : name ∈ members.map (·.1)) : (Json.lookup name members).isSome = true := by
  induction members with
  | nil => cases h
  | cons member rest ih =>
      obtain ⟨key, value⟩ := member
      rw [Json.lookup]
      split
      · rfl
      · rename_i hne
        exact ih ((List.mem_cons.mp h).resolve_left (Ne.symm hne))

theorem IsPlain.attributes_eq {e : Element} (h : IsPlain e) : attributes e = e.properties := by
  have hfold := foldl_setMember [] (fun property hm => (h.properties property hm).1)
    (by simpa using h.distinct)
  have hclass : ¬ (e.tag = "code" ∧ e.noClass = false ∧
      (Json.lookup "class" e.properties).isNone = true) := by
    rintro ⟨hcode, -, hnone⟩
    have hsome := lookup_isSome (h.codeClass hcode)
    simp [Option.isNone_iff_eq_none.mp hnone] at hsome
  rw [List.nil_append] at hfold
  simp only [attributes, h.slug, hfold, if_neg hclass]

theorem isKeyChar_ne {c : Char} (h : isKeyChar c = true) : c ≠ '=' := by
  rintro rfl
  exact absurd h (by decide)

theorem attributeText_text (key s : String) :
    (attributeText key (.text s)).toList =
      ' ' :: (key.toList ++ '=' :: '"' :: ((escape s).toList ++ ['"'])) := by
  simp [attributeText, Json.plain, Scalar.plain]

theorem toList_openTag {e : Element} (h : IsPlain e) :
    (openTag e).toList = '<' :: (e.tag.toList ++ (attributesText e.properties ++ ['>'])) := by
  have htext : ∀ properties : List (String × Json),
      (∀ property ∈ properties, IsPlainProperty property) →
      properties.flatMap (fun property => (attributeText property.1 property.2).toList) =
        attributesText properties := by
    intro properties hplain
    induction properties with
    | nil => rfl
    | cons property rest ih =>
        obtain ⟨key, value⟩ := property
        obtain ⟨⟨-, -, s, rfl⟩, hrest⟩ := List.forall_mem_cons.mp hplain
        rw [List.flatMap_cons, ih hrest, attributeText_text, attributesText]
        simp [Json.plain, Scalar.plain]
  rw [openTag, h.attributes_eq]
  simp [String.toList_join, List.flatMap_map, htext _ h.properties]

-- A key ends at the equals sign, a value at the next quote and the attributes at the bracket.
theorem attributesText_append_inj {properties others : List (String × Json)}
    (h : ∀ property ∈ properties, IsPlainProperty property)
    (ho : ∀ property ∈ others, IsPlainProperty property) {rest rest' : List Char}
    (heq : attributesText properties ++ '>' :: rest = attributesText others ++ '>' :: rest') :
    properties = others ∧ rest = rest' := by
  induction properties generalizing others with
  | nil =>
      cases others with
      | nil => exact ⟨rfl, (List.cons.inj heq).2⟩
      | cons other others => simp [attributesText] at heq
  | cons property properties ih =>
      cases others with
      | nil => simp [attributesText] at heq
      | cons other others =>
          rw [List.forall_mem_cons] at h ho
          obtain ⟨key, value⟩ := property
          obtain ⟨key', value'⟩ := other
          obtain ⟨⟨-, hkey, s, hs⟩, hall⟩ := h
          obtain ⟨⟨-, hkey', s', hs'⟩, hall'⟩ := ho
          dsimp only at hs hs' hkey hkey'
          subst hs hs'
          simp only [attributesText, List.cons_append, List.append_assoc, List.cons.injEq,
            true_and] at heq
          obtain ⟨hname, heq⟩ := Text.append_inj_of_stop (p := (· = '='))
            (fun c hc => isKeyChar_ne (hkey c hc)) (fun c hc => isKeyChar_ne (hkey' c hc))
            (by simp) (by simp) heq
          simp only [List.cons.injEq, true_and] at heq
          obtain ⟨hvalue, heq⟩ := Text.append_inj_of_stop (p := (· = '"')) (fun _ => escape_ne_quote)
            (fun _ => escape_ne_quote) (by simp) (by simp) heq
          obtain ⟨hothers, hrest⟩ := ih hall hall' (List.cons.inj heq).2
          have hnames : key = key' := String.toList_inj.mp hname
          have hvalues : s = s' := toList_escape_inj hvalue
          exact ⟨by rw [hnames, hvalues, hothers], hrest⟩

-- What can stand behind the nodes of a list: nothing, or a closing tag.
def IsEnd (rest : List Char) : Prop := rest = [] ∨ ∃ tail, rest = '<' :: '/' :: tail

theorem toList_ofNodes_cons (node : Node) (rest : List Node) :
    (ofNodes (node :: rest)).toList = (ofNode node).toList ++ (ofNodes rest).toList := by
  rw [ofNodes, String.toList_append]

theorem ofNode_text (value : String) : ofNode (.text value) = escape value := by rw [ofNode]

theorem IsEnd.head {rest : List Char} (h : IsEnd rest) : ∀ c ∈ rest.head?, c = '<' := by
  rcases h with rfl | ⟨tail, rfl⟩ <;> simp

theorem toList_ofNode_element {e : Element} (h : IsPlain e) :
    (ofNode (.element e)).toList =
      '<' :: (e.tag.toList ++ (attributesText e.properties ++
        '>' :: ((ofNodes e.children).toList ++ '<' :: '/' :: (e.tag.toList ++ ['>'])))) := by
  have hedit : editLink e = "" := by simp [editLink, h.editUrl]
  obtain ⟨tag, properties, children, slug, editUrl, noClass, noSlug⟩ := e
  rw [ofNode, if_neg (by simp [h.notVoid]), hedit]
  simp [toList_openTag h]

theorem head_toList_ofNodes {nodes : List Node} (h : AreNormal nodes)
    (ht : startsWithText nodes = false) {rest : List Char} (hrest : IsEnd rest) :
    ∀ c ∈ ((ofNodes nodes).toList ++ rest).head?, c = '<' := by
  cases h with
  | nil => exact hrest.head
  | text => cases ht
  | element plain children others => simp [ofNodes, toList_ofNode_element plain]

theorem isAlphanum_ne {c : Char} (h : c.isAlphanum = true) : c ≠ ' ' ∧ c ≠ '>' ∧ c ≠ '/' := by
  refine ⟨?_, ?_, ?_⟩
  all_goals
    rintro rfl
    exact absurd h (by decide)

theorem escape_append_ne {value : String} (h : value ≠ "") {others rest : List Char}
    (hrest : ∀ c ∈ rest.head?, c = '<') : (escape value).toList ++ others ≠ rest := by
  intro heq
  cases hcs : (escape value).toList with
  | nil => exact h (toList_escape_inj (hcs.trans String.toList_empty.symm))
  | cons c cs =>
      have hc : c ≠ '<' := (escape_ne (s := value) (by simp [hcs])).1
      exact hc (hrest c (by simp [← heq, hcs]))

-- A slash follows the bracket of a closing tag only.
theorem element_append_ne_end {e : Element} (h : IsPlain e) {others rest : List Char}
    (hrest : IsEnd rest) : (ofNode (.element e)).toList ++ others ≠ rest := by
  rw [toList_ofNode_element h]
  rcases hrest with rfl | ⟨tail, rfl⟩
  · simp
  · intro heq
    simp only [List.cons_append, List.cons.injEq, true_and] at heq
    cases htag : e.tag.toList with
    | cons c cs =>
        have hc : c ≠ '/' := (isAlphanum_ne (h.tag c (by simp [htag]))).2.2
        simp [htag, hc] at heq
    | nil =>
        cases hproperties : e.properties with
        | nil => simp [htag, hproperties, attributesText] at heq
        | cons property properties => simp [htag, hproperties, attributesText] at heq

theorem tag_append_inj {e e' : Element} (h : IsPlain e) (h' : IsPlain e') {rest rest' : List Char}
    (heq : e.tag.toList ++ (attributesText e.properties ++ '>' :: rest) =
      e'.tag.toList ++ (attributesText e'.properties ++ '>' :: rest')) :
    e.tag = e'.tag ∧ e.properties = e'.properties ∧ rest = rest' := by
  have hstop : ∀ (properties : List (String × Json)) (rest : List Char),
      ∀ c ∈ (attributesText properties ++ '>' :: rest).head?, c = ' ' ∨ c = '>' := by
    intro properties rest
    cases properties <;> simp [attributesText]
  have hword : ∀ {e : Element}, IsPlain e → ∀ c ∈ e.tag.toList, ¬ (c = ' ' ∨ c = '>') := by
    intro e h c hc
    have hne := isAlphanum_ne (h.tag c hc)
    exact not_or.mpr ⟨hne.1, hne.2.1⟩
  obtain ⟨htag, heq⟩ := Text.append_inj_of_stop (hword h) (hword h') (hstop _ _) (hstop _ _) heq
  obtain ⟨hproperties, hrest⟩ := attributesText_append_inj h.properties h'.properties heq
  exact ⟨String.toList_inj.mp htag, hproperties, hrest⟩

theorem IsPlain.ext {e e' : Element} (h : IsPlain e) (h' : IsPlain e') (htag : e.tag = e'.tag)
    (hproperties : e.properties = e'.properties) (hchildren : e.children = e'.children) :
    e = e' := by
  cases e
  cases e'
  simp only [Element.mk.injEq]
  exact ⟨htag, hproperties, hchildren, h.slug.trans h'.slug.symm, h.editUrl.trans h'.editUrl.symm,
    h.noClass.trans h'.noClass.symm, h.noSlug.trans h'.noSlug.symm⟩

-- By induction on the first list: its first node tells where it ends, so the same node stands first
-- in the second list and the same characters follow it.
theorem ofNodes_append_inj {nodes others : List Node} (h : AreNormal nodes) (ho : AreNormal others)
    {rest rest' : List Char} (hrest : IsEnd rest) (hrest' : IsEnd rest')
    (heq : (ofNodes nodes).toList ++ rest = (ofNodes others).toList ++ rest') :
    nodes = others ∧ rest = rest' := by
  induction h generalizing others rest rest' with
  | nil =>
      cases ho with
      | nil => exact ⟨rfl, heq⟩
      | text nonempty =>
          simp only [toList_ofNodes_cons, ofNode_text, List.append_assoc] at heq
          exact absurd heq.symm (escape_append_ne nonempty hrest.head)
      | element plain =>
          simp only [toList_ofNodes_cons, List.append_assoc] at heq
          exact absurd heq.symm (element_append_ne_end plain hrest)
  | @text value nodes nonempty alone normal ih =>
      simp only [toList_ofNodes_cons, ofNode_text, List.append_assoc] at heq
      cases ho with
      | nil => exact absurd heq (escape_append_ne nonempty hrest'.head)
      | element plain children' normal' =>
          have hhead := head_toList_ofNodes (.element plain children' normal') rfl hrest'
          exact absurd heq (escape_append_ne nonempty hhead)
      | @text value' others nonempty' alone' normal' =>
          simp only [toList_ofNodes_cons, ofNode_text, List.append_assoc] at heq
          obtain ⟨hvalue, heq⟩ := Text.append_inj_of_stop (p := (· = '<'))
            (fun _ hc => (escape_ne hc).1) (fun _ hc => (escape_ne hc).1)
            (head_toList_ofNodes normal alone hrest) (head_toList_ofNodes normal' alone' hrest') heq
          obtain ⟨rfl, rfl⟩ := ih normal' hrest hrest' heq
          rw [toList_escape_inj hvalue]
          exact ⟨rfl, rfl⟩
  | @element e nodes plain children normal ihChildren ih =>
      cases ho with
      | nil =>
          simp only [toList_ofNodes_cons, List.append_assoc] at heq
          exact absurd heq (element_append_ne_end plain hrest')
      | text nonempty =>
          have hhead := head_toList_ofNodes (.element plain children normal) rfl hrest
          simp only [toList_ofNodes_cons, ofNode_text, List.append_assoc] at heq hhead
          exact absurd heq.symm (escape_append_ne nonempty hhead)
      | @element e' others plain' children' normal' =>
          simp only [toList_ofNodes_cons, toList_ofNode_element plain,
            toList_ofNode_element plain', List.cons_append, List.append_assoc, List.cons.injEq,
            true_and] at heq
          obtain ⟨htag, hproperties, heq⟩ := tag_append_inj plain plain' heq
          obtain ⟨hchildren, heq⟩ := ihChildren children' (.inr ⟨_, rfl⟩) (.inr ⟨_, rfl⟩) heq
          rw [htag] at heq
          simp only [List.cons.injEq, true_and, List.append_cancel_left_eq] at heq
          obtain ⟨rfl, rfl⟩ := ih normal' hrest hrest' heq
          rw [plain.ext plain' htag hproperties hchildren]
          exact ⟨rfl, rfl⟩

theorem ofNodes_eq_iff {nodes others : List Node} (h : AreNormal nodes) (ho : AreNormal others) :
    ofNodes nodes = ofNodes others ↔ nodes = others := by
  constructor
  · intro heq
    exact (ofNodes_append_inj h ho (.inl rfl) (.inl rfl) (by rw [heq])).1
  · rintro rfl
    rfl

-- A paragraph whose texts look like the markup of the other one.
def quotedMarkup : List Node :=
  [.element { tag := "p", properties := [("title", .text "a\" lang=\"en")],
              children := [.text "<b>&amp;</b>"] }]

def realMarkup : List Node :=
  [.element { tag := "p", properties := [("title", .text "a"), ("lang", .text "en")],
              children := [.element { tag := "b", children := [.text "&"] }] }]

theorem ofNodes_eq_iff_quotedMarkup :
    AreNormal quotedMarkup ∧ AreNormal realMarkup ∧ ofNodes quotedMarkup ≠ ofNodes realMarkup := by
  have hkey : ∀ {key s : String}, key ≠ "className" → key.toList.all isKeyChar = true →
      IsPlainProperty (key, .text s) := fun hne hall => ⟨hne, List.all_eq_true.mp hall, _, rfl⟩
  have htag : ∀ {tag : String}, tag.toList.all Char.isAlphanum = true →
      ∀ c ∈ tag.toList, c.isAlphanum = true := fun hall => List.all_eq_true.mp hall
  have hquoted : AreNormal quotedMarkup := by
    refine .element ⟨htag rfl, by decide, ?_, by decide, by decide, rfl, rfl, rfl, rfl⟩
      (.text (by decide) rfl .nil) .nil
    exact List.forall_mem_singleton.mpr (hkey (by decide) (by decide))
  have hreal : AreNormal realMarkup := by
    refine .element ⟨htag rfl, by decide, ?_, by decide, by decide, rfl, rfl, rfl, rfl⟩
      (.element ⟨htag rfl, by decide, by simp, by decide, by decide, rfl, rfl, rfl, rfl⟩
        (.text (by decide) rfl .nil) .nil) .nil
    simp only [List.forall_mem_cons]
    exact ⟨hkey (by decide) (by decide), hkey (by decide) (by decide), List.forall_mem_nil _⟩
  refine ⟨hquoted, hreal, (ofNodes_eq_iff hquoted hreal).not.mpr ?_⟩
  simp [quotedMarkup, realMarkup]

end ApiPages.Html
