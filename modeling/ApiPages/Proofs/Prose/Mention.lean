import ApiPages.Proofs.Anchor.Identifier
import ApiPages.Proofs.Text.Piece
import ApiPages.Proofs.Text.Scan
import ApiPages.Prose.Mention

namespace ApiPages

open Text

namespace Anchor

variable {owner member separator : String}

-- A letter, a digit or a low line.
def isPlainChar (c : Char) : Bool := c.isAlphanum || c == '_'

-- A name of ASCII letters, digits and low lines.
def IsPlain (name : String) : Prop := ∀ c ∈ name.toList, isPlainChar c = true

instance (name : String) : Decidable (IsPlain name) :=
  decidable_of_iff (name.toList.all isPlainChar = true) List.all_eq_true

theorem IsPlain.isIdentifier {name : String} (h : IsPlain name) : IsIdentifier name := by
  intro c hc
  have hplain := h c hc
  simp only [isPlainChar] at hplain
  simp [isIdentifierChar, hplain]

-- Mentions are written with these characters, and none of them gives way to a hyphen.
theorem isPlainChar_kept {c : Char} (h : isPlainChar c = true) :
    Prose.isNameChar c = true ∧ c.toLower ≠ '#' := by
  have hascii : c.val < 128 := by
    apply isAnchorChar_ascii
    simp only [isPlainChar] at h
    simp [isAnchorChar, h]
  exact forall_ascii (p := fun c => isPlainChar c = true →
      Prose.isNameChar c = true ∧ c.toLower ≠ '#')
    (by decide +kernel) c hascii h

theorem IsPlain.notMem_lower {name : String} (h : IsPlain name) :
    '#' ∉ name.toList.map Char.toLower := by
  intro hm
  obtain ⟨c, hc, heq⟩ := List.mem_map.mp hm
  exact (isPlainChar_kept (h c hc)).2 heq

theorem replaceFirst_append {old new : Char} {start : List Char} (h : old ∉ start)
    (rest : List Char) : replaceFirst old new (start ++ old :: rest) = start ++ new :: rest := by
  induction start with
  | nil => rw [List.nil_append, replaceFirst, if_pos rfl, List.nil_append]
  | cons c start ih =>
      rw [List.mem_cons, not_or] at h
      rw [List.cons_append, replaceFirst, if_neg fun heq => h.1 heq.symm, ih h.2,
        List.cons_append]

theorem isCapitalized_member (hseparator : separator = "#" ∨ separator = ".") :
    isCapitalized (owner ++ separator ++ member) = isCapitalized owner := by
  unfold isCapitalized
  rw [String.toList_append, String.toList_append]
  cases owner.toList with
  | nil => rcases hseparator with rfl | rfl <;> rfl
  | cons c rest => rfl

theorem toList_lower_joined {mark : String} (howner : IsPlain owner) (hmember : IsPlain member)
    (hmark : mark = "#" ∨ mark = "." ∨ mark = "-") :
    (lower (owner ++ mark ++ member)).toList =
      owner.toList.map Char.toLower ++ mark.toList ++ member.toList.map Char.toLower := by
  have hkept : (∀ c ∈ mark.toList, c.val < 128) ∧ mark.toList.map Char.toLower = mark.toList := by
    rcases hmark with rfl | rfl | rfl
    all_goals exact ⟨by simp, rfl⟩
  have hascii : ∀ c ∈ (owner ++ mark ++ member).toList, c.val < 128 := by
    simp only [String.toList_append, List.forall_mem_append]
    exact ⟨⟨howner.isIdentifier.ascii, hkept.1⟩, hmember.isIdentifier.ascii⟩
  simp only [toList_lower hascii, String.toList_append, List.map_append, hkept.2]

-- A mention of a member and the heading of the member spell one anchor, but for the mark that the
-- mention puts in front of an owner without a capital.
theorem ofMention_member (howner : IsPlain owner) (hmember : IsPlain member)
    (hseparator : separator = "#" ∨ separator = ".") :
    ofMention (owner ++ separator ++ member) =
      marked owner (ofMember owner member separator) := by
  have htarget : String.ofList (replaceFirst '#' '-'
      (lower (owner ++ separator ++ member)).toList) = ofMember owner member separator := by
    apply String.toList_inj.mp
    rw [String.toList_ofList]
    rcases hseparator with rfl | rfl
    · have hlower := toList_lower_joined howner hmember (.inl rfl)
      have hjoined := toList_lower_joined howner hmember (.inr (.inr rfl))
      rw [hlower, ofMember, if_pos rfl, hjoined, List.append_assoc, List.append_assoc]
      exact replaceFirst_append howner.notMem_lower _
    · have hlower := toList_lower_joined howner hmember (.inr (.inl rfl))
      have hnone : '#' ∉ owner.toList.map Char.toLower ++ ".".toList ++
          member.toList.map Char.toLower := by
        simp only [List.mem_append, not_or]
        exact ⟨⟨howner.notMem_lower, by simp⟩, hmember.notMem_lower⟩
      rw [ofMember, if_neg (by simp), hlower, replaceFirst_of_notMem hnone]
  rw [ofMention, htarget, isCapitalized_member hseparator, marked]

end Anchor

namespace Prose

-- The mention of a name.
def mentionOf (name : String) : String := "\x7b@link " ++ name ++ "\x7d"

-- A link in the text of a comment, with its label set as code.
def linkTo (label target : String) : String := "[`" ++ label ++ "`](#" ++ target ++ ")"

theorem mentionOpen_eq : mentionOpen = '\x7b' :: "@link ".toList := rfl

-- A name as mentions are written with it.
def IsMentioned (name : String) : Prop := name ≠ "" ∧ ∀ c ∈ name.toList, isNameChar c = true

-- The name at the start of a text, behind which the mention is closed.
def closedName? (cs : List Char) : Option (List Char × List Char) :=
  match cs.takeWhile isNameChar, cs.dropWhile isNameChar with
  | c :: name, d :: rest => if d = mentionClose then some (c :: name, rest) else none
  | _, _ => none

theorem mention?_eq (cs : List Char) :
    mention? cs = (dropStart? mentionOpen cs).bind closedName? := by
  unfold mention?
  apply congrArg (Option.bind _)
  funext rest
  have hdrop : rest.drop (rest.takeWhile isNameChar).length = rest.dropWhile isNameChar :=
    calc rest.drop (rest.takeWhile isNameChar).length
        = (rest.takeWhile isNameChar ++ rest.dropWhile isNameChar).drop
            (rest.takeWhile isNameChar).length := by rw [List.takeWhile_append_dropWhile]
      _ = rest.dropWhile isNameChar := List.drop_left
  unfold closedName?
  simp only [hdrop]
  cases rest.takeWhile isNameChar with
  | nil => rfl
  | cons c name =>
      cases rest.dropWhile isNameChar with
      | nil => rfl
      | cons d after => rfl

-- A name that is not closed.
theorem closedName?_name {name : List Char} (h : ∀ c ∈ name, isNameChar c = true) :
    closedName? name = none := by
  have hrest : name.dropWhile isNameChar = [] := List.dropWhile_eq_nil_iff.mpr h
  unfold closedName?
  rw [hrest]
  cases name.takeWhile isNameChar <;> rfl

theorem closedName?_append {name : List Char} {d : Char} (h : ∀ c ∈ name, isNameChar c = true)
    (hd : isNameChar d = false) (rest : List Char) :
    closedName? (name ++ d :: rest) =
      if name ≠ [] ∧ d = mentionClose then some (name, rest) else none := by
  have hname : (name ++ d :: rest).takeWhile isNameChar = name := by
    rw [List.takeWhile_append_of_pos h, List.takeWhile_cons, hd]
    simp
  have hrest : (name ++ d :: rest).dropWhile isNameChar = d :: rest := by
    rw [List.dropWhile_append_of_pos h, List.dropWhile_cons, hd]
    simp
  unfold closedName?
  rw [hname, hrest]
  cases name <;> simp

-- Only what stands in front of the next brace can be closed.
theorem closedName?_append_brace (cs rest : List Char) :
    closedName? (cs ++ '\x7b' :: rest) =
      (closedName? cs).map fun found => (found.1, found.2 ++ '\x7b' :: rest) := by
  have hname : ∀ c ∈ cs.takeWhile isNameChar, isNameChar c = true :=
    fun c hc => List.mem_takeWhile_imp hc
  have hcut := cs.takeWhile_append_dropWhile (p := isNameChar)
  cases hdrop : cs.dropWhile isNameChar with
  | nil =>
      rw [hdrop, List.append_nil] at hcut
      rw [← hcut, closedName?_name hname, closedName?_append hname (by decide)]
      simp [mentionClose]
  | cons d after =>
      have hd : isNameChar d = false := by
        have hhead := List.head?_dropWhile_not isNameChar cs
        rw [hdrop] at hhead
        exact hhead
      rw [hdrop] at hcut
      rw [← hcut, List.append_assoc, List.cons_append, closedName?_append hname hd,
        closedName?_append hname hd]
      split <;> rfl

theorem mention?_mentionOf {name : List Char} (hne : name ≠ [])
    (hname : ∀ c ∈ name, isNameChar c = true) (rest : List Char) :
    mention? (mentionOpen ++ (name ++ mentionClose :: rest)) = some (name, rest) := by
  rw [mention?_eq, dropStart?_append, Option.bind_some, closedName?_append hname (by decide),
    if_pos ⟨hne, rfl⟩]

-- No mention runs into the next one.
theorem mention?_append_brace (c : Char) (cs rest : List Char) :
    mention? (c :: (cs ++ '\x7b' :: rest)) =
      (mention? (c :: cs)).map fun found => (found.1, found.2 ++ '\x7b' :: rest) := by
  have hnone : '\x7b' ∉ "@link ".toList := by decide
  rw [mention?_eq, mention?_eq, mentionOpen_eq, dropStart?, dropStart?]
  split
  · rw [dropStart?_append_of_notMem hnone]
    cases dropStart? "@link ".toList cs with
    | none => rfl
    | some tail => exact closedName?_append_brace tail rest
  · rfl

def pieceText : Piece (List Char) → List Char
  | .gap text => text
  | .token name => linkText name

-- A text with its mentions replaced.
def linked (cs : List Char) : List Char := (mentions cs).flatMap pieceText

theorem toList_linkMentions (s : String) : (linkMentions s).toList = linked s.toList := by
  rw [linkMentions, String.toList_ofList]
  rfl

theorem linked_nil : linked [] = [] := by
  rw [linked, mentions, pieces_nil]
  rfl

theorem linked_of_some {cs name rest : List Char} (h : mention? cs = some (name, rest)) :
    linked cs = linkText name ++ linked rest := by
  rw [linked, linked, mentions, pieces_of_some h, List.flatMap_cons]
  rfl

theorem linked_of_none {c : Char} {cs : List Char} (h : mention? (c :: cs) = none) :
    linked (c :: cs) = c :: linked cs := by
  rw [linked, linked, mentions, pieces_of_none h, mentions]
  cases pieces mention? (fun _ _ _ h => mention?_length h) cs with
  | nil => rfl
  | cons piece rest => cases piece <;> rfl

-- The text in front of a brace is read as if it ended there.
theorem linked_append_brace (before rest : List Char) :
    linked (before ++ '\x7b' :: rest) = linked before ++ linked ('\x7b' :: rest) := by
  induction hn : before.length using Nat.strong_induction_on generalizing before with
  | _ n ih =>
      cases before with
      | nil => rw [linked_nil, List.nil_append, List.nil_append]
      | cons c before =>
          have happend := mention?_append_brace c before rest
          cases hmention : mention? (c :: before) with
          | none =>
              rw [hmention, Option.map_none] at happend
              rw [List.cons_append, linked_of_none happend, linked_of_none hmention,
                ih before.length (by simp [← hn]) before rfl, List.cons_append]
          | some found =>
              rw [hmention, Option.map_some] at happend
              rw [List.cons_append, linked_of_some happend, linked_of_some hmention,
                ih found.2.length (hn ▸ mention?_length hmention) found.2 rfl, List.append_assoc]

-- A mention becomes a link wherever it stands, and the text around it is read by itself.
theorem linkMentions_append_mention {name : String} (h : IsMentioned name)
    (before after : String) :
    linkMentions (before ++ mentionOf name ++ after) =
      linkMentions before ++ linkTo name (Anchor.ofMention name) ++ linkMentions after := by
  have hne : name.toList ≠ [] := fun hnil => h.1 (String.toList_eq_nil_iff.mp hnil)
  have hmention := mention?_mentionOf hne h.2 after.toList
  have htext : (before ++ mentionOf name ++ after).toList =
      before.toList ++ (mentionOpen ++ (name.toList ++ mentionClose :: after.toList)) := by
    simp [mentionOf, mentionOpen_eq, mentionClose]
  have hlink : (linkTo name (Anchor.ofMention name)).toList = linkText name.toList := by
    unfold linkText
    simp [linkTo]
  apply String.toList_inj.mp
  rw [toList_linkMentions, htext, mentionOpen_eq, List.cons_append, linked_append_brace,
    ← List.cons_append, ← mentionOpen_eq, linked_of_some hmention, String.toList_append,
    String.toList_append, toList_linkMentions, toList_linkMentions, hlink, List.append_assoc]

variable {owner member separator : String}

theorem isMentioned_member (howner : Anchor.IsPlain owner) (hmember : Anchor.IsPlain member)
    (hseparator : separator = "#" ∨ separator = ".") :
    IsMentioned (owner ++ separator ++ member) := by
  have hmark : separator ≠ "" ∧ ∀ c ∈ separator.toList, isNameChar c = true := by
    rcases hseparator with rfl | rfl
    · exact ⟨by simp, List.forall_mem_singleton.mpr (by decide)⟩
    · exact ⟨by simp, List.forall_mem_singleton.mpr (by decide)⟩
  constructor
  · simp [hmark.1]
  · simp only [String.toList_append, List.forall_mem_append]
    exact ⟨⟨fun c hc => (Anchor.isPlainChar_kept (howner c hc)).1, hmark.2⟩,
      fun c hc => (Anchor.isPlainChar_kept (hmember c hc)).1⟩

theorem linkMentions_append_member (howner : Anchor.IsPlain owner) (hmember : Anchor.IsPlain member)
    (hseparator : separator = "#" ∨ separator = ".") (before after : String) :
    linkMentions (before ++ mentionOf (owner ++ separator ++ member) ++ after) =
      linkMentions before ++
        linkTo (owner ++ separator ++ member)
          (Anchor.marked owner (Anchor.ofMember owner member separator)) ++
        linkMentions after := by
  rw [linkMentions_append_mention (isMentioned_member howner hmember hseparator),
    Anchor.ofMention_member howner hmember hseparator]

end Prose

end ApiPages
