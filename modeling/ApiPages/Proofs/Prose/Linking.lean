import ApiPages.Proofs.Prose.Mention
import ApiPages.Proofs.Text.Cut

namespace ApiPages

open Text

namespace Anchor

theorem mem_of_mem_replaceFirst {old new c : Char} {cs : List Char}
    (h : c ∈ replaceFirst old new cs) : c = new ∨ c ∈ cs := by
  induction cs with
  | nil => exact .inr h
  | cons d cs ih =>
      rw [replaceFirst] at h
      split at h
      · rcases List.mem_cons.mp h with rfl | h
        · exact .inl rfl
        · exact .inr (List.mem_cons_of_mem d h)
      · rcases List.mem_cons.mp h with rfl | h
        · exact .inr List.mem_cons_self
        · exact (ih h).imp_right (List.mem_cons_of_mem d)

-- Lower-casing makes no at sign of other characters.
theorem notMem_ofMention {name : String} (h : '@' ∉ name.toList) :
    '@' ∉ (ofMention name).toList := by
  have htarget : '@' ∉ replaceFirst '#' '-' (lower name).toList := by
    intro hm
    rcases mem_of_mem_replaceFirst hm with heq | hm
    · exact absurd heq (by decide)
    · rw [lower, String.toList_ofList] at hm
      exact h (mem_of_mem_lowerFrom (.of_precedes (by decide)) hm)
  unfold ofMention
  split
  · rwa [String.toList_ofList]
  · rw [String.toList_append, String.toList_ofList, List.mem_append, not_or]
    exact ⟨by decide, htarget⟩

end Anchor

namespace Prose

-- A name as it can be mentioned.
structure Mention where
  name : String
  isMentioned : IsMentioned name

namespace Mention

def written (m : Mention) : List Char := (mentionOf m.name).toList

def link (m : Mention) : List Char := (linkTo m.name (Anchor.ofMention m.name)).toList

theorem written_eq (m : Mention) :
    m.written = mentionOpen ++ (m.name.toList ++ [mentionClose]) := by
  simp [written, mentionOf, mentionOpen_eq, mentionClose]

theorem notMem_name {c : Char} (hc : isNameChar c = false) (m : Mention) : c ∉ m.name.toList := by
  intro hm
  rw [m.isMentioned.2 c hm] at hc
  cases hc

theorem notMem_written {c : Char} (hc : isNameChar c = false) (hopen : c ∉ mentionOpen)
    (hclose : c ≠ mentionClose) (m : Mention) : c ∉ m.written := by
  rw [written_eq, List.mem_append, List.mem_append, List.mem_singleton, not_or, not_or]
  exact ⟨hopen, m.notMem_name hc, hclose⟩

theorem areEnclosed_written : AreEnclosed '\x7b' mentionClose written where
  enclosed m := by
    refine ⟨"@link ".toList ++ m.name.toList, ?_, ?_, ?_⟩
    · rw [written_eq, mentionOpen_eq, List.cons_append, List.append_assoc]
    · rw [List.mem_append, not_or]
      exact ⟨by decide, m.notMem_name (by decide)⟩
    · rw [List.mem_append, not_or]
      exact ⟨by decide, m.notMem_name (by decide)⟩
  ne := by decide
  injective m m' h := by
    rw [written_eq, written_eq] at h
    have hname := List.append_cancel_right (List.append_cancel_left h)
    cases m
    cases m'
    cases String.toList_inj.mp hname
    rfl

-- Only where a mention begins one is found.
theorem exists_of_mention? {cs : List Char} {found : List Char × List Char}
    (h : mention? cs = some found) : ∃ m : Mention, ∃ rest, cs = m.written ++ rest := by
  rw [mention?_eq] at h
  obtain ⟨tail, htail, hclosed⟩ := Option.bind_eq_some_iff.mp h
  have hcut := tail.takeWhile_append_dropWhile (p := isNameChar)
  have hname : ∀ c ∈ tail.takeWhile isNameChar, isNameChar c = true :=
    fun c hc => List.mem_takeWhile_imp hc
  unfold closedName? at hclosed
  split at hclosed
  case h_2 => cases hclosed
  case h_1 c name d rest hstart hrest =>
    split at hclosed
    case isFalse => cases hclosed
    case isTrue hclose =>
      rw [hstart] at hname
      let m : Mention := ⟨String.ofList (c :: name), by simp, by simpa using hname⟩
      refine ⟨m, rest, ?_⟩
      have hm : m.name.toList = c :: name := String.toList_ofList
      rw [eq_append_of_dropStart? htail, ← hcut, hstart, hrest, written_eq, hm, hclose]
      simp

theorem reads_mention : Reads mention? written fun m => m.name.toList where
  reads m rest := by
    have hne : m.name.toList ≠ [] := fun hnil => m.isMentioned.1 (String.toList_eq_nil_iff.mp hnil)
    have hmention := mention?_mentionOf hne m.isMentioned.2 rest
    rw [written_eq, List.append_assoc, List.append_assoc]
    exact hmention
  only _ _ h := exists_of_mention? h

theorem linkText_name (m : Mention) : linkText m.name.toList = m.link := by
  unfold linkText
  simp [link, linkTo]

-- A mention has an at sign, which no link has, and holds neither character at the ends of a link.
theorem exists_link (m : Mention) :
    ∃ start body stop, m.link = start :: (body ++ [stop]) ∧ ∀ other : Mention,
      start ∉ other.written ∧ stop ∉ other.written ∧ ¬ other.written <:+: body := by
  have hat : '@' ∉ "`".toList ++ m.name.toList ++ "`](#".toList ++
      (Anchor.ofMention m.name).toList := by
    have hname : '@' ∉ m.name.toList := m.notMem_name (by decide)
    simp only [List.mem_append, not_or]
    exact ⟨⟨⟨by decide, hname⟩, by decide⟩, Anchor.notMem_ofMention hname⟩
  refine ⟨'[', _, ')', ?_, fun other => ⟨?_, ?_, fun hinside => hat (hinside.subset ?_)⟩⟩
  · simp [link, linkTo]
  · exact other.notMem_written (by decide) (by decide) (by decide)
  · exact other.notMem_written (by decide) (by decide) (by decide)
  · simp [written_eq, mentionOpen_eq]

end Mention

theorem linkMentions_of_cut {s : String} {cut : Cut Mention}
    (h : cut.IsOf Mention.written s.toList) :
    (linkMentions s).toList = cut.fill id Mention.link := by
  have hgap : (fun gap => if gap = [] then [] else pieceText (.gap gap)) = id := by
    funext gap
    split
    · rename_i hnil
      exact hnil.symm
    · rfl
  have htoken : (fun m : Mention => pieceText (.token m.name.toList)) = Mention.link :=
    funext Mention.linkText_name
  rw [toList_linkMentions, linked, mentions,
    Mention.reads_mention.flatMap_pieces Mention.areEnclosed_written h, hgap, htoken]

-- A text without mentions stays as it is.
theorem linkMentions_eq_self {s : String} (h : ∀ m : Mention, ¬ m.written <:+: s.toList) :
    linkMentions s = s := by
  have hcut := linkMentions_of_cut (Cut.isOf_nil_iff.mpr ⟨rfl, h⟩)
  rw [Cut.fill_nil] at hcut
  exact String.toList_inj.mp hcut

-- A text has one cut at its mentions, in which no gap holds a mention. The links stand in the place
-- of the mentions of this cut, and replacing again changes nothing.
theorem linkMentions_cut (s : String) :
    ∃ cut : Cut Mention, cut.IsOf Mention.written s.toList ∧
      (∀ other : Cut Mention, other.IsOf Mention.written s.toList → other = cut) ∧
      (linkMentions s).toList = cut.fill id Mention.link ∧
      linkMentions (linkMentions s) = linkMentions s := by
  obtain ⟨cut, hcut⟩ := Mention.areEnclosed_written.exists_cut s.toList
  have hlinked := linkMentions_of_cut hcut
  refine ⟨cut, hcut, fun other hother => Mention.areEnclosed_written.cut_unique hcut hother,
    hlinked, linkMentions_eq_self fun m => ?_⟩
  rw [hlinked]
  exact hcut.not_isInfix_fill Mention.exists_link m

end Prose

end ApiPages
