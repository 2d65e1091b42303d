import ApiPages.Proofs.Anchor.Fresh
import ApiPages.Proofs.Anchor.Normal

namespace ApiPages.Anchor

open Text

def isIdentifierChar (c : Char) : Bool := c.isAlphanum || c == '_' || c == '$'

-- A name of ASCII letters, digits, low lines and dollar signs.
def IsIdentifier (name : String) : Prop := ∀ c ∈ name.toList, isIdentifierChar c = true

instance (name : String) : Decidable (IsIdentifier name) :=
  decidable_of_iff (name.toList.all isIdentifierChar = true) List.all_eq_true

theorem isAnchorChar_of_identifier {c : Char} (h : isIdentifierChar c = true) :
    isAnchorChar c = true := by
  simp only [isIdentifierChar, Bool.or_eq_true] at h
  simp only [isAnchorChar, Bool.or_eq_true]
  tauto

theorem IsIdentifier.isAnchorName {name : String} (h : IsIdentifier name) : IsAnchorName name :=
  fun c hc => isAnchorChar_of_identifier (h c hc)

theorem isIdentifierChar_toLower {c : Char} (h : isIdentifierChar c = true) :
    isIdentifierChar c.toLower = true :=
  forall_ascii (p := fun c => isIdentifierChar c = true → isIdentifierChar c.toLower = true)
    (by decide +kernel) c (isAnchorChar_ascii (isAnchorChar_of_identifier h)) h

theorem IsIdentifier.ascii {name : String} (h : IsIdentifier name) :
    ∀ c ∈ name.toList, c.val < 128 := fun c hc =>
  isAnchorChar_ascii (h.isAnchorName c hc)

theorem IsIdentifier.lower {name : String} (h : IsIdentifier name) :
    IsIdentifier (lower name) := by
  intro c hc
  rw [toList_lower h.ascii] at hc
  obtain ⟨d, hd, rfl⟩ := List.mem_map.mp hc
  exact isIdentifierChar_toLower (h d hd)

theorem ofSymbol_capitalized {name : String} (h : IsIdentifier name)
    (hc : isCapitalized name = true) : ofSymbol name = lower name := by
  rw [h.isAnchorName.ofSymbol_eq, if_pos hc]

theorem toList_ofSymbol_plain {name : String} (h : IsIdentifier name)
    (hc : isCapitalized name = false) :
    (ofSymbol name).toList = globalsMark.toList ++ (lower name).toList := by
  rw [h.isAnchorName.ofSymbol_eq, hc, if_neg Bool.false_ne_true, String.toList_append]

-- An anchor with the mark of the globals in front, if the name it belongs to has no capital.
def marked (name slug : String) : String :=
  if isCapitalized name then slug else globalsMark ++ slug

theorem ofSymbol_identifier {name : String} (h : IsIdentifier name) :
    ofSymbol name = marked name (lower name) := h.isAnchorName.ofSymbol_eq

theorem toList_lower_marked {owner mark : String} (h : IsIdentifier owner) (member : String)
    (hm : mark = "-" ∨ mark = ".") :
    ∃ rest, (lower (owner ++ mark ++ member)).toList =
      (lower owner).toList ++ mark.toList ++ rest := by
  have hascii : ∀ c ∈ (owner ++ mark).toList, c.val < 128 := by
    intro c hc
    rw [String.toList_append] at hc
    rcases List.mem_append.mp hc with hc | hc
    · exact h.ascii c hc
    · rcases hm with rfl | rfl
      · rw [List.mem_singleton.mp hc]
        decide
      · rw [List.mem_singleton.mp hc]
        decide
  have hmark : mark.toList.map Char.toLower = mark.toList := by
    rcases hm with rfl | rfl <;> rfl
  exact ⟨_, by rw [toList_lower_append member hascii, String.toList_append, List.map_append, hmark,
    toList_lower h.ascii]⟩

-- The anchor of a member starts with the name of its owner, behind which stands a mark.
theorem toList_ofMember {owner separator : String} (h : IsIdentifier owner) (member : String)
    (hs : separator = "#" ∨ separator = ".") :
    ∃ mark rest, (mark = '-' ∨ mark = '.') ∧
      (ofMember owner member separator).toList = (lower owner).toList ++ mark :: rest := by
  rcases hs with rfl | rfl
  · obtain ⟨rest, hrest⟩ := toList_lower_marked h member (.inl rfl)
    exact ⟨'-', rest, .inl rfl, by simpa [ofMember] using hrest⟩
  · obtain ⟨rest, hrest⟩ := toList_lower_marked h member (.inr rfl)
    exact ⟨'.', rest, .inr rfl, by simpa [ofMember] using hrest⟩

-- The anchors that a symbol and its members can have.
inductive Serves (name slug : String) : Prop where
  | ofClass (h : slug = lower name)
  | ofSymbol (h : slug = ofSymbol name)
  | ofMember (mark : Char) (rest : List Char) (hm : mark = '-' ∨ mark = '.')
      (h : slug.toList = (lower name).toList ++ mark :: rest)

-- The lowered name of the symbol that an anchor serves, as long as no symbol is called after the
-- mark of the globals.
def servedName (slug : String) : List Char :=
  if globalsMark.toList <+: slug.toList then slug.toList.drop globalsMark.length
  else slug.toList.takeWhile isIdentifierChar

theorem takeWhile_stem {stem rest : List Char} (hstem : ∀ c ∈ stem, isIdentifierChar c = true)
    (hrest : rest.head?.all fun c => !isIdentifierChar c) :
    (stem ++ rest).takeWhile isIdentifierChar = stem := by
  rw [List.takeWhile_append_of_pos hstem]
  cases rest with
  | nil => simp
  | cons c rest =>
      have hc : isIdentifierChar c = false := by simpa using hrest
      simp [hc]

theorem servedName_stem {slug : String} {stem rest : List Char}
    (hslug : slug.toList = stem ++ rest) (hstem : ∀ c ∈ stem, isIdentifierChar c = true)
    (hrest : rest.head?.all fun c => !isIdentifierChar c) (hglobals : stem ≠ "globals".toList) :
    servedName slug = stem := by
  have htake := takeWhile_stem hstem hrest
  have hmark : ¬ globalsMark.toList <+: slug.toList := by
    rintro ⟨tail, htail⟩
    rw [← hslug, ← htail] at htake
    exact hglobals htake.symm
  rw [servedName, if_neg hmark, hslug, htake]

theorem Serves.servedName {name slug : String} (h : Serves name slug) (hname : IsIdentifier name)
    (hglobals : lower name ≠ "globals") : servedName slug = (lower name).toList := by
  have hne : (lower name).toList ≠ "globals".toList := fun he => hglobals (String.toList_inj.mp he)
  have hclass : slug = lower name → Anchor.servedName slug = (lower name).toList := by
    rintro rfl
    exact servedName_stem (List.append_nil _).symm hname.lower rfl hne
  cases h with
  | ofClass h => exact hclass h
  | ofSymbol h =>
      cases hc : isCapitalized name with
      | true => exact hclass (h.trans (ofSymbol_capitalized hname hc))
      | false =>
          subst h
          have hlist := toList_ofSymbol_plain hname hc
          have hmark : globalsMark.toList <+: (Anchor.ofSymbol name).toList :=
            ⟨_, hlist.symm⟩
          rw [Anchor.servedName, if_pos hmark, hlist]
          rfl
  | ofMember mark rest hm h =>
      apply servedName_stem h hname.lower _ hne
      rcases hm with rfl | rfl <;> rfl

end ApiPages.Anchor
