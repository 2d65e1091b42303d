import ApiPages.Anchor
import ApiPages.Proofs.Text.Case

namespace ApiPages.Anchor

open Text

variable {value name : String} {c : Char} {cs : List Char} {inRun : Bool}

theorem trim_eq_self (h : ∀ c ∈ cs, isBlank c = false) : trim cs = cs := by
  have hdrop : ∀ ds : List Char, (∀ c ∈ ds, isBlank c = false) → ds.dropWhile isBlank = ds := by
    intro ds hds
    cases ds with
    | nil => rfl
    | cons d ds => rw [List.dropWhile_cons, hds d List.mem_cons_self]; rfl
  have hreverse := hdrop cs.reverse fun c hc => h c (List.mem_reverse.mp hc)
  rw [trim, trimWhile, dropEndWhile, hdrop cs h, hreverse, List.reverse_reverse]

theorem hyphenate_eq_self (h : ∀ c ∈ cs, isBlank c = false) (inRun : Bool) :
    hyphenate inRun cs = cs := by
  induction cs generalizing inRun with
  | nil => rfl
  | cons c cs ih =>
      have hrest := ih (fun d hd => h d (List.mem_cons_of_mem _ hd)) false
      simp only [hyphenate, h c List.mem_cons_self, Bool.false_eq_true, ite_false, hrest]

theorem mem_hyphenate (h : c ∈ hyphenate inRun cs) : isBlank c = false ∧ (c = '-' ∨ c ∈ cs) := by
  have hhyphen : isBlank '-' = false := by decide
  induction cs generalizing inRun with
  | nil => cases h
  | cons d cs ih =>
      by_cases hd : isBlank d = true
      · rw [hyphenate, if_pos hd] at h
        have hrest : c = '-' ∨ c ∈ hyphenate true cs := by
          split at h
          · exact .inr h
          · exact List.mem_cons.mp h
        rcases hrest with rfl | hrest
        · exact ⟨hhyphen, .inl rfl⟩
        · exact (ih hrest).imp_right (.imp_right (List.mem_cons_of_mem d))
      · rw [hyphenate, if_neg hd] at h
        rcases List.mem_cons.mp h with rfl | hrest
        · exact ⟨by simpa using hd, .inr List.mem_cons_self⟩
        · exact (ih hrest).imp_right (.imp_right (List.mem_cons_of_mem d))

theorem isSlugChar_iff : isSlugChar c = true ↔ isWord c = true ∨ c ∈ ['.', '$', '~', '-'] := by
  simp only [isSlugChar, Bool.or_eq_true, beq_iff_eq, or_assoc, List.mem_cons, List.not_mem_nil,
    or_false]

-- Where there are neither blanks nor other punctuation, only the case changes.
theorem slugify_eq_lower_of_kept (hblank : ∀ c ∈ value.toList, isBlank c = false)
    (hkept : ∀ c ∈ (lower value).toList, isSlugChar c = true) : slugify value = lower value := by
  have htrim : trimmed value = value := by
    rw [trimmed, trim_eq_self hblank, String.ofList_toList]
  have hlowered : ∀ c ∈ (lower value).toList, isBlank c = false :=
    fun c hc => notMem_lower_blank hblank hc
  simp only [slugify, htrim, hyphenate_eq_self hlowered, List.filter_eq_self.mpr hkept,
    String.ofList_toList]

-- A character that nothing is done about any more.
structure IsSettled (c : Char) : Prop where
  kept : isSlugChar c = true
  notBlank : isBlank c = false
  lowered : lowerChar c = [c]

theorem slugify_eq_self (h : ∀ c ∈ value.toList, IsSettled c) : slugify value = value := by
  have hlower : lower value = value := lower_eq_self fun c hc => (h c hc).lowered
  have hslug := slugify_eq_lower_of_kept (fun c hc => (h c hc).notBlank)
    (hlower.symm ▸ fun c hc => (h c hc).kept)
  exact hslug.trans hlower

theorem isSettled_of_mem_slugify (h : c ∈ (slugify value).toList) : IsSettled c := by
  rw [slugify, String.toList_ofList, List.mem_filter] at h
  obtain ⟨hblank, hfrom⟩ := mem_hyphenate h.1
  refine ⟨h.2, hblank, ?_⟩
  rcases hfrom with rfl | hlower
  · decide
  · exact lowerChar_of_mem_lower hlower

theorem slugify_slugify (value : String) : slugify (slugify value) = slugify value :=
  slugify_eq_self fun _ => isSettled_of_mem_slugify

theorem toList_ofPage (title : String) :
    (ofPage title).toList =
      lowerFrom [] (title.toList.map fun c => if isBlank c then '-' else c) := by
  rw [ofPage, lower, String.toList_ofList, String.toList_ofList]

theorem isBlank_of_mem_ofPage {title : String} (h : c ∈ (ofPage title).toList) :
    isBlank c = false := by
  refine notMem_lower_blank (fun d hd => ?_) h
  rw [String.toList_ofList] at hd
  obtain ⟨e, -, rfl⟩ := List.mem_map.mp hd
  split
  · decide
  · rename_i he
    simpa using he

theorem ofPage_ofPage (title : String) : ofPage (ofPage title) = ofPage title := by
  have hmap : (ofPage title).toList.map (fun c => if isBlank c then '-' else c) =
      (ofPage title).toList := by
    refine List.map_congr_left (fun c hc => ?_) |>.trans (List.map_id _)
    rw [isBlank_of_mem_ofPage hc, if_neg Bool.false_ne_true, id_eq]
  rw [ofPage, hmap, String.ofList_toList]
  exact lower_lower _

theorem replaceFirst_of_notMem {old new : Char} (h : old ∉ cs) : replaceFirst old new cs = cs := by
  induction cs with
  | nil => rfl
  | cons c rest ih =>
      rw [List.mem_cons, not_or] at h
      rw [replaceFirst, if_neg fun heq => h.1 heq.symm, ih h.2]

-- ASCII letters and digits, and the punctuation that slugs keep.
def isAnchorChar (c : Char) : Bool :=
  c.isAlphanum || c == '_' || c == '$' || c == '.' || c == '~' || c == '-'

def IsAnchorName (name : String) : Prop := ∀ c ∈ name.toList, isAnchorChar c = true

instance (name : String) : Decidable (IsAnchorName name) :=
  decidable_of_iff (name.toList.all isAnchorChar = true) List.all_eq_true

theorem isAnchorChar_ascii (h : isAnchorChar c = true) : c.val < 128 := by
  simp only [isAnchorChar, Bool.or_eq_true, beq_iff_eq] at h
  rcases h with ((((h | rfl) | rfl) | rfl) | rfl) | rfl
  · simp only [Char.isAlphanum, Char.isAlpha, Char.isUpper, Char.isLower, Char.isDigit,
      Bool.or_eq_true, Bool.and_eq_true, decide_eq_true_eq, ge_iff_le, UInt32.le_iff_toNat_le] at h
    have hZ : 'Z'.val.toNat = 90 := rfl
    have hz : 'z'.val.toNat = 122 := rfl
    have h9 : '9'.val.toNat = 57 := rfl
    rw [UInt32.lt_iff_toNat_lt]
    change c.val.toNat < 128
    omega
  all_goals decide

theorem isAnchorChar_kept (h : isAnchorChar c = true) :
    isBlank c = false ∧ isSlugChar c.toLower = true ∧ c.toLower ≠ '#' :=
  forall_ascii (p := fun c => isAnchorChar c = true →
      isBlank c = false ∧ isSlugChar c.toLower = true ∧ c.toLower ≠ '#')
    (by decide +kernel) c (isAnchorChar_ascii h) h

theorem isAnchorName_globalsMark : IsAnchorName globalsMark := by decide

theorem IsAnchorName.append {first : String} (hfirst : IsAnchorName first) (h : IsAnchorName name) :
    IsAnchorName (first ++ name) := by
  intro c hc
  rw [String.toList_append] at hc
  exact (List.mem_append.mp hc).elim (hfirst c) (h c)

section Names

variable (h : IsAnchorName name)
include h

theorem IsAnchorName.toList_lower : (lower name).toList = name.toList.map Char.toLower :=
  Text.toList_lower fun c hc => isAnchorChar_ascii (h c hc)

theorem IsAnchorName.slugify_eq_lower : slugify name = lower name := by
  refine slugify_eq_lower_of_kept (fun c hc => (isAnchorChar_kept (h c hc)).1) fun c hc => ?_
  rw [h.toList_lower] at hc
  obtain ⟨d, hd, rfl⟩ := List.mem_map.mp hc
  exact (isAnchorChar_kept (h d hd)).2.1

theorem IsAnchorName.lower_globals : lower (globalsMark ++ name) = globalsMark ++ lower name := by
  apply String.toList_injective
  rw [(isAnchorName_globalsMark.append h).toList_lower, String.toList_append, String.toList_append,
    List.map_append, h.toList_lower]
  rfl

theorem IsAnchorName.ofSymbol_eq :
    ofSymbol name = if isCapitalized name then lower name else globalsMark ++ lower name := by
  unfold ofSymbol qualified
  split
  · exact h.slugify_eq_lower
  · rw [(isAnchorName_globalsMark.append h).slugify_eq_lower, h.lower_globals]

-- There is no mark of a member to replace.
theorem IsAnchorName.ofMention_eq :
    ofMention name = if isCapitalized name then lower name else globalsMark ++ lower name := by
  have hmark : '#' ∉ (lower name).toList := by
    intro hm
    rw [h.toList_lower] at hm
    obtain ⟨c, hc, heq⟩ := List.mem_map.mp hm
    exact (isAnchorChar_kept (h c hc)).2.2 heq
  rw [ofMention, replaceFirst_of_notMem hmark, String.ofList_toList]

end Names

theorem ne_globalsMark_append (s : String) : s ≠ globalsMark ++ s := by
  intro heq
  have hlength := congrArg String.length heq
  have hmark : globalsMark.length = 8 := by decide
  rw [String.length_append] at hlength
  omega

theorem slugify_ofPage_final (value : String) :
    (∀ c ∈ (slugify value).toList, (isWord c = true ∨ c ∈ ['.', '$', '~', '-']) ∧
      isBlank c = false ∧ ¬ ('A' ≤ c ∧ c ≤ 'Z')) ∧
    slugify (slugify value) = slugify value ∧
    (∀ c ∈ (ofPage value).toList, isBlank c = false) ∧
    ofPage (ofPage value) = ofPage value ∧
    (IsAnchorName value →
      slugify value = lower value ∧ ofSymbol value = ofMention value ∧
      ofSymbol value = (if isCapitalized value then lower value else globalsMark ++ lower value) ∧
      (ofSymbol value = globalsMark ++ lower value ↔ isCapitalized value = false)) := by
  refine ⟨fun c hc => ?_, slugify_slugify value, fun c hc => isBlank_of_mem_ofPage hc,
    ofPage_ofPage value, fun h => ⟨h.slugify_eq_lower, ?_, h.ofSymbol_eq, ?_⟩⟩
  · have hsettled := isSettled_of_mem_slugify hc
    exact ⟨isSlugChar_iff.mp hsettled.kept, hsettled.notBlank,
      notCapital_of_lowerChar hsettled.lowered⟩
  · rw [h.ofSymbol_eq, h.ofMention_eq]
  · rw [h.ofSymbol_eq]
    cases isCapitalized value with
    | true => simpa using ne_globalsMark_append (lower value)
    | false => simp

theorem slugify_ofPage_final_names :
    (IsAnchorName "Client.$read~2-x" ∧ ofSymbol "Client.$read~2-x" = "client.$read~2-x") ∧
      IsAnchorName "readFile_2" ∧ ofSymbol "readFile_2" = "globals-readfile_2" := by
  have hclient : IsAnchorName "Client.$read~2-x" := by decide
  have hread : IsAnchorName "readFile_2" := by decide
  obtain ⟨-, -, -, -, hnames⟩ := slugify_ofPage_final "Client.$read~2-x"
  obtain ⟨-, -, hclass, -⟩ := hnames hclient
  obtain ⟨-, -, -, -, hnames⟩ := slugify_ofPage_final "readFile_2"
  obtain ⟨-, -, -, hglobal⟩ := hnames hread
  exact ⟨⟨hclient, hclass.trans (by decide +kernel)⟩, hread,
    (hglobal.mpr (by decide)).trans (by decide +kernel)⟩

end ApiPages.Anchor
