import ApiPages.Markup.Tree

namespace ApiPages.Tree

-- The code of a code block.
def code? (t : Tree) : Option Tree :=
  match (if t.tag = "pre" then t.children else []) with
  | [code] => if code.tag = "code" then some code else none
  | _ => none

mutual

-- The text of an element as it is shown. Of a code block it is what its code begins with.
def shownText : Tree → String
  | ⟨tag, attributes, text, final, children, tail⟩ =>
    match Tree.code? ⟨tag, attributes, text, final, children, tail⟩ with
    | some code => code.text
    | none => text ++ shownTexts children

def shownTexts : List Tree → String
  | [] => ""
  | ⟨tag, attributes, text, final, children, tail⟩ :: rest =>
    shownText ⟨tag, attributes, text, final, children, tail⟩ ++ tail ++ shownTexts rest

end

mutual

-- The code blocks of an element, each with its code.
def codeBlocks : Tree → List (Tree × Tree)
  | ⟨tag, attributes, text, final, children, tail⟩ =>
    match Tree.code? ⟨tag, attributes, text, final, children, tail⟩ with
    | some code => [(⟨tag, attributes, text, final, children, tail⟩, code)]
    | none => codeBlocksIn children

def codeBlocksIn : List Tree → List (Tree × Tree)
  | [] => []
  | t :: rest => codeBlocks t ++ codeBlocksIn rest

end

mutual

-- What an element has whenever all its children have it, every element has.
theorem induction {holds : Tree → Prop}
    (h : ∀ t : Tree, (∀ child ∈ t.children, holds child) → holds t) : (t : Tree) → holds t
  | ⟨_, _, _, _, children, _⟩ => h _ (inductionIn h children)

theorem inductionIn {holds : Tree → Prop}
    (h : ∀ t : Tree, (∀ child ∈ t.children, holds child) → holds t) :
    (ts : List Tree) → ∀ t ∈ ts, holds t
  | [] => List.forall_mem_nil _
  | t :: rest => List.forall_mem_cons.mpr ⟨induction h t, inductionIn h rest⟩

end

theorem of_code? {t code : Tree} (h : t.code? = some code) :
    t.tag = "pre" ∧ t.children = [code] ∧ code.tag = "code" := by
  unfold code? at h
  by_cases htag : t.tag = "pre"
  · rw [if_pos htag] at h
    split at h
    · rename_i only hchildren
      split at h
      · rename_i hcode
        cases h
        exact ⟨htag, hchildren, hcode⟩
      · cases h
    · cases h
  · rw [if_neg htag] at h
    cases h

theorem shownText_eq (t : Tree) :
    t.shownText = match t.code? with
      | some code => code.text
      | none => t.text ++ shownTexts t.children := by
  cases t
  rw [shownText]

theorem shownTexts_cons (t : Tree) (rest : List Tree) :
    shownTexts (t :: rest) = t.shownText ++ t.tail ++ shownTexts rest := by
  cases t
  rw [shownTexts]

theorem codeBlocksIn_eq (ts : List Tree) : codeBlocksIn ts = ts.flatMap codeBlocks := by
  induction ts with
  | nil => rw [codeBlocksIn, List.flatMap_nil]
  | cons t rest ih => rw [codeBlocksIn, List.flatMap_cons, ih]

theorem codeBlocks_eq (t : Tree) :
    t.codeBlocks = match t.code? with
      | some code => [(t, code)]
      | none => t.children.flatMap codeBlocks := by
  cases t
  rw [codeBlocks, codeBlocksIn_eq]

theorem innerText_eq (t : Tree) : t.innerText = t.text ++ innerTexts t.children := by
  cases t
  rw [innerText]

theorem innerTexts_cons (t : Tree) (rest : List Tree) :
    innerTexts (t :: rest) = t.innerText ++ t.tail ++ innerTexts rest := by
  cases t
  rw [innerTexts]

-- Nothing stands in a code block but the text with which its code begins.
def IsWhole (block : Tree × Tree) : Prop :=
  block.1.text = "" ∧ innerTexts block.2.children = "" ∧ block.2.tail = ""

theorem innerText_of_code? {t code : Tree} (h : t.code? = some code) :
    t.innerText = t.text ++ (code.text ++ innerTexts code.children ++ code.tail) := by
  rw [innerText_eq, (of_code? h).2.1, innerTexts_cons, innerText_eq, innerTexts,
    String.append_empty]

theorem length_shownTexts_le {ts : List Tree}
    (h : ∀ t ∈ ts, t.shownText.length ≤ t.innerText.length) :
    (shownTexts ts).length ≤ (innerTexts ts).length := by
  induction ts with
  | nil => simp only [shownTexts, innerTexts, Nat.le_refl]
  | cons t rest ih =>
      obtain ⟨ht, hrest⟩ := List.forall_mem_cons.mp h
      have hlength := ih hrest
      rw [shownTexts_cons, innerTexts_cons]
      simp only [String.length_append]
      omega

theorem length_shownText_le (t : Tree) : t.shownText.length ≤ t.innerText.length := by
  induction t using Tree.induction with
  | h t ih =>
      rw [shownText_eq]
      cases hcode : t.code? with
      | some code =>
          simp only [innerText_of_code? hcode, String.length_append]
          omega
      | none =>
          have hchildren := length_shownTexts_le ih
          simp only [innerText_eq, String.length_append]
          omega

theorem append_eq_append_iff_of_le {a b c d : String} (hac : a.length ≤ c.length)
    (hbd : b.length ≤ d.length) : a ++ b = c ++ d ↔ a = c ∧ b = d := by
  refine ⟨fun h => ?_, fun h => by rw [h.1, h.2]⟩
  have hlength := congrArg String.length h
  simp only [String.length_append] at hlength
  have hchars : a.toList ++ b.toList = c.toList ++ d.toList := by
    rw [← String.toList_append, h, String.toList_append]
  obtain ⟨hstart, hend⟩ := List.append_inj hchars (by simp only [String.length_toList]; omega)
  exact ⟨String.toList_inj.mp hstart, String.toList_inj.mp hend⟩

-- No text is longer where it is shown, so what one child hides no other one makes up for.
theorem shownTexts_eq_innerTexts_iff {ts : List Tree} :
    shownTexts ts = innerTexts ts ↔ ∀ t ∈ ts, t.shownText = t.innerText := by
  induction ts with
  | nil => simp [shownTexts, innerTexts]
  | cons t rest ih =>
      have ht := t.length_shownText_le
      have hrest : (shownTexts rest).length ≤ (innerTexts rest).length :=
        length_shownTexts_le fun child _ => child.length_shownText_le
      have htail : (t.tail ++ shownTexts rest).length ≤ (t.tail ++ innerTexts rest).length := by
        simp only [String.length_append]
        omega
      rw [List.forall_mem_cons, ← ih, shownTexts_cons, innerTexts_cons, String.append_assoc,
        String.append_assoc, append_eq_append_iff_of_le ht htail, String.append_right_inj]

theorem eq_innerText_of_code?_iff {t code : Tree} (h : t.code? = some code) :
    code.text = t.innerText ↔
      t.text = "" ∧ innerTexts code.children = "" ∧ code.tail = "" := by
  rw [innerText_of_code? h]
  constructor
  · intro hsame
    have hlength := congrArg String.length hsame
    simp only [String.length_append] at hlength
    simp only [← String.length_eq_zero_iff]
    omega
  · rintro ⟨htext, hinner, htail⟩
    simp only [htext, hinner, htail, String.append_empty, String.empty_append]

-- All of the text is shown if and only if no code block hides any.
theorem shownText_eq_innerText_iff {t : Tree} :
    t.shownText = t.innerText ↔ ∀ block ∈ t.codeBlocks, IsWhole block := by
  induction t using Tree.induction with
  | h t ih =>
      rw [shownText_eq, codeBlocks_eq]
      cases hcode : t.code? with
      | some code =>
          simp only [eq_innerText_of_code?_iff hcode, List.mem_singleton, forall_eq, IsWhole]
      | none =>
          rw [innerText_eq]
          simp only [String.append_right_inj, shownTexts_eq_innerTexts_iff, List.mem_flatMap,
            forall_exists_index, and_imp]
          constructor
          · intro h block child hchild
            exact (ih child hchild).mp (h child hchild) block
          · intro h child hchild
            exact (ih child hchild).mpr fun block => h block child hchild

end ApiPages.Tree
