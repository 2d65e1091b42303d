import ApiPages.Proofs.Document.Texts
import ApiPages.Proofs.Highlight.Spans
import ApiPages.Proofs.Markdown.Mark
import ApiPages.Proofs.Prose.Escape
import ApiPages.Proofs.Prose.Shown
import ApiPages.Prose.Renderer
import Mathlib

namespace ApiPages

open Markdown
open Node (toTexts toTexts_nil toTexts_cons toTexts_append toText_text toText_span)

namespace Highlight

-- The tokens of the code are what is written there.
def KeepsSource (language : Option String) (source : String) : Prop :=
  ∀ known ∈ language.bind Language.ofName?,
    String.join ((known.tokens (normalize source)).map (·.text)) = source

instance (language : Option String) (source : String) : Decidable (KeepsSource language source) :=
  inferInstanceAs (Decidable (∀ known ∈ language.bind Language.ofName?,
    String.join ((known.tokens (normalize source)).map (·.text)) = source))

theorem toTexts_code {mark source : String} {language : Option String}
    (h : KeepsSource language source) : toTexts (code mark source language) = source := by
  rw [code]
  split
  · simp
  · rename_i known hknown
    rw [tokenNodes, (writes_tokenNodesFrom mark "" _).toTexts_eq, h known hknown, String.empty_append]

end Highlight

namespace Prose

-- Nothing in the text stands for anything else.
def IsLiteralText (escaped : Bool) (s : String) : Prop :=
  IsUnmarked rawName s.toList ∧ IsUnmarked [] s.toList ∧ (escaped = true → IsUnescaped s)

variable {escaped written : Bool} {style : Style} {raw : Nat → List Node}

theorem isLiteralText_of_notMem {s : String} (hmark : markOpen ∉ s.toList)
    (hescape : escaped = true → IsUnescaped s) : IsLiteralText escaped s :=
  ⟨isUnmarked_of_notMem hmark, isUnmarked_of_notMem hmark, hescape⟩

theorem IsLiteralText.plainText {s : String} (h : IsLiteralText escaped s) :
    plainText escaped s.toList = s :=
  plainText_eq_self h.2.1 h.2.2

theorem IsLiteralText.textNodes {s : String} (h : IsLiteralText escaped s) :
    textNodes raw escaped s = if s = "" then [] else [.text s] := by
  have hplain := h.plainText
  have hmark := h.1
  rw [Prose.textNodes]
  cases hs : s.toList with
  | nil => rw [pieces, Text.pieces_nil, if_pos (String.toList_eq_nil_iff.mp hs), List.flatMap_nil]
  | cons c cs =>
      have hne : s ≠ "" := fun hempty => by simp [hempty] at hs
      rw [hs] at hplain hmark
      simp only [hmark.pieces_eq, List.flatMap_singleton, hplain, if_neg hne]

theorem IsLiteralText.toTexts_textNodes {s : String} (h : IsLiteralText escaped s) :
    toTexts (Prose.textNodes raw escaped s) = s := by
  rw [h.textNodes]
  split
  · rename_i hempty
    rw [toTexts_nil, hempty]
  · rw [toTexts_cons, toText_text, toTexts_nil, String.append_empty]

mutual

-- Nothing in the texts of the element stands for anything else.
def IsLiteral (written : Bool) : Tree → Prop
  | ⟨tag, _, text, _, children, _⟩ =>
    IsLiteralText (written && tag = "code") text ∧ AreLiteral written children

def AreLiteral (written : Bool) : List Tree → Prop
  | [] => True
  | ⟨tag, attributes, text, final, children, tail⟩ :: rest =>
    IsLiteral written ⟨tag, attributes, text, final, children, tail⟩ ∧ IsLiteralText false tail ∧
      AreLiteral written rest

end

theorem isLiteral_iff {t : Tree} :
    IsLiteral written t ↔
      IsLiteralText (written && t.tag = "code") t.text ∧ AreLiteral written t.children := by
  cases t
  rw [IsLiteral]

theorem areLiteral_cons {t : Tree} {rest : List Tree} :
    AreLiteral written (t :: rest) ↔
      IsLiteral written t ∧ IsLiteralText false t.tail ∧ AreLiteral written rest := by
  cases t
  rw [AreLiteral]

theorem childNodes_cons (t : Tree) (rest : List Tree) :
    childNodes style raw written (t :: rest) =
      treeNodes style raw written t ++ textNodes raw false t.tail ++
        childNodes style raw written rest := by
  cases t
  rw [childNodes]

theorem rawParagraph?_eq_none {t : Tree} (h : IsUnmarked rawName t.text.toList) :
    rawParagraph? t = none := by
  rw [rawParagraph?, (h.inside (Text.trim_isInfix _)).marked?]
  split <;> rfl

-- An element that is no paragraph of a raw piece is a code block, or is shown as it is.
theorem treeNodes_eq {t : Tree} (h : rawParagraph? t = none) :
    treeNodes style raw written t = match t.code? with
      | some code => [codeBlock style written t code]
      | none => [.element { tag := t.tag, properties := properties t.attributes,
                            children := contentNodes style raw written t }] := by
  obtain ⟨tag, attributes, text, final, children, tail⟩ := t
  rw [treeNodes, h, Tree.code?]
  by_cases hpre : tag = "pre"
  · simp only [contentNodes, hpre, reduceIte, String.reduceEq, decide_false, Bool.and_false]
    rcases children with _ | ⟨code, _ | ⟨next, rest⟩⟩
    · rfl
    · by_cases hcode : code.tag = "code"
      · simp only [if_pos hcode]
      · simp only [if_neg hcode]
    · rfl
  · simp only [contentNodes, hpre, reduceIte]

theorem toTexts_codeBlock {block code : Tree} (htext : IsLiteralText written code.text)
    (hlexer : Highlight.KeepsSource (language? code) code.text) :
    toTexts [codeBlock style written block code] = code.text := by
  rw [codeBlock, htext.plainText]
  simp only [toTexts_cons, Node.toText, Highlight.toTexts_code hlexer, toTexts_nil,
    String.append_empty]

theorem toTexts_childNodes {ts : List Tree} (hliteral : AreLiteral written ts)
    (h : ∀ t ∈ ts, IsLiteral written t → toTexts (treeNodes style raw written t) = t.shownText) :
    toTexts (childNodes style raw written ts) = Tree.shownTexts ts := by
  induction ts with
  | nil => rw [childNodes, Tree.shownTexts, toTexts_nil]
  | cons t rest ih =>
      rw [areLiteral_cons] at hliteral
      rw [List.forall_mem_cons] at h
      obtain ⟨ht, htail, hrest⟩ := hliteral
      rw [childNodes_cons, toTexts_append, toTexts_append, h.1 ht, htail.toTexts_textNodes,
        ih hrest h.2, Tree.shownTexts_cons]

theorem toTexts_treeNodes {t : Tree} (hliteral : IsLiteral written t)
    (hlexer : ∀ block ∈ t.codeBlocks,
      Highlight.KeepsSource (language? block.2) block.2.text) :
    toTexts (treeNodes style raw written t) = t.shownText := by
  induction t using Tree.induction with
  | h t ih =>
      obtain ⟨htext, hchildren⟩ := isLiteral_iff.mp hliteral
      rw [treeNodes_eq (rawParagraph?_eq_none htext.1), Tree.shownText_eq]
      rw [Tree.codeBlocks_eq] at hlexer
      cases hcode : t.code? with
      | some code =>
          obtain ⟨-, honly, htag⟩ := Tree.of_code? hcode
          rw [honly, areLiteral_cons, isLiteral_iff, htag] at hchildren
          simp only [hcode, List.mem_singleton, forall_eq] at hlexer
          exact toTexts_codeBlock (by simpa using hchildren.1.1) hlexer
      | none =>
          simp only [hcode] at hlexer
          simp only [toTexts_cons, Node.toText, toTexts_nil, String.append_empty]
          rw [contentNodes, toTexts_append, htext.toTexts_textNodes, toTexts_childNodes hchildren]
          intro child hchild hliteral
          exact ih child hchild hliteral
            fun block hblock => hlexer block (List.mem_flatMap_of_mem hchild hblock)

-- The nodes for an element say what is shown of it, and that is all of its text if and only if no
-- code block hides any.
theorem treeNodes_text {t : Tree} (hliteral : IsLiteral written t)
    (hlexer : ∀ block ∈ t.codeBlocks,
      Highlight.KeepsSource (language? block.2) block.2.text) :
    toTexts (treeNodes style raw written t) = t.shownText ∧
      (toTexts (treeNodes style raw written t) = t.innerText ↔
        ∀ block ∈ t.codeBlocks, Tree.IsWhole block) := by
  rw [toTexts_treeNodes hliteral hlexer]
  exact ⟨rfl, Tree.shownText_eq_innerText_iff⟩

-- A paragraph and a code block after it.
def usage : Tree where
  tag := "div"
  children :=
    [{ tag := "p", text := "Call ", tail := "\n",
       children := [{ tag := "code", text := "open()", tail := " first." }] },
     { tag := "pre",
       children := [{ tag := "code", attributes := [("class", "language-json")],
                      text := "[\"open\", true]" }] }]

theorem treeNodes_text_usage :
    IsLiteral true usage ∧
      (∀ block ∈ usage.codeBlocks, Highlight.KeepsSource (language? block.2) block.2.text) ∧
      toTexts (treeNodes { read := Markdown.read {}, classMark := "code-block_" } (fun _ => []) true
        usage) =
        "Call open() first.\n[\"open\", true]" := by
  have hplain : ∀ s ∈ ["", "\n", "Call ", "open()", " first.", "[\"open\", true]"],
      ∀ escaped, IsLiteralText escaped s := by
    intro s hs escaped
    exact isLiteralText_of_notMem (by decide +revert) fun _ => by decide +revert
  have hliteral : IsLiteral true usage := by
    simp [usage, isLiteral_iff, AreLiteral, hplain]
  have hlexer : ∀ block ∈ usage.codeBlocks,
      Highlight.KeepsSource (language? block.2) block.2.text := by
    decide +kernel
  refine ⟨hliteral, hlexer, ?_⟩
  rw [(treeNodes_text hliteral hlexer).1]
  decide +kernel

-- A code block of raw HTML with markup in its code.
def markedUp : Tree where
  tag := "pre"
  children := [{ tag := "code", text := "let ", children := [{ tag := "b", text := "a" }] }]

set_option maxRecDepth 2000 in
-- Of markup in the code of raw HTML nothing is shown.
theorem treeNodes_dropsMarkup :
    Xml.readFragment? "<pre><code>let <b>a</b></code></pre>" =
        some { tag := "div", children := [markedUp] } ∧
      IsLiteral false markedUp ∧
      (∀ block ∈ markedUp.codeBlocks, Highlight.KeepsSource (language? block.2) block.2.text) ∧
      markedUp.innerText = "let a" ∧
      toTexts (treeNodes { read := Markdown.read {}, classMark := "code-block_" } (fun _ => []) false
        markedUp) = "let " := by
  have hplain : ∀ s ∈ ["", "let ", "a"], IsLiteralText false s := by
    intro s hs
    exact isLiteralText_of_notMem (by decide +revert) nofun
  have hliteral : IsLiteral false markedUp := by
    simp [markedUp, isLiteral_iff, AreLiteral, hplain]
  exact ⟨by cbv, hliteral, by decide +kernel, by decide +kernel, by decide +kernel⟩

end Prose

end ApiPages
