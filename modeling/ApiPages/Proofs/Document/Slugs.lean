import ApiPages.Proofs.Highlight.Spans
import ApiPages.Prose.Renderer

namespace ApiPages

namespace Node

mutual

def slugs : Node → List String
  | .text _ => []
  | .element ⟨_, _, children, slug, _, _, _⟩ => slug.toList ++ slugsIn children

-- The anchors of the nodes and of everything in them.
def slugsIn : List Node → List String
  | [] => []
  | node :: rest => node.slugs ++ slugsIn rest

end

@[simp] theorem slugs_text (s : String) : (Node.text s).slugs = [] := rfl

@[simp] theorem slugs_element (e : Element) :
    (Node.element e).slugs = e.slug.toList ++ slugsIn e.children := by
  cases e
  rw [slugs]

@[simp] theorem slugsIn_nil : slugsIn [] = [] := rfl

@[simp] theorem slugsIn_cons (node : Node) (rest : List Node) :
    slugsIn (node :: rest) = node.slugs ++ slugsIn rest := rfl

@[simp] theorem slugsIn_append (nodes others : List Node) :
    slugsIn (nodes ++ others) = slugsIn nodes ++ slugsIn others := by
  induction nodes with
  | nil => rfl
  | cons node rest ih => simp [ih]

@[simp] theorem slugs_tag (name : String) (children : List Node) :
    (Node.tag name children).slugs = slugsIn children := rfl

@[simp] theorem slugs_span (children : List Node) (className : String) :
    (Node.span children className).slugs = slugsIn children := rfl

@[simp] theorem slugs_link (href label : String) : (Node.link href label).slugs = [] := rfl

@[simp] theorem slugs_bareCode (children : List Node) :
    (Node.bareCode children).slugs = slugsIn children := rfl

theorem slugsIn_eq_nil_iff {nodes : List Node} :
    slugsIn nodes = [] ↔ ∀ node ∈ nodes, node.slugs = [] := by
  induction nodes with
  | nil => simp
  | cons node rest ih => simp [ih]

theorem slugsIn_flatMap_eq_nil {α : Type} {items : List α} {f : α → List Node}
    (h : ∀ a ∈ items, slugsIn (f a) = []) : slugsIn (items.flatMap f) = [] := by
  induction items with
  | nil => rfl
  | cons a rest ih =>
      rw [List.flatMap_cons, slugsIn_append, h a List.mem_cons_self,
        ih fun b hb => h b (List.mem_cons_of_mem _ hb)]
      rfl

theorem slugsIn_firstBlockChildren {nodes : List Node} (h : slugsIn nodes = []) :
    slugsIn (firstBlockChildren nodes) = [] := by
  induction nodes with
  | nil => rfl
  | cons node rest ih =>
      rw [slugsIn_cons, List.append_eq_nil_iff] at h
      cases node with
      | text s => exact ih h.2
      | element e =>
          rw [slugs_element, List.append_eq_nil_iff] at h
          exact h.1.2

end Node

open Node

namespace Highlight

theorem slugsIn_pendingNodes (pending : String) : slugsIn (pendingNodes pending) = [] := by
  unfold pendingNodes
  split <;> rfl

theorem Writes.slugsIn_eq_nil {mark pending : String} {tokens : List Token} {nodes : List Node}
    (h : Writes mark pending tokens nodes) : slugsIn nodes = [] := by
  induction h with
  | done pending => exact slugsIn_pendingNodes pending
  | empty _ _ ih => exact ih
  | text _ _ _ ih => exact ih
  | span _ _ _ ih => rw [slugsIn_append, slugsIn_pendingNodes, slugsIn_cons, ih]; rfl

theorem slugsIn_code (mark source : String) (language : Option String) :
    slugsIn (code mark source language) = [] := by
  unfold code
  split
  · rfl
  · exact (writes_tokenNodesFrom mark "" _).slugsIn_eq_nil

end Highlight

namespace Prose

variable {style : Style} {raw : Nat → List Node}

theorem slugsIn_textNodes (hraw : ∀ index, slugsIn (raw index) = []) (escaped : Bool)
    (s : String) : slugsIn (textNodes raw escaped s) = [] := by
  apply slugsIn_flatMap_eq_nil
  intro piece _
  cases piece with
  | gap text => rfl
  | token index => exact hraw index

theorem slugs_codeBlock (style : Style) (written : Bool) (block code : Tree) :
    (codeBlock style written block code).slugs = [] := by
  simp [codeBlock, Highlight.slugsIn_code]

mutual

theorem slugsIn_treeNodes (hraw : ∀ index, slugsIn (raw index) = []) (written : Bool) :
    (t : Tree) → slugsIn (treeNodes style raw written t) = []
  | ⟨tag, attributes, inner, final, children, tail⟩ => by
      have hchildren := slugsIn_childNodes hraw written children
      rw [treeNodes]
      split
      · exact hraw _
      · split
        · split
          · simp [slugs_codeBlock]
          · simp [slugsIn_textNodes hraw, hchildren]
        · simp [slugsIn_textNodes hraw, hchildren]

theorem slugsIn_childNodes (hraw : ∀ index, slugsIn (raw index) = []) (written : Bool) :
    (children : List Tree) → slugsIn (childNodes style raw written children) = []
  | [] => by
      rw [childNodes]
      rfl
  | ⟨tag, attributes, inner, final, children, tail⟩ :: rest => by
      have ht := slugsIn_treeNodes hraw written ⟨tag, attributes, inner, final, children, tail⟩
      have hrest := slugsIn_childNodes hraw written rest
      rw [childNodes, slugsIn_append, slugsIn_append, ht, slugsIn_textNodes hraw, hrest]
      rfl

end

theorem slugsIn_contentNodes (style : Style) (hraw : ∀ index, slugsIn (raw index) = [])
    (written : Bool) (t : Tree) : slugsIn (contentNodes style raw written t) = [] := by
  rw [contentNodes, slugsIn_append, slugsIn_textNodes hraw, slugsIn_childNodes hraw]
  rfl

theorem slugsIn_rawNodes (style : Style) (pieces : List String) (index : Nat) :
    slugsIn (rawNodes style pieces index) = [] := by
  unfold rawNodes htmlNodes
  split
  · split
    · exact slugsIn_contentNodes style (fun _ => rfl) false _
    · rfl
  · rfl

theorem slugsIn_render (style : Style) (text : String) : slugsIn (render style text) = [] := by
  unfold render
  split
  · rfl
  · have hnodes := slugsIn_contentNodes style
      (slugsIn_rawNodes style (style.read (linkMentions text)).raw) true
      (style.read (linkMentions text)).root
    rw [slugsIn_eq_nil_iff] at hnodes ⊢
    intro node hm
    exact hnodes node (List.mem_filter.mp hm).1

theorem slugsIn_renderComment (style : Style) (comment : Option Comment) :
    slugsIn (renderComment style comment) = [] := by
  cases comment with
  | none => rfl
  | some comment => exact slugsIn_render style comment.body

end Prose

end ApiPages
