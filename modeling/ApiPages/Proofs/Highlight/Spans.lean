import ApiPages.Highlight.Token
import ApiPages.Proofs.Document.Texts
import Mathlib.Data.List.Chain
import Mathlib.Data.List.Nodup

namespace ApiPages

-- Whether a node is text.
def Node.isText : Node → Bool
  | .text _ => true
  | .element _ => false

namespace Highlight

open Node (toTexts toTexts_nil toTexts_cons toTexts_append toText_text toText_span)

variable {mark pending name : String} {kind family : TokenKind} {token : Token}
  {tokens rest : List Token} {nodes : List Node}

-- A family of the table that a kind belongs to, such that none of them is more special.
structure IsFamilyOf (family : TokenKind) (name : String) (kind : TokenKind) : Prop where
  listed : (family, name) ∈ classTable
  contains : family <+: kind
  longest : ∀ entry ∈ classTable, entry.1 <+: kind → entry.1.length ≤ family.length

-- Where no family stands before one that it contains, the first one that fits is the longest.
theorem length_le_of_find? {table : List (TokenKind × String)} {entry : TokenKind × String}
    (horder : table.Pairwise fun entry later => ¬ entry.1 <+: later.1)
    (h : (table.find? fun (family, _) => family.isPrefixOf kind) = some entry) :
    ∀ other ∈ table, other.1 <+: kind → other.1.length ≤ entry.1.length := by
  obtain ⟨hfits, before, after, rfl, hbefore⟩ := List.find?_eq_some_iff_append.mp h
  obtain ⟨-, hafter, -⟩ := List.pairwise_append.mp horder
  intro other hother hprefix
  rcases List.mem_append.mp hother with hother | hother
  · have hnone := hbefore other hother
    simp [List.isPrefixOf_iff_prefix.mpr hprefix] at hnone
  · rcases List.mem_cons.mp hother with rfl | hother
    · exact Nat.le_refl _
    · have hapart : ¬ entry.1 <+: other.1 := (List.pairwise_cons.mp hafter).1 other hother
      rcases List.prefix_or_prefix_of_prefix (List.isPrefixOf_iff_prefix.mp hfits) hprefix with
        hlonger | hshorter
      · exact absurd hlonger hapart
      · exact hshorter.length_le

theorem classTable_ordered : classTable.Pairwise fun entry later => ¬ entry.1 <+: later.1 := by
  decide

theorem isFamilyOf_of_find? {entry : TokenKind × String}
    (h : (classTable.find? fun (family, _) => family.isPrefixOf kind) = some entry) :
    IsFamilyOf entry.1 entry.2 kind where
  listed := List.mem_of_find?_eq_some h
  contains := by
    have hfits : entry.1.isPrefixOf kind = true :=
      List.find?_some (p := fun entry : TokenKind × String => entry.1.isPrefixOf kind) h
    exact List.isPrefixOf_iff_prefix.mp hfits
  longest := length_le_of_find? classTable_ordered h

-- A kind has one most special family.
theorem IsFamilyOf.unique {family' : TokenKind} {name' : String} (h : IsFamilyOf family name kind)
    (h' : IsFamilyOf family' name' kind) : family = family' ∧ name = name' := by
  have hle := h'.longest _ h.listed h.contains
  have hge := h.longest _ h'.listed h'.contains
  have hfamily : family = family' :=
    (List.prefix_of_prefix_length_le h.contains h'.contains hle).eq_of_length
      (Nat.le_antisymm hle hge)
  have hdistinct : (classTable.map Prod.fst).Nodup := by decide
  have hentry : (family, name) = (family', name') :=
    List.inj_on_of_nodup_map hdistinct h.listed h'.listed hfamily
  exact ⟨hfamily, (Prod.mk.inj hentry).2⟩

theorem tokenClass?_eq_some_iff :
    tokenClass? kind = some name ↔ ∃ family, IsFamilyOf family name kind := by
  rw [tokenClass?, Option.map_eq_some_iff]
  constructor
  · rintro ⟨entry, hentry, rfl⟩
    exact ⟨entry.1, isFamilyOf_of_find? hentry⟩
  · rintro ⟨family, h⟩
    have hsome : (classTable.find? fun (family, _) => family.isPrefixOf kind).isSome = true := by
      rw [List.find?_isSome]
      exact ⟨_, h.listed, List.isPrefixOf_iff_prefix.mpr h.contains⟩
    obtain ⟨entry, hentry⟩ := Option.isSome_iff_exists.mp hsome
    exact ⟨entry, hentry, ((isFamilyOf_of_find? hentry).unique h).2⟩

theorem tokenClass?_eq_none_iff :
    tokenClass? kind = none ↔ ¬ ∃ entry ∈ classTable, entry.1 <+: kind := by
  simp [tokenClass?, List.isPrefixOf_iff_prefix]

-- The text that is still to be written.
def pendingNodes (pending : String) : List Node := if pending.isEmpty then [] else [.text pending]

-- What each token adds to the nodes: nothing if it is empty, else its text to what is pending or,
-- behind that, a span.
inductive Writes (mark : String) : String → List Token → List Node → Prop
  | done (pending : String) : Writes mark pending [] (pendingNodes pending)
  | empty {pending : String} {token : Token} {rest : List Token} {nodes : List Node}
      (nothing : token.text = "") (others : Writes mark pending rest nodes) :
      Writes mark pending (token :: rest) nodes
  | text {pending : String} {token : Token} {rest : List Token} {nodes : List Node}
      (something : token.text ≠ "") (noClass : tokenClass? token.kind = none)
      (others : Writes mark (pending ++ token.text) rest nodes) :
      Writes mark pending (token :: rest) nodes
  | span {pending name : String} {token : Token} {rest : List Token} {nodes : List Node}
      (something : token.text ≠ "") (named : tokenClass? token.kind = some name)
      (others : Writes mark "" rest nodes) :
      Writes mark pending (token :: rest)
        (pendingNodes pending ++ Node.span [.text token.text] (mark ++ name) :: nodes)

theorem writes_tokenNodesFrom (mark pending : String) (tokens : List Token) :
    Writes mark pending tokens (tokenNodesFrom mark pending tokens) := by
  induction tokens generalizing pending with
  | nil => exact .done pending
  | cons token rest ih =>
      rw [tokenNodesFrom]
      split
      · rename_i hempty
        exact .empty (String.isEmpty_iff.mp hempty) (ih pending)
      · rename_i hsome
        have hne : token.text ≠ "" := fun h => hsome (String.isEmpty_iff.mpr h)
        split
        · rename_i hnone
          exact .text hne hnone (ih _)
        · rename_i name hname
          have hspan : (if pending.isEmpty then [Node.span [.text token.text] (mark ++ name)]
              else [.text pending, Node.span [.text token.text] (mark ++ name)]) ++
                tokenNodesFrom mark "" rest =
              pendingNodes pending ++ Node.span [.text token.text] (mark ++ name) ::
                tokenNodesFrom mark "" rest := by
            unfold pendingNodes
            split <;> rfl
          rw [hspan]
          exact .span hne hname (ih "")

theorem toTexts_pendingNodes (pending : String) : toTexts (pendingNodes pending) = pending := by
  unfold pendingNodes
  split
  · rename_i hempty
    rw [String.isEmpty_iff.mp hempty, toTexts_nil]
  · rw [toTexts_cons, toText_text, toTexts_nil, String.append_empty]

theorem mem_pendingNodes {node : Node} (h : node ∈ pendingNodes pending) :
    node = .text pending ∧ pending ≠ "" := by
  unfold pendingNodes at h
  split at h
  · cases h
  · rename_i hsome
    exact ⟨List.mem_singleton.mp h, fun hempty => hsome (String.isEmpty_iff.mpr hempty)⟩

-- The nodes say what the tokens say, one after the other.
theorem Writes.toTexts_eq (h : Writes mark pending tokens nodes) :
    toTexts nodes = pending ++ String.join (tokens.map (·.text)) := by
  induction h with
  | done pending =>
      rw [toTexts_pendingNodes, List.map_nil, String.join_nil, String.append_empty]
  | empty nothing _ ih => rw [ih, List.map_cons, String.join_cons, nothing, String.empty_append]
  | text _ _ _ ih => rw [ih, List.map_cons, String.join_cons, String.append_assoc]
  | span _ _ _ ih =>
      simp only [toTexts_append, toTexts_pendingNodes, toTexts_cons, toText_span, toText_text,
        toTexts_nil, String.append_empty, ih, String.empty_append, List.map_cons, String.join_cons]

theorem Writes.text_ne (h : Writes mark pending tokens nodes) :
    ∀ s, Node.text s ∈ nodes → s ≠ "" := by
  have hpending : ∀ pending s, Node.text s ∈ pendingNodes pending → s ≠ "" := by
    intro pending s hs
    obtain ⟨hnode, hne⟩ := mem_pendingNodes hs
    cases hnode
    exact hne
  induction h with
  | done pending => exact hpending pending
  | empty _ _ ih => exact ih
  | text _ _ _ ih => exact ih
  | @span pending _ _ _ _ _ _ _ ih =>
      intro s hs
      rcases List.mem_append.mp hs with hs | hs
      · exact hpending pending s hs
      · rcases List.mem_cons.mp hs with hs | hs
        · cases hs
        · exact ih s hs

-- No two texts stand side by side.
def Alternate (node next : Node) : Prop := ¬ (node.isText = true ∧ next.isText = true)

theorem Writes.alternate (h : Writes mark pending tokens nodes) : nodes.IsChain Alternate := by
  have hpending : ∀ pending, (pendingNodes pending).IsChain Alternate := by
    intro pending
    unfold pendingNodes
    split <;> simp
  induction h with
  | done pending => exact hpending pending
  | empty _ _ ih => exact ih
  | text _ _ _ ih => exact ih
  | @span pending name token rest nodes _ _ _ ih =>
      have hspan : (Node.span [.text token.text] (mark ++ name)).isText = false := rfl
      have hafter : (Node.span [.text token.text] (mark ++ name) :: nodes).IsChain Alternate :=
        ih.cons fun next _ => by simp [Alternate, hspan]
      refine (hpending pending).append hafter fun node _ next hnext => ?_
      obtain rfl : Node.span [.text token.text] (mark ++ name) = next := by simpa using hnext
      simp [Alternate, hspan]

-- A span for each token with a class, in order.
def IsSpanOf (mark : String) (token : Token) (node : Node) : Prop :=
  ∃ family name, IsFamilyOf family name token.kind ∧
    node = Node.span [.text token.text] (mark ++ name)

-- Whether a token says something and belongs to a family of the table.
def isClassed (token : Token) : Bool :=
  token.text ≠ "" ∧ ∃ entry ∈ classTable, entry.1 <+: token.kind

theorem Writes.spans (h : Writes mark pending tokens nodes) :
    List.Forall₂ (IsSpanOf mark) (tokens.filter isClassed) (nodes.filter (!·.isText)) := by
  have hpending : ∀ pending, (pendingNodes pending).filter (!·.isText) = [] := by
    intro pending
    unfold pendingNodes
    split <;> rfl
  induction h with
  | done pending =>
      rw [hpending]
      exact .nil
  | empty nothing _ ih => simpa [isClassed, nothing] using ih
  | text something noClass _ ih =>
      have hnone := tokenClass?_eq_none_iff.mp noClass
      simpa [isClassed, hnone] using ih
  | @span pending name token rest nodes something named _ ih =>
      obtain ⟨family, hfamily⟩ := tokenClass?_eq_some_iff.mp named
      have hclassed : isClassed token = true := by
        simpa [isClassed, something] using ⟨family, ⟨name, hfamily.listed⟩, hfamily.contains⟩
      rw [List.filter_cons_of_pos hclassed, List.filter_append, hpending, List.nil_append,
        List.filter_cons_of_pos (by rfl)]
      exact .cons ⟨family, name, hfamily, rfl⟩ ih

-- Highlighting keeps the code, joins what has no class, and marks everything else with the class of
-- its most special family.
theorem tokenNodes_spans (mark : String) (tokens : List Token) :
    toTexts (tokenNodes mark tokens) = String.join (tokens.map (·.text)) ∧
      (∀ s, Node.text s ∈ tokenNodes mark tokens → s ≠ "") ∧
      (tokenNodes mark tokens).IsChain Alternate ∧
      List.Forall₂ (IsSpanOf mark) (tokens.filter isClassed)
        ((tokenNodes mark tokens).filter (!·.isText)) := by
  have h := writes_tokenNodesFrom mark "" tokens
  exact ⟨h.toTexts_eq.trans String.empty_append, h.text_ne, h.alternate, h.spans⟩

end Highlight

end ApiPages
