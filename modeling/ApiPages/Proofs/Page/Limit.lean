import ApiPages.Page.Base
import ApiPages.Proofs.Page.Expansion
import ApiPages.Proofs.Page.Symbols

namespace ApiPages

-- A second computation does as the first one does, unless the first one has run out of look-ups.
def Refines {α : Type} (x y : Except Fault α) : Prop := x = .error .tooDeep ∨ x = y

theorem isCongruence_refines : IsCongruence fun _ x y => Refines x y where
  ok _ := .inr rfl
  input _ := .inr rfl
  bind := by
    rintro α β x y f g (rfl | rfl) h
    · exact .inl rfl
    · cases x with
      | error fault => exact .inr rfl
      | ok a => exact h a rfl

-- Look-ups in an index that knows some numbers, through at most so many of them.
structure IsLimited {α : Type} (F : Nat → String → SymbolId → Except Fault α)
    (known : Finset Int) : Prop where
  -- What one more look-up does follows from what those behind it do.
  next : ∀ n m, F n = F m → F (n + 1) = F (m + 1)
  refines : ∀ n name id, Refines (F n name id) (F (n + 1) name id)
  unknown : ∀ n name id, id.value ∉ known → F (n + 1) name id = F 1 name id
  -- The name in a reference has no part in how many look-ups there are.
  anyName : ∀ n name other id id', id.value = id'.value → F n name id = .error .tooDeep →
    F n other id' = .error .tooDeep

namespace IsLimited

variable {α : Type} {F : Nat → String → SymbolId → Except Fault α} {known : Finset Int}

open scoped Classical in
-- The numbers behind which there are more look-ups than a limit allows.
noncomputable def deep (F : Nat → String → SymbolId → Except Fault α) (known : Finset Int) (n : Nat) :
    Finset Int :=
  known.filter fun value => F n "" (.number value) = .error .tooDeep

theorem mem_deep {n : Nat} {value : Int} :
    value ∈ deep F known n ↔ value ∈ known ∧ F n "" (.number value) = .error .tooDeep := by
  classical
  rw [deep, Finset.mem_filter]

theorem deep_succ_subset (h : IsLimited F known) (n : Nat) :
    deep F known (n + 1) ⊆ deep F known n := by
  intro value hvalue
  rw [mem_deep] at hvalue ⊢
  refine ⟨hvalue.1, ?_⟩
  rcases h.refines n "" (.number value) with hdeep | hsame
  · exact hdeep
  · rw [hsame, hvalue.2]

-- When one more look-up helps nowhere, none does.
theorem eq_of_deep_eq (h : IsLimited F known) {n : Nat}
    (heq : deep F known (n + 2) = deep F known (n + 1)) : F (n + 2) = F (n + 1) := by
  funext name id
  rcases h.refines (n + 1) name id with hdeep | hsame
  · by_cases hid : id.value ∈ known
    · have hm : id.value ∈ deep F known (n + 1) :=
        mem_deep.mpr ⟨hid, h.anyName _ _ _ id (.number id.value) rfl hdeep⟩
      rw [← heq] at hm
      rw [hdeep, h.anyName _ _ _ (.number id.value) id rfl (mem_deep.mp hm).2]
    · exact (h.unknown (n + 1) _ _ hid).trans (h.unknown n _ _ hid).symm
  · exact hsame.symm

theorem eq_of_next_eq (h : IsLimited F known) {n : Nat} (heq : F (n + 1) = F n) {m : Nat}
    (hm : n ≤ m) : F m = F n := by
  induction m, hm using Nat.le_induction with
  | base => rfl
  | succ m _ ih => rw [h.next m n ih, heq]

theorem refines_of_le (h : IsLimited F known) {n m : Nat} (hm : n ≤ m) (name : String)
    (id : SymbolId) : Refines (F n name id) (F m name id) := by
  induction m, hm using Nat.le_induction with
  | base => exact .inr rfl
  | succ m _ ih =>
      rcases ih with hdeep | hsame
      · exact .inl hdeep
      · rw [hsame]
        exact h.refines m name id

-- Each limit either is one beyond which nothing changes or has fewer numbers left than the last one.
theorem next_eq_or_card_le (h : IsLimited F known) (n : Nat) :
    F (n + 2) = F (n + 1) ∨ (deep F known (n + 1)).card + n ≤ known.card := by
  induction n with
  | zero =>
      refine .inr (Finset.card_le_card fun value hvalue => (mem_deep.mp hvalue).1)
  | succ n ih =>
      rcases ih with heq | hcard
      · exact .inl (h.next _ _ heq)
      · by_cases heq : deep F known (n + 2) = deep F known (n + 1)
        · exact .inl (h.next _ _ (h.eq_of_deep_eq heq))
        · have hlt := Finset.card_lt_card ((h.deep_succ_subset (n + 1)).ssubset_of_ne heq)
          exact .inr (by omega)

theorem eq_of_card_lt (h : IsLimited F known) {n m : Nat} (hn : known.card < n)
    (hm : known.card < m) : F n = F m := by
  have hstable : F (known.card + 2) = F (known.card + 1) := by
    rcases h.next_eq_or_card_le known.card with heq | hcard
    · exact heq
    · have hnone : deep F known (known.card + 1) = ∅ := Finset.card_eq_zero.mp (by omega)
      have hsub := h.deep_succ_subset (known.card + 1)
      rw [hnone, Finset.subset_empty] at hsub
      exact h.eq_of_deep_eq (hsub.trans hnone.symm)
  rw [h.eq_of_next_eq hstable hn, h.eq_of_next_eq hstable hm]

end IsLimited

namespace Context

variable {ctx : Context}

theorem lookup?_of_notMem_known {id : SymbolId} (h : id.value ∉ ctx.known) :
    ctx.symbols.lookup? id = none := by
  rw [← Option.not_isSome_iff_eq_none]
  exact fun hsome => h (mem_known hsome)

theorem refines_expandSymbol (depth : Nat) (name : String) (id : SymbolId) :
    Refines (ctx.expandSymbol depth name id) (ctx.expandSymbol (depth + 1) name id) := by
  induction depth generalizing name id with
  | zero => exact .inl rfl
  | succ depth ih =>
      have halike : Alike (fun _ x y => Refines x y) ctx ctx (ctx.expandSymbol depth)
          (ctx.expandSymbol (depth + 1)) fun _ => True :=
        ⟨fun _ _ _ _ => trivial, fun _ _ => .inr rfl, fun r id _ _ _ _ => ih r.name id⟩
      rw [expandSymbol, expandSymbol]
      cases ctx.symbols.lookup? id with
      | none => exact .inr rfl
      | some d =>
          cases htype : d.type with
          | none => simp only [htype]; exact .inr rfl
          | some type =>
              simp only [htype]
              exact halike.partNodes isCongruence_refines (.type type) trivial

theorem isLimited_expandSymbol : IsLimited ctx.expandSymbol ctx.known where
  next n m h := by
    funext name id
    rw [expandSymbol, expandSymbol, h]
  refines := refines_expandSymbol
  unknown n name id h := by simp only [expandSymbol, lookup?_of_notMem_known h]
  anyName n name other id id' hid h := by
    cases n with
    | zero => rfl
    | succ n =>
        rw [expandSymbol, ctx.symbols.lookup?_eq_of_value hid] at h
        rw [expandSymbol]
        cases hlookup : ctx.symbols.lookup? id' with
        | none => simp [hlookup] at h
        | some d => cases htype : d.type <;> simp_all

theorem expandSymbol_eq_expand {depth : Nat} (h : ctx.symbols.length < depth) :
    ctx.expandSymbol depth = ctx.expand :=
  isLimited_expandSymbol.eq_of_card_lt (card_known_le.trans_lt h)
    (card_known_le.trans_lt (Nat.lt_succ_self _))

end Context

end ApiPages
