import ApiPages.Page.Order
import Mathlib.Data.List.Sort
import Mathlib.Data.Prod.Lex
import Mathlib.Order.Lex
import Mathlib.Data.List.Lex
import Mathlib.Data.String.Basic

namespace ApiPages

-- A rearrangement by a key: the keys ascend, and items with one key stand as they stood before.
structure Arranged {α κ : Type} [LinearOrder κ] (key : α → κ) (items arranged : List α) : Prop where
  perm : arranged.Perm items
  ascending : arranged.Pairwise fun a b => key a ≤ key b
  stable : ∀ k, (arranged.filter fun a => key a = k) = items.filter fun a => key a = k

-- Sorting by a test that compares keys arranges. Items with one key are in order already, so they
-- are a sublist of the result, and there are no others with that key.
theorem arranged_mergeSort {α κ : Type} [LinearOrder κ] (key : α → κ) (le : α → α → Bool)
    (hle : ∀ a b, le a b = true ↔ key a ≤ key b) (items : List α) :
    Arranged key items (items.mergeSort le) := by
  have htrans : ∀ a b c, le a b = true → le b c = true → le a c = true := by
    intro a b c hab hbc
    exact (hle a c).mpr (((hle a b).mp hab).trans ((hle b c).mp hbc))
  have htotal : ∀ a b, (le a b || le b a) = true := by
    intro a b
    rw [Bool.or_eq_true, hle, hle]
    exact le_total (key a) (key b)
  have hperm : (items.mergeSort le).Perm items := List.mergeSort_perm items le
  refine ⟨hperm, ?_, ?_⟩
  · exact (List.pairwise_mergeSort htrans htotal items).imp fun h => (hle _ _).mp h
  · intro k
    have hsame : (items.filter fun a => key a = k).Pairwise fun a b => le a b = true := by
      apply List.pairwise_of_forall_mem_list
      intro a ha b hb
      have hka : key a = k := by simpa using (List.mem_filter.mp ha).2
      have hkb : key b = k := by simpa using (List.mem_filter.mp hb).2
      exact (hle a b).mpr (by rw [hka, hkb])
    have hsub := (List.sublist_mergeSort htrans htotal hsame List.filter_sublist).filter
      fun a => decide (key a = k)
    rw [List.filter_filter] at hsub
    simp only [Bool.and_self] at hsub
    exact (hsub.eq_of_length (hperm.filter _).length_eq.symm).symm

namespace Declaration

-- What declarations are ordered by on a page.
def nameKey (d : Declaration) : Bool ×ₗ List Nat :=
  toLex (d.isPlainName, d.name.toList.map Char.toNat)

-- Text is ordered by its code points.
theorem codes_strictMono : StrictMono fun s : String => s.toList.map Char.toNat := by
  intro a b hab
  exact List.map_lt (fun _ _ h => h) (String.lt_iff_toList_lt.mp hab)

theorem nameBefore_iff (a b : Declaration) : nameBefore a b = true ↔ a.nameKey ≤ b.nameKey := by
  have hcodes : a.name.toList.map Char.toNat ≤ b.name.toList.map Char.toNat ↔ a.name ≤ b.name :=
    codes_strictMono.le_iff_le
  rw [nameKey, nameKey, Prod.Lex.toLex_le_toLex, nameBefore, flagBefore]
  cases a.isPlainName <;> cases b.isPlainName <;> simp [hcodes]

theorem arranged_sortByName (ds : List Declaration) : Arranged nameKey ds (sortByName ds) :=
  arranged_mergeSort nameKey nameBefore nameBefore_iff ds

-- Members are ordered by whether they are called first.
def memberKey (d : Declaration) : Bool ×ₗ Bool ×ₗ List Nat := toLex (d.isCallable, d.nameKey)

theorem memberBefore_iff (a b : Declaration) :
    memberBefore a b = true ↔ a.memberKey ≤ b.memberKey := by
  have hname := nameBefore_iff a b
  rw [memberKey, memberKey, Prod.Lex.toLex_le_toLex, memberBefore, flagBefore]
  cases a.isCallable <;> cases b.isCallable <;> simp [hname]

theorem arranged_sortMembers (ds : List Declaration) : Arranged memberKey ds (sortMembers ds) :=
  arranged_mergeSort memberKey memberBefore memberBefore_iff ds

end Declaration

end ApiPages
