import ApiPages.Anchor
import Mathlib.Data.List.Nodup
import Mathlib.Data.List.Perm.Subperm
import Mathlib.Data.String.Basic
import Mathlib.Order.Bounds.Basic
import Mathlib.Tactic.Tauto

namespace ApiPages.Anchor

variable {slug : String} {seen : List String}

theorem suffixed_injective (slug : String) : Function.Injective (suffixed slug) := by
  intro i j h
  have hr : (Nat.repr i).toList = (Nat.repr j).toList :=
    congrArg String.toList ((String.append_right_inj _).mp h)
  rw [Nat.toList_repr, Nat.toList_repr] at hr
  rw [← Nat.ofDigitChars_ten_toDigits (n := i), hr, Nat.ofDigitChars_ten_toDigits]

-- The search stops at the first number whose anchor is free, or when it has used up its tries.
theorem firstFree_eq (slug : String) (seen : List String) (fuel k : Nat) :
    ∃ n, k ≤ n ∧ firstFree slug seen fuel k = suffixed slug n ∧
      (∀ i, k ≤ i → i < n → suffixed slug i ∈ seen) ∧
      (suffixed slug n ∈ seen → n = k + fuel) := by
  induction fuel generalizing k with
  | zero =>
      refine ⟨k, le_refl k, rfl, ?_, fun _ => rfl⟩
      intro i hk hi
      omega
  | succ fuel ih =>
      rw [firstFree]
      by_cases hm : suffixed slug k ∈ seen
      · obtain ⟨n, hk, he, hs, hf⟩ := ih (k + 1)
        refine ⟨n, by omega, by simpa [hm] using he, ?_, fun h => by have := hf h; omega⟩
        intro i hki hin
        cases Nat.eq_or_lt_of_le hki with
        | inl h => exact h ▸ hm
        | inr h => exact hs i h hin
      · refine ⟨k, le_refl k, by simp [hm], ?_, fun h => absurd h hm⟩
        intro i hki hik
        omega

-- A list does not hold more numbered anchors than it has items.
theorem exists_suffixed_notMem (slug : String) (seen : List String) (k : Nat) :
    ∃ i, k ≤ i ∧ i ≤ k + seen.length ∧ suffixed slug i ∉ seen := by
  by_contra hall
  push Not at hall
  let numbered := (List.range (seen.length + 1)).map fun i => suffixed slug (k + i)
  have hnodup : numbered.Nodup := by
    apply List.nodup_range.map
    intro i j h
    have := suffixed_injective slug h
    omega
  have hsubset : numbered ⊆ seen := by
    intro s hs
    obtain ⟨i, hi, rfl⟩ := List.mem_map.mp hs
    have hlt := List.mem_range.mp hi
    exact hall (k + i) (by omega) (by omega)
  have hlength := (List.subperm_of_subset hnodup hsubset).length_le
  simp only [numbered, List.length_map, List.length_range] at hlength
  omega

theorem unique_notMem (slug : String) (seen : List String) : unique slug seen ∉ seen := by
  unfold unique
  by_cases hm : slug ∈ seen
  · obtain ⟨n, hk, he, hs, hf⟩ := firstFree_eq slug seen seen.length 2
    obtain ⟨i, hki, hi, hfree⟩ := exists_suffixed_notMem slug seen 2
    simp only [List.contains_iff_mem, hm, ite_true, he]
    intro hn
    have hin : i ≠ n := fun h => hfree (h ▸ hn)
    exact hfree (hs i hki (by have := hf hn; omega))
  · simp [hm]

-- A number stands behind a hyphen.
theorem unique_eq (slug : String) (seen : List String) :
    unique slug seen = slug ∨ ∃ n, 2 ≤ n ∧ unique slug seen = suffixed slug n := by
  unfold unique
  by_cases hm : slug ∈ seen
  · obtain ⟨n, hk, he, -, -⟩ := firstFree_eq slug seen seen.length 2
    exact .inr ⟨n, hk, by simpa [hm] using he⟩
  · exact .inl (by simp [hm])

-- What a wish for an anchor is given when some are taken: the anchor itself if it is free, else the
-- free one with the least number from two on.
inductive IsFirstFree (slug : String) (taken : List String) : String → Prop
  | plain (h : slug ∉ taken) : IsFirstFree slug taken slug
  | numbered {n : Nat} (h : slug ∈ taken)
      (hleast : IsLeast {k | 2 ≤ k ∧ suffixed slug k ∉ taken} n) :
      IsFirstFree slug taken (suffixed slug n)

-- The order of what is taken plays no part.
theorem IsFirstFree.of_same {other : List String} {given : String}
    (hsame : ∀ s, s ∈ seen ↔ s ∈ other) (h : IsFirstFree slug seen given) :
    IsFirstFree slug other given := by
  cases h with
  | plain hfree => exact .plain (mt (hsame slug).mpr hfree)
  | numbered htaken hleast =>
      simp only [hsame] at hleast
      exact .numbered ((hsame slug).mp htaken) hleast

theorem unique_isFirstFree (slug : String) (seen : List String) :
    IsFirstFree slug seen (unique slug seen) := by
  by_cases hm : slug ∈ seen
  · obtain ⟨n, hk, he, hs, -⟩ := firstFree_eq slug seen seen.length 2
    have hunique : unique slug seen = suffixed slug n := by simp [unique, hm, he]
    have hfree : suffixed slug n ∉ seen := hunique ▸ unique_notMem slug seen
    rw [hunique]
    refine .numbered hm ⟨⟨hk, hfree⟩, ?_⟩
    rintro i ⟨hi, hother⟩
    by_contra hlt
    exact hother (hs i hi (Nat.lt_of_not_le hlt))
  · have hunique : unique slug seen = slug := by simp [unique, hm]
    rw [hunique]
    exact .plain hm

-- The anchors that wishes are given one after the other, when some are taken at the start.
def assign (seen : List String) : List String → List String
  | [] => []
  | slug :: rest => unique slug seen :: assign (unique slug seen :: seen) rest

theorem notMem_of_mem_assign {slugs : List String} {given : String}
    (h : given ∈ assign seen slugs) : given ∉ seen := by
  induction slugs generalizing seen with
  | nil => cases h
  | cons slug rest ih =>
      cases List.mem_cons.mp h with
      | inl hfirst => exact hfirst ▸ unique_notMem slug seen
      | inr hrest => exact fun hseen => ih hrest (List.mem_cons_of_mem _ hseen)

theorem nodup_assign (seen slugs : List String) : (assign seen slugs).Nodup := by
  induction slugs generalizing seen with
  | nil => exact List.nodup_nil
  | cons slug rest ih =>
      have hfirst : unique slug seen ∉ assign (unique slug seen :: seen) rest := fun h =>
        notMem_of_mem_assign h List.mem_cons_self
      exact (ih _).cons hfirst

theorem assign_nodup (seen slugs : List String) (hseen : seen.Nodup) :
    (assign seen slugs ++ seen).Nodup :=
  (nodup_assign seen slugs).append hseen fun _ hgiven => notMem_of_mem_assign hgiven

theorem assign_append (seen slugs others : List String) :
    assign seen (slugs ++ others) =
      assign seen slugs ++ assign ((assign seen slugs).reverse ++ seen) others := by
  induction slugs generalizing seen with
  | nil => rfl
  | cons slug rest ih => simp [assign, ih]

theorem length_assign (seen slugs : List String) : (assign seen slugs).length = slugs.length := by
  induction slugs generalizing seen with
  | nil => rfl
  | cons slug rest ih => rw [assign, List.length_cons, List.length_cons, ih]

-- Each wish is given the first free anchor beyond those that are taken at the start and those that
-- the wishes in front of it were given.
theorem assign_isFirstFree {slugs : List String} {i : Nat} {wish given : String}
    (hwish : slugs[i]? = some wish) (hgiven : (assign seen slugs)[i]? = some given) :
    IsFirstFree wish ((assign seen slugs).take i ++ seen) given := by
  induction slugs generalizing seen i with
  | nil => simp at hwish
  | cons slug rest ih =>
      rw [assign] at hgiven ⊢
      cases i with
      | zero =>
          simp only [List.getElem?_cons_zero, Option.some.injEq] at hwish hgiven
          rw [← hwish, ← hgiven]
          exact unique_isFirstFree slug seen
      | succ i =>
          rw [List.getElem?_cons_succ] at hwish hgiven
          apply (ih hwish hgiven).of_same
          intro s
          simp only [List.take_succ_cons, List.mem_append, List.mem_cons]
          tauto

-- Anchors in the order in which they are given: one to start with, then each wish is given the first
-- free one beyond those in front of it.
structure AreInTurn (first : String) (wishes slugs : List String) : Prop where
  head : slugs.head? = some first
  length : slugs.length = wishes.length + 1
  nodup : slugs.Nodup
  free : ∀ i wish given, wishes[i]? = some wish → slugs[i + 1]? = some given →
    IsFirstFree wish (slugs.take (i + 1)) given

theorem areInTurn_assign (first : String) (wishes : List String) :
    AreInTurn first wishes (first :: assign [first] wishes) where
  head := rfl
  length := by rw [List.length_cons, length_assign]
  nodup := by
    have h := assign_nodup [first] wishes (List.nodup_singleton first)
    exact (List.perm_append_singleton first _).nodup_iff.mp h
  free := by
    intro i wish given hwish hgiven
    rw [List.getElem?_cons_succ] at hgiven
    apply (assign_isFirstFree hwish hgiven).of_same
    intro s
    simp [or_comm]

-- An assigned anchor is one that was wished for, or such a one with a number.
theorem mem_assign {seen slugs : List String} {given : String} (h : given ∈ assign seen slugs) :
    ∃ slug ∈ slugs, given = slug ∨ ∃ n, 2 ≤ n ∧ given = suffixed slug n := by
  induction slugs generalizing seen with
  | nil => simp [assign] at h
  | cons slug rest ih =>
      rcases List.mem_cons.mp h with rfl | h
      · exact ⟨slug, List.mem_cons_self, unique_eq slug seen⟩
      · obtain ⟨other, hm, ho⟩ := ih h
        exact ⟨other, List.mem_cons_of_mem _ hm, ho⟩

end ApiPages.Anchor
