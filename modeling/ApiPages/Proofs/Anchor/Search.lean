import ApiPages.Proofs.Anchor.Fresh
import Mathlib.Data.Finset.Card
import Mathlib.Data.Finset.Image

namespace ApiPages.Anchor

variable {slug : String} {seen : List String}

-- The loop goes on from a candidate as long as the candidate is taken, with the next number in turn.
-- It looks at so many candidates and ends at a free one.
inductive Finds (slug : String) (seen : List String) : String → Nat → Nat → String → Prop
  | free {candidate : String} {counter : Nat} (h : candidate ∉ seen) :
      Finds slug seen candidate counter 1 candidate
  | taken {candidate found : String} {counter tries : Nat} (h : candidate ∈ seen)
      (hrest : Finds slug seen (suffixed slug counter) (counter + 1) tries found) :
      Finds slug seen candidate counter (tries + 1) found

-- The candidates in the order in which the loop comes to them.
def candidate (slug : String) : Nat → String
  | 0 => slug
  | i + 1 => suffixed slug (i + 2)

theorem suffixed_ne (slug : String) (k : Nat) : suffixed slug k ≠ slug := by
  intro h
  have hlength : (suffixed slug k).length = slug.length := congrArg String.length h
  have hmark : "-".length = 1 := rfl
  rw [suffixed, String.length_append, String.length_append, hmark] at hlength
  omega

theorem candidate_injective (slug : String) : Function.Injective (candidate slug) := by
  intro i j h
  cases i with
  | zero =>
      cases j with
      | zero => rfl
      | succ j => exact absurd h.symm (suffixed_ne slug (j + 2))
  | succ i =>
      cases j with
      | zero => exact absurd h (suffixed_ne slug (i + 2))
      | succ j =>
          have hij := suffixed_injective slug h
          omega

-- From any candidate on, the loop comes to the first free one.
theorem finds_from_iff (i tries : Nat) (found : String) :
    Finds slug seen (candidate slug i) (i + 2) tries found ↔
      ∃ k, tries = k + 1 ∧ found = candidate slug (i + k) ∧ found ∉ seen ∧
        ∀ j < k, candidate slug (i + j) ∈ seen := by
  constructor
  · intro h
    -- the candidate and its counter move on together
    generalize hcandidate : candidate slug i = start at h
    generalize hcounter : i + 2 = counter at h
    induction h generalizing i with
    | free hfree =>
        subst hcandidate
        exact ⟨0, rfl, rfl, hfree, fun j hj => absurd hj (Nat.not_lt_zero j)⟩
    | taken htaken _ ih =>
        subst hcandidate hcounter
        obtain ⟨k, rfl, rfl, hfree, hbefore⟩ := ih (i + 1) rfl rfl
        refine ⟨k + 1, rfl, by rw [Nat.add_right_comm, Nat.add_assoc], hfree, fun j hj => ?_⟩
        cases j with
        | zero => exact htaken
        | succ j =>
            have hj := hbefore j (by omega)
            rwa [Nat.add_right_comm, Nat.add_assoc] at hj
  · rintro ⟨k, rfl, rfl, hfree, hbefore⟩
    induction k generalizing i with
    | zero => exact .free hfree
    | succ k ih =>
        have hshift : ∀ j, i + 1 + j = i + (j + 1) := fun j => by omega
        have hrest := ih (i + 1) (by rwa [hshift]) fun j hj => by
          rw [hshift]
          exact hbefore (j + 1) (by omega)
        rw [hshift k] at hrest
        exact .taken (hbefore 0 (Nat.succ_pos k)) hrest

-- The loop ends at the first free candidate, and it has looked at all up to that one.
theorem finds_iff {tries : Nat} {found : String} :
    Finds slug seen slug 2 tries found ↔
      ∃ k, tries = k + 1 ∧ found = candidate slug k ∧ found ∉ seen ∧
        ∀ j < k, candidate slug j ∈ seen := by
  have hstart : Finds slug seen slug 2 tries found ↔ _ := finds_from_iff 0 tries found
  simpa only [Nat.zero_add] using hstart

-- There is no other end.
theorem Finds.unique {tries tries' : Nat} {found found' : String}
    (h : Finds slug seen slug 2 tries found) (hother : Finds slug seen slug 2 tries' found') :
    tries' = tries ∧ found' = found := by
  obtain ⟨k, rfl, rfl, hfree, hbefore⟩ := finds_iff.mp h
  obtain ⟨k', rfl, rfl, hfree', hbefore'⟩ := finds_iff.mp hother
  have hle : k ≤ k' := by
    by_contra hlt
    exact hfree' (hbefore k' (Nat.lt_of_not_le hlt))
  have hge : k' ≤ k := by
    by_contra hlt
    exact hfree (hbefore' k (Nat.lt_of_not_le hlt))
  obtain rfl := Nat.le_antisymm hle hge
  exact ⟨rfl, rfl⟩

-- The candidates before the last one are taken and distinct.
theorem Finds.tries_le {tries : Nat} {found : String} (h : Finds slug seen slug 2 tries found) :
    tries ≤ seen.toFinset.card + 1 := by
  obtain ⟨k, rfl, -, -, hbefore⟩ := finds_iff.mp h
  have hsubset : (Finset.range k).image (candidate slug) ⊆ seen.toFinset := by
    intro s hs
    obtain ⟨j, hj, rfl⟩ := Finset.mem_image.mp hs
    exact List.mem_toFinset.mpr (hbefore j (Finset.mem_range.mp hj))
  have hcard := Finset.card_le_card hsubset
  rw [Finset.card_image_of_injective _ (candidate_injective slug), Finset.card_range] at hcard
  omega

-- What is reserved is what the loop ends at.
theorem finds_unique (slug : String) (seen : List String) :
    ∃ tries, Finds slug seen slug 2 tries (unique slug seen) := by
  have hgiven := unique_isFirstFree slug seen
  have hfree := unique_notMem slug seen
  generalize unique slug seen = given at hgiven hfree ⊢
  cases hgiven with
  | plain => exact ⟨1, .free hfree⟩
  | numbered htaken hleast =>
      obtain ⟨⟨hn, -⟩, hbefore⟩ := hleast
      obtain ⟨m, rfl⟩ := Nat.exists_eq_add_of_le' hn
      refine ⟨m + 2, finds_iff.mpr ⟨m + 1, rfl, rfl, hfree, fun j hj => ?_⟩⟩
      cases j with
      | zero => exact htaken
      | succ j =>
          by_contra hother
          have hle : m + 2 ≤ j + 2 := hbefore ⟨by omega, hother⟩
          omega

theorem unique_eq_self_iff : unique slug seen = slug ↔ slug ∉ seen := by
  constructor
  · intro h
    exact h ▸ unique_notMem slug seen
  · intro hfree
    simp [unique, hfree]

theorem unique_of_taken (h : slug ∈ seen) :
    ∃ k, unique slug seen = suffixed slug k ∧ IsLeast {k | 2 ≤ k ∧ suffixed slug k ∉ seen} k := by
  have hgiven := unique_isFirstFree slug seen
  generalize unique slug seen = given at hgiven ⊢
  cases hgiven with
  | plain hfree => exact absurd h hfree
  | numbered _ hleast => exact ⟨_, rfl, hleast⟩

-- Wishes that are passed one after the other through the same anchors taken.
theorem run_mapM_reserve (slugs seen : List String) :
    (slugs.mapM reserve).run seen = (assign seen slugs, (assign seen slugs).reverse ++ seen) := by
  induction slugs generalizing seen with
  | nil => rfl
  | cons slug rest ih =>
      rw [List.mapM_cons, StateT.run_bind, run_reserve]
      change ((rest.mapM reserve >>= fun others => pure (unique slug seen :: others)).run
        (unique slug seen :: seen)) = _
      rw [StateT.run_bind, ih, assign, List.reverse_cons, List.append_assoc]
      rfl

-- An anchor that becomes taken, when some are taken already.
structure IsReserved (slug : String) (seen : List String) (given : String) (taken : List String) :
    Prop where
  ends : ∃ tries ≤ seen.toFinset.card + 1, Finds slug seen slug 2 tries given ∧
    ∀ tries' found, Finds slug seen slug 2 tries' found → tries' = tries ∧ found = given
  fresh : given ∉ seen
  plain : given = slug ↔ slug ∉ seen
  numbered : slug ∈ seen →
    ∃ k, given = suffixed slug k ∧ IsLeast {k | 2 ≤ k ∧ suffixed slug k ∉ seen} k
  adds : taken.toFinset = insert given seen.toFinset

-- Every wish is given the least free anchor after at most one more candidate than there are anchors
-- taken, and wishes in turn are given distinct anchors besides those that were taken at the start.
theorem reserve_leastFree (seen : List String) :
    (∀ slug, IsReserved slug seen ((reserve slug).run seen).1 ((reserve slug).run seen).2) ∧
      ∀ slugs : List String, ∃ given taken, (slugs.mapM reserve).run seen = (given, taken) ∧
        given.length = slugs.length ∧ given.Nodup ∧ (∀ anchor ∈ given, anchor ∉ seen) ∧
        taken.toFinset = seen.toFinset ∪ given.toFinset := by
  constructor
  · intro slug
    obtain ⟨tries, hfinds⟩ := finds_unique slug seen
    rw [run_reserve]
    exact {
      ends := ⟨tries, hfinds.tries_le, hfinds, fun _ _ => hfinds.unique⟩
      fresh := unique_notMem slug seen
      plain := unique_eq_self_iff
      numbered := unique_of_taken
      adds := List.toFinset_cons }
  · intro slugs
    refine ⟨_, _, run_mapM_reserve slugs seen, length_assign seen slugs, ?_, ?_, ?_⟩
    · exact nodup_assign seen slugs
    · exact fun anchor hanchor => notMem_of_mem_assign hanchor
    · rw [List.toFinset_append, List.toFinset_reverse, Finset.union_comm]

end ApiPages.Anchor
