import ApiPages.Command.Arguments
import ApiPages.Proofs.Outcome

namespace ApiPages.Command

open Outcome

variable {action : Option Action} {kinds : List OptionKind}

-- An option that is recognized is one of those that are known.
def WordSort.IsOf (kinds : List OptionKind) : WordSort → Prop
  | .option (some kind) _ _ => kind ∈ kinds
  | _ => True

theorem mem_of_findName {name : String} {kind : OptionKind} (h : findName kinds name = some kind) :
    kind ∈ kinds := List.mem_of_find?_eq_some h

theorem mem_of_mem_candidates {s : String} {found : OptionKind × String × Option Attached}
    (h : found ∈ candidates kinds s) : found.1 ∈ kinds := by
  have hnamed (pair : OptionKind × String)
      (hpair : pair ∈ kinds.flatMap fun kind => kind.names.map (kind, ·)) : pair.1 ∈ kinds := by
    obtain ⟨kind, hkind, hmem⟩ := List.mem_flatMap.mp hpair
    obtain ⟨name, -, rfl⟩ := List.mem_map.mp hmem
    exact hkind
  unfold candidates at h
  split at h
  · obtain ⟨pair, hpair, rfl⟩ := List.mem_map.mp h
    exact hnamed pair (List.mem_of_mem_filter hpair)
  · obtain ⟨⟨kind, name⟩, hpair, hfound⟩ := List.mem_filterMap.mp h
    have hkind := hnamed (kind, name) hpair
    dsimp only at hfound
    split_ifs at hfound <;> cases hfound <;> exact hkind

theorem isOf_sortOf {s : String} {sort : WordSort} (h : sortOf action kinds s = .ok sort) :
    sort.IsOf kinds := by
  unfold sortOf at h
  split at h
  · cases h
    trivial
  · split at h
    · rename_i kind hkind
      cases h
      exact mem_of_findName hkind
    · split at h
      · cases h
        trivial
      · dsimp only at h
        split at h
        · rename_i hkind
          cases h
          exact mem_of_findName hkind
        · split at h
          · split at h <;> cases h <;> trivial
          · rename_i kind name value hcandidates
            cases h
            exact mem_of_mem_candidates (hcandidates ▸ List.mem_singleton_self (kind, name, value))
          · cases h

theorem isOf_wordsOf {arguments : List String} {words : List Word}
    (h : wordsOf action kinds arguments = .ok words) : ∀ word ∈ words, word.sort.IsOf kinds := by
  induction arguments generalizing words with
  | nil =>
      cases h
      simp
  | cons s rest ih =>
      unfold wordsOf at h
      split at h
      · cases h
        simp [WordSort.IsOf]
      · simp only [bind_eq_ok_iff, pure_eq_ok_iff] at h
        obtain ⟨sort, hsort, others, hothers, rfl⟩ := h
        exact List.forall_mem_cons.mpr ⟨isOf_sortOf hsort, ih hothers⟩

theorem mem_of_readFlags {kind : OptionKind} {cs : List Char} {flags : List OptionKind}
    {unknown : List String} (h : readFlags action kinds kind cs = .ok (flags, unknown))
    (hkind : kind ∈ kinds) : ∀ flag ∈ flags, flag ∈ kinds := by
  induction cs generalizing kind flags with
  | nil =>
      cases h
      simpa using hkind
  | cons c rest ih =>
      unfold readFlags at h
      split at h
      · cases h
        simpa using hkind
      · exact absurd h throw_ne_ok
      · exact absurd h throw_ne_ok
      · rename_i heq
        cases heq
        split at h
        · rename_i next hnext
          simp only [bind_eq_ok_iff, pure_eq_ok_iff] at h
          obtain ⟨⟨others, more⟩, hothers, h⟩ := h
          cases h
          exact List.forall_mem_cons.mpr ⟨hkind, ih hothers (mem_of_findName hnext)⟩
        · cases h
          simpa using hkind

theorem output_set {kind : OptionKind} (hkind : kind ≠ .output) (given : Given) (value : String) :
    (given.set kind value).output = given.output := by
  cases kind <;> first | rfl | exact absurd rfl hkind

theorem output_applyFlags {flags : List OptionKind} {given after : Given}
    (hflags : ∀ flag ∈ flags, flag ≠ .output)
    (h : flags.foldlM (applyFlag action) given = .ok after) :
    after.output = given.output := by
  induction flags generalizing given with
  | nil =>
      cases h
      rfl
  | cons flag rest ih =>
      rw [List.forall_mem_cons] at hflags
      rw [List.foldlM_cons, bind_eq_ok_iff] at h
      obtain ⟨next, hnext, h⟩ := h
      unfold applyFlag at hnext
      split at hnext <;> cases hnext
      rw [ih hflags.2 h, output_set hflags.1]

section Unknown

variable (hkinds : OptionKind.output ∉ kinds)
include hkinds

theorem output_readOption {given after : Given} {word name : String} {kind : Option OptionKind}
    {attached : Option Attached} {rest left : List Word} {unknown : List String}
    (hkind : (WordSort.option kind name attached).IsOf kinds)
    (h : readOption action kinds given word kind name attached rest = .ok (after, left, unknown)) :
    after.output = given.output ∧ left ⊆ rest := by
  cases kind with
  | none =>
      cases h
      exact ⟨rfl, fun _ hmem => hmem⟩
  | some kind =>
      have hne : kind ≠ .output := fun heq => hkinds (heq ▸ hkind)
      unfold readOption at h
      dsimp only at h
      split at h
      · split at h
        · cases h
          exact ⟨output_set hne _ _, fun _ hmem => hmem⟩
        · split at h
          · cases h
            exact ⟨output_set hne _ _, List.subset_cons_self _ _⟩
          · exact absurd h throw_ne_ok
      · split at h
        · simp only [bind_eq_ok_iff, pure_eq_ok_iff] at h
          obtain ⟨⟨flags, unknown⟩, hflags, next, hnext, h⟩ := h
          cases h
          unfold attachedFlags at hflags
          split at hflags
          · cases hflags
          · have hmem := mem_of_readFlags hflags hkind
            have houtput : ∀ flag ∈ flags, flag ≠ .output :=
              fun flag hflag heq => hkinds (heq ▸ hmem flag hflag)
            exact ⟨output_applyFlags houtput hnext, fun _ hmem => hmem⟩
        · simp only [bind_eq_ok_iff, pure_eq_ok_iff] at h
          obtain ⟨next, hnext, h⟩ := h
          cases h
          unfold applyFlag at hnext
          split at hnext <;> cases hnext
          exact ⟨output_set hne _ _, fun _ hmem => hmem⟩

-- An option that an action does not know is never set.
theorem output_readActionWords {fuel : Nat} {found after : ActionWords} {words : List Word}
    (hwords : ∀ word ∈ words, word.sort.IsOf kinds)
    (h : readActionWords action kinds fuel found words = .ok after) :
    after.given.output = found.given.output := by
  induction fuel generalizing found words with
  | zero =>
      cases h
      rfl
  | succ fuel ih =>
      cases words with
      | nil =>
          cases h
          rfl
      | cons word rest =>
          rw [List.forall_mem_cons] at hwords
          obtain ⟨hword, hrest⟩ := hwords
          unfold readActionWords at h
          split at h
          · rename_i kind name attached hsort
            rw [hsort] at hword
            simp only [bind_eq_ok_iff] at h
            obtain ⟨⟨given, left, unknown⟩, hread, h⟩ := h
            obtain ⟨houtput, hsub⟩ := output_readOption hkinds hword hread
            exact (ih (fun other hother => hrest other (hsub hother)) h).trans houtput
          · exact (ih (fun other hother => hrest other (List.mem_cons_of_mem _ hother)) h).trans rfl
          · exact (ih hrest h).trans rfl
          · exact (ih (fun other hother => hrest other (List.mem_cons_of_mem _ hother)) h).trans rfl
          · exact (ih hrest h).trans rfl

end Unknown

theorem output_readAction {action : Action} {verbose : Bool} {words : List String}
    {arguments : Arguments} {unknown : List String}
    (h : readAction action verbose words = .ok (arguments, unknown))
    (haction : arguments.action = .check) : arguments.output = none := by
  simp only [readAction, bind_eq_ok_iff] at h
  obtain ⟨sorted, hsorted, found, hfound, h⟩ := h
  split at h
  · cases h
    cases haction
    have hkinds : OptionKind.output ∉ actionOptions .check := by decide
    exact output_readActionWords hkinds (isOf_wordsOf hsorted) hfound
  · exact absurd h throw_ne_ok

theorem output_readWords {fuel : Nat} {given : Given} {before unknown : List String}
    {words : List Word} {arguments : Arguments}
    (h : readWords fuel given before words = .ok (arguments, unknown))
    (haction : arguments.action = .check) : arguments.output = none := by
  induction fuel generalizing given before words with
  | zero => cases h
  | succ fuel ih =>
      cases words with
      | nil => cases h
      | cons word rest =>
          unfold readWords at h
          split at h
          · simp only [bind_eq_ok_iff] at h
            obtain ⟨⟨given, left, more⟩, -, h⟩ := h
            exact ih h
          · exact absurd h throw_ne_ok
          · split at h
            · simp only [bind_eq_ok_iff, pure_eq_ok_iff] at h
              obtain ⟨⟨found, more⟩, hfound, h⟩ := h
              cases h
              exact output_readAction hfound haction
            · exact absurd h throw_ne_ok

-- A check writes no page, and so it takes no directory for one.
theorem output_of_check {words : List String} {arguments : Arguments}
    (h : Arguments.read words = .ok arguments) (haction : arguments.action = .check) :
    arguments.output = none := by
  simp only [Arguments.read, bind_eq_ok_iff] at h
  obtain ⟨sorted, -, ⟨found, unknown⟩, hfound, h⟩ := h
  dsimp only at h
  split at h
  · cases h
    exact output_readWords hfound haction
  · exact absurd h throw_ne_ok

end ApiPages.Command
