import ApiPages.Text.Lower
import Mathlib

namespace ApiPages.Text

-- What holds of the first 128 code points holds of every ASCII character.
theorem forall_ascii {p : Char → Prop} (h : ∀ n < 128, p (Char.ofNat n)) (c : Char)
    (hc : c.val < 128) : p c := by
  have hn : c.toNat < 128 := UInt32.lt_iff_toNat_lt.mp hc
  have := h c.toNat hn
  rwa [Char.ofNat_toNat] at this

theorem lowerChar_ascii {c : Char} (h : c.val < 128) : lowerChar c = [c.toLower] := by
  simp [lowerChar, h]

theorem lowerFrom_append {start : List Char} (before rest : List Char)
    (h : ∀ c ∈ start, c.val < 128) :
    lowerFrom before (start ++ rest) =
      start.map Char.toLower ++ lowerFrom (start.reverse ++ before) rest := by
  induction start generalizing before with
  | nil => rfl
  | cons c start ih =>
      have hc : c.val < 128 := h c List.mem_cons_self
      have hsigma : c ≠ 'Σ' := by
        rintro rfl
        exact absurd hc (by decide)
      have hstart := ih (c :: before) fun c hm => h c (List.mem_cons_of_mem _ hm)
      simp only [List.cons_append, lowerFrom, hsigma, ite_false, lowerChar_ascii hc, hstart,
        List.map_cons, List.reverse_cons, List.append_assoc, List.nil_append]

theorem toList_lower_append {s : String} (t : String) (h : ∀ c ∈ s.toList, c.val < 128) :
    (lower (s ++ t)).toList = s.toList.map Char.toLower ++ lowerFrom s.toList.reverse t.toList := by
  rw [lower, String.toList_ofList, String.toList_append, lowerFrom_append _ _ h, List.append_nil]

theorem toList_lower {s : String} (h : ∀ c ∈ s.toList, c.val < 128) :
    (lower s).toList = s.toList.map Char.toLower := by
  have hs := toList_lower_append "" h
  rwa [String.append_empty, String.toList_empty, lowerFrom, List.append_nil] at hs

-- ASCII characters that come before the letters are no lower-case forms of other characters.
def precedesLetters (c : Char) : Bool := 0 < c.toNat && c.toNat < 65

theorem precedesLetters_ofNat {n : Nat} (h : precedesLetters (Char.ofNat n) = true) : n < 65 := by
  by_contra hn
  by_cases hvalid : n.isValidChar
  · simp [precedesLetters, Char.toNat_ofNat, hvalid] at h
    omega
  · simp [precedesLetters, Char.toNat_ofNat, hvalid] at h

-- How a character comes to its lower-case form.
theorem lowerChar_cases (c : Char) :
    c.val < 128 ∧ lowerChar c = [c.toLower] ∨
    lowerChar c = ['i', Char.ofNat 0x307] ∨
    (∃ run ∈ caseRuns, ∃ code, run.lower? c.toNat = some code ∧ lowerChar c = [Char.ofNat code]) ∨
    lowerChar c = [c] := by
  by_cases hascii : c.val < 128
  · exact .inl ⟨hascii, lowerChar_ascii hascii⟩
  · unfold lowerChar
    rw [if_neg hascii]
    split
    · exact .inr (.inl rfl)
    · cases hcode : caseRuns.findSome? (·.lower? c.toNat) with
      | none => exact .inr (.inr (.inr rfl))
      | some code =>
          obtain ⟨run, hrun, hlower⟩ := List.exists_of_findSome?_eq_some hcode
          exact .inr (.inr (.inl ⟨run, hrun, code, hlower, rfl⟩))

-- The form lies as far behind the first form of the run as the character behind the first one.
theorem CaseRun.lower?_eq_some {run : CaseRun} {code form : Nat} (h : run.lower? code = some form) :
    run.first ≤ code ∧ code ≤ run.last ∧ (code - run.first) % run.step = 0 ∧
      form = run.target + (code - run.first) := by
  unfold CaseRun.lower? at h
  split at h
  · rename_i hcode
    exact ⟨hcode.1, hcode.2.1, hcode.2.2, (Option.some.inj h).symm⟩
  · cases h

theorem lowerChar_ne_nil (c : Char) : lowerChar c ≠ [] := by
  rcases lowerChar_cases c with ⟨-, h⟩ | h | ⟨run, -, code, -, h⟩ | h <;> simp [h]

-- A character that is no lower-case form of another one. The final sigma is one of the capital sigma
-- where that does not stand alone.
structure IsOwnForm (d : Char) : Prop where
  notFinal : d ≠ 'ς'
  alone : ∀ c, d ∈ lowerChar c → lowerChar c = [c]

theorem IsOwnForm.of_precedes {d : Char} (hd : precedesLetters d = true) : IsOwnForm d := by
  refine ⟨by rintro rfl; exact absurd hd (by decide), fun c h => ?_⟩
  rcases lowerChar_cases c with ⟨hascii, hform⟩ | hform | ⟨run, hrun, code, hcode, hform⟩ | hform
  · have hkept : precedesLetters c.toLower = true → c.toLower = c :=
      forall_ascii (p := fun c => precedesLetters c.toLower = true → c.toLower = c)
        (by decide +kernel) c hascii
    rw [hform] at h
    cases List.mem_singleton.mp h
    rw [hform, hkept hd]
  · rw [hform] at h
    rcases List.mem_pair.mp h with rfl | rfl <;> exact absurd hd (by decide)
  · have htargets : ∀ run ∈ caseRuns, 65 ≤ run.target := by decide +kernel
    have htarget := htargets run hrun
    obtain ⟨-, -, -, rfl⟩ := CaseRun.lower?_eq_some hcode
    rw [hform] at h
    cases List.mem_singleton.mp h
    have := precedesLetters_ofNat hd
    omega
  · exact hform

-- A character stands for itself or gives way to lower-case forms of others.
theorem lowerFrom_cons (before rest : List Char) (c : Char) :
    ∃ form, lowerFrom before (c :: rest) = form ++ lowerFrom (c :: before) rest ∧ form ≠ [] ∧
      ((∃ d ∈ form, IsOwnForm d) → form = [c]) := by
  refine ⟨_, rfl, ?_, ?_⟩
  · split
    · split <;> simp
    · exact lowerChar_ne_nil c
  · rintro ⟨d, hmem, hd⟩
    by_cases hsigma : c = 'Σ'
    · rw [if_pos hsigma] at hmem
      split at hmem
      · exact absurd (List.mem_singleton.mp hmem) hd.notFinal
      · have hform : lowerChar 'Σ' = ['σ'] := by decide +kernel
        have halone := hd.alone 'Σ' (hform ▸ hmem)
        rw [hform] at halone
        exact absurd halone (by decide)
    · rw [if_neg hsigma] at hmem ⊢
      exact hd.alone c hmem

theorem mem_of_mem_lowerFrom {d : Char} (hd : IsOwnForm d) {before cs : List Char}
    (h : d ∈ lowerFrom before cs) : d ∈ cs := by
  induction cs generalizing before with
  | nil => exact h
  | cons c rest ih =>
      obtain ⟨form, hform, -, hsame⟩ := lowerFrom_cons before rest c
      rw [hform] at h
      rcases List.mem_append.mp h with h | h
      · rw [hsame ⟨d, h, hd⟩] at h
        exact List.mem_cons.mpr (.inl (List.mem_singleton.mp h))
      · exact List.mem_cons_of_mem c (ih h)

-- Where only such characters come out, nothing was lowered.
theorem lowerFrom_of_ownForms {before cs : List Char}
    (h : ∀ d ∈ lowerFrom before cs, IsOwnForm d) : lowerFrom before cs = cs := by
  induction cs generalizing before with
  | nil => rfl
  | cons c rest ih =>
      obtain ⟨form, hform, hne, hsame⟩ := lowerFrom_cons before rest c
      rw [hform] at h ⊢
      obtain ⟨d, hmem⟩ := List.exists_mem_of_ne_nil form hne
      have hform : form = [c] := hsame ⟨d, hmem, h d (List.mem_append_left _ hmem)⟩
      have hrest := ih fun d hmem => h d (List.mem_append_right _ hmem)
      rw [hform, hrest, List.singleton_append]

end ApiPages.Text
