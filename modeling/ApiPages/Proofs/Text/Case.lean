import ApiPages.Proofs.Text.Lower
import ApiPages.Text.Letter

namespace ApiPages.Text

namespace CaseRun

variable {run other : CaseRun} {code form : Nat}

-- The last form of a run.
def top (run : CaseRun) : Nat := run.target + (run.last - run.first)

-- No form of a run has a form in the other one: it lies outside or between the steps.
def isApart (run other : CaseRun) : Bool :=
  run.top.blt other.first || other.last.blt run.target ||
    other.first ≤ run.target && (run.target - other.first) % other.step != 0 &&
      (run.step % other.step == 0 || run.first == run.last)

theorem form_mem (h : run.lower? code = some form) : run.target ≤ form ∧ form ≤ run.top := by
  obtain ⟨hfirst, hlast, -, rfl⟩ := lower?_eq_some h
  unfold top
  omega

theorem lower?_form (hapart : run.isApart other = true) (h : run.lower? code = some form) :
    other.lower? form = none := by
  simp only [isApart, Bool.or_eq_true, Bool.and_eq_true, Nat.blt_eq, decide_eq_true_eq, bne_iff_ne,
    beq_iff_eq] at hapart
  obtain ⟨htarget, htop⟩ := form_mem h
  obtain ⟨hfirst, hlast, hstep, hform⟩ := lower?_eq_some h
  refine if_neg fun ⟨hother, hend, hmod⟩ => ?_
  rcases hapart with (hbefore | hbehind) | ⟨⟨hstart, hbetween⟩, hsteps⟩
  · omega
  · omega
  · -- the distance of the form is that of the first form and a few steps of the run
    have hdistance : form - other.first =
        (run.target - other.first) + (code - run.first) := by omega
    have hmore : (code - run.first) % other.step = 0 := by
      rcases hsteps with hdivides | hsingle
      · exact Nat.mod_eq_zero_of_dvd
          ((Nat.dvd_of_mod_eq_zero hdivides).trans (Nat.dvd_of_mod_eq_zero hstep))
      · rw [show code - run.first = 0 by omega, Nat.zero_mod]
    rw [hdistance, Nat.add_mod, hmore, Nat.add_zero, Nat.mod_mod] at hmod
    exact hbetween hmod

end CaseRun

theorem caseRuns_isApart : (caseRuns.all fun run => caseRuns.all run.isApart) = true := by
  decide +kernel

-- The forms are characters, they are not the dotted capital I, and they are not blank.
theorem caseRuns_forms : ∀ run ∈ caseRuns,
    (run.top < 0xd800 ∨ 0xdfff < run.target ∧ run.top < 0x110000) ∧
    (run.top < 0x130 ∨ 0x130 < run.target) ∧
    ∀ range ∈ blankRanges, run.top < range.1 ∨ range.2 < run.target := by
  decide +kernel

section Forms

variable {run : CaseRun} {code form : Nat} (hrun : run ∈ caseRuns)
  (h : run.lower? code = some form)
include hrun h

theorem toNat_form : (Char.ofNat form).toNat = form := by
  obtain ⟨htarget, htop⟩ := CaseRun.form_mem h
  have hvalid : form.isValidChar := by
    rcases (caseRuns_forms run hrun).1 with hlow | hhigh
    · exact .inl (by omega)
    · exact .inr (by omega)
  rw [Char.toNat_ofNat, if_pos hvalid]

theorem isBlank_form : isBlank (Char.ofNat form) = false := by
  obtain ⟨htarget, htop⟩ := CaseRun.form_mem h
  rw [isBlank, toNat_form hrun h, inRanges, List.any_eq_false]
  intro range hrange hmem
  rcases (caseRuns_forms run hrun).2.2 range hrange with hbefore | hbehind
  all_goals
    simp only [Bool.and_eq_true, decide_eq_true_eq] at hmem
    omega

end Forms

-- A character without a run of its own stays; the first run holds the ASCII capitals.
theorem lowerChar_eq_self {c : Char} (hdotted : c.toNat ≠ 0x130)
    (hruns : ∀ run ∈ caseRuns, run.lower? c.toNat = none) : lowerChar c = [c] := by
  by_cases hascii : c.val < 128
  · have hkept : CaseRun.lower? ⟨0x41, 0x5a, 1, 0x61⟩ c.toNat = none → c.toLower = c :=
      forall_ascii
        (p := fun c => CaseRun.lower? ⟨0x41, 0x5a, 1, 0x61⟩ c.toNat = none → c.toLower = c)
        (by decide +kernel) c hascii
    rw [lowerChar_ascii hascii, hkept (hruns _ List.mem_cons_self)]
  · rw [lowerChar, if_neg hascii, if_neg hdotted, List.findSome?_eq_none_iff.mpr hruns]

theorem lowerChar_of_mem {c d : Char} (h : d ∈ lowerChar c) : lowerChar d = [d] := by
  rcases lowerChar_cases c with ⟨hascii, hform⟩ | hform | ⟨run, hrun, code, hcode, hform⟩ | hform
  · rw [hform] at h
    cases List.mem_singleton.mp h
    exact forall_ascii (p := fun c => lowerChar c.toLower = [c.toLower]) (by decide +kernel) c hascii
  · rw [hform] at h
    rcases List.mem_pair.mp h with rfl | rfl <;> decide +kernel
  · rw [hform] at h
    cases List.mem_singleton.mp h
    obtain ⟨htarget, htop⟩ := CaseRun.form_mem hcode
    have hnat := toNat_form hrun hcode
    refine lowerChar_eq_self ?_ fun other hother => ?_
    · have := (caseRuns_forms run hrun).2.1
      omega
    · rw [hnat]
      have hapart := List.all_eq_true.mp caseRuns_isApart run hrun
      exact CaseRun.lower?_form (List.all_eq_true.mp hapart other hother) hcode
  · rw [hform] at h
    cases List.mem_singleton.mp h
    exact hform

theorem IsOwnForm.of_blank {d : Char} (hd : isBlank d = true) : IsOwnForm d := by
  refine ⟨by rintro rfl; exact absurd hd (by decide), fun c h => ?_⟩
  rcases lowerChar_cases c with ⟨hascii, hform⟩ | hform | ⟨run, hrun, code, hcode, hform⟩ | hform
  · have hkept : isBlank c.toLower = true → c.toLower = c :=
      forall_ascii (p := fun c => isBlank c.toLower = true → c.toLower = c)
        (by decide +kernel) c hascii
    rw [hform] at h
    cases List.mem_singleton.mp h
    rw [hform, hkept hd]
  · rw [hform] at h
    rcases List.mem_pair.mp h with rfl | rfl <;> exact absurd hd (by decide)
  · rw [hform] at h
    cases List.mem_singleton.mp h
    rw [isBlank_form hrun hcode] at hd
    cases hd
  · exact hform

variable {before cs : List Char} {c : Char} {s : String}

theorem lowerChar_of_mem_lowerFrom (h : c ∈ lowerFrom before cs) : lowerChar c = [c] := by
  induction cs generalizing before with
  | nil => cases h
  | cons d rest ih =>
      rcases List.mem_append.mp h with h | h
      · split at h
        · split at h <;> cases List.mem_singleton.mp h <;> decide +kernel
        · exact lowerChar_of_mem h
      · exact ih h

theorem lowerFrom_eq_self (h : ∀ c ∈ cs, lowerChar c = [c]) : lowerFrom before cs = cs := by
  induction cs generalizing before with
  | nil => rfl
  | cons c rest ih =>
      have hc := h c List.mem_cons_self
      have hsigma : c ≠ 'Σ' := by
        rintro rfl
        exact absurd hc (by decide +kernel)
      rw [lowerFrom, if_neg hsigma, hc, ih fun d hd => h d (List.mem_cons_of_mem c hd),
        List.singleton_append]

theorem lowerChar_of_mem_lower (h : c ∈ (lower s).toList) : lowerChar c = [c] := by
  rw [lower, String.toList_ofList] at h
  exact lowerChar_of_mem_lowerFrom h

theorem lower_eq_self (h : ∀ c ∈ s.toList, lowerChar c = [c]) : lower s = s := by
  rw [lower, lowerFrom_eq_self h, String.ofList_toList]

theorem lower_lower (s : String) : lower (lower s) = lower s :=
  lower_eq_self fun _ => lowerChar_of_mem_lower

theorem notMem_lower_blank (h : ∀ c ∈ s.toList, isBlank c = false) (hc : c ∈ (lower s).toList) :
    isBlank c = false := by
  rw [lower, String.toList_ofList] at hc
  by_contra hblank
  have hown : IsOwnForm c := .of_blank (by simpa using hblank)
  exact hblank (h c (mem_of_mem_lowerFrom hown hc))

-- No ASCII capital stays as it is.
theorem notCapital_of_lowerChar (h : lowerChar c = [c]) : ¬ ('A' ≤ c ∧ c ≤ 'Z') := by
  rintro ⟨hA, hZ⟩
  have hascii : c.val < 128 := by
    have hlast : c.toNat ≤ 90 := UInt32.le_iff_toNat_le.mp hZ
    exact UInt32.lt_iff_toNat_lt.mpr (Nat.lt_of_le_of_lt hlast (by decide))
  have hcapital : 'A' ≤ c ∧ c ≤ 'Z' → c.toLower ≠ c :=
    forall_ascii (p := fun c => 'A' ≤ c ∧ c ≤ 'Z' → c.toLower ≠ c) (by decide +kernel) c hascii
  rw [lowerChar_ascii hascii] at h
  exact hcapital ⟨hA, hZ⟩ (List.singleton_inj.mp h)

end ApiPages.Text
