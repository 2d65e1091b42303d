import ApiPages.Proofs.Text.Scan

namespace ApiPages.Text

theorem replaceFrom_eq_self {old cs : List Char} (new : List Char) (h : ¬ old <:+: cs) :
    replaceFrom old new 0 cs = cs := by
  induction cs with
  | nil => rfl
  | cons c cs ih =>
      have hstart : startsWith old (c :: cs) = false :=
        startsWith_eq_false fun hprefix => h hprefix.isInfix
      rw [replaceFrom, hstart, Bool.and_false, if_neg Bool.false_ne_true,
        ih fun hinside => h (hinside.trans (List.suffix_cons c cs).isInfix)]

theorem replaceAll_eq_self {old s : String} (new : String) (h : ¬ old.toList <:+: s.toList) :
    replaceAll old new s = s := by
  rw [replaceAll, replaceFrom_eq_self new.toList h, String.ofList_toList]

variable {old new rest : List Char}

theorem replaceFrom_skip (skip : Nat) (cs : List Char) :
    replaceFrom old new skip cs = replaceFrom old new 0 (cs.drop skip) := by
  induction cs generalizing skip with
  | nil => rw [List.drop_nil]; rfl
  | cons c cs ih =>
      cases skip with
      | zero => rfl
      | succ skip => rw [replaceFrom, List.drop_succ_cons, ih]

theorem replaceFrom_occurrence (hne : old ≠ []) :
    replaceFrom old new 0 (old ++ rest) = new ++ replaceFrom old new 0 rest := by
  cases old with
  | nil => exact absurd rfl hne
  | cons c old =>
      have hstart : startsWith (c :: old) (c :: (old ++ rest)) = true := by
        rw [startsWith, ← List.cons_append, dropStart?_append]
        rfl
      have hskip : replaceFrom (c :: old) new old.length (old ++ rest) =
          replaceFrom (c :: old) new 0 rest := by
        rw [replaceFrom_skip, List.drop_left]
      rw [List.cons_append, replaceFrom, hstart, ← hskip]
      rfl

theorem replaceFrom_of_startsWith_eq_false {c : Char} (h : startsWith old (c :: rest) = false) :
    replaceFrom old new 0 (c :: rest) = c :: replaceFrom old new 0 rest := by
  rw [replaceFrom, h, Bool.and_false, if_neg Bool.false_ne_true]

-- A stretch without the first character of what is replaced stays.
theorem replaceFrom_append_of_notMem {first : Char} {stretch : List Char} (h : first ∉ stretch) :
    replaceFrom (first :: old) new 0 (stretch ++ rest) =
      stretch ++ replaceFrom (first :: old) new 0 rest := by
  induction stretch with
  | nil => rfl
  | cons c stretch ih =>
      rw [List.mem_cons, not_or] at h
      have hstart : startsWith (first :: old) (c :: (stretch ++ rest)) = false := by
        rw [startsWith, dropStart?, if_neg h.1]
        rfl
      rw [List.cons_append, replaceFrom_of_startsWith_eq_false hstart, ih h.2, List.cons_append]

theorem replaceFrom_flatMap {α : Type} {form form' : α → List Char}
    (h : ∀ a rest, replaceFrom old new 0 (form a ++ rest) =
      form' a ++ replaceFrom old new 0 rest) (items : List α) :
    replaceFrom old new 0 (items.flatMap form) = items.flatMap form' := by
  induction items with
  | nil => rfl
  | cons a items ih => rw [List.flatMap_cons, h, ih, List.flatMap_cons]

end ApiPages.Text
