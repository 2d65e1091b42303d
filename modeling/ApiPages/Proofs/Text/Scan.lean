import ApiPages.Text.Scan
import Mathlib.Data.List.Infix

namespace ApiPages.Text

theorem eq_append_of_dropStart? {start cs rest : List Char} (h : dropStart? start cs = some rest) :
    cs = start ++ rest := by
  induction start generalizing cs with
  | nil => exact Option.some.inj h
  | cons p start ih =>
      cases cs with
      | nil => cases h
      | cons c cs =>
          rw [dropStart?] at h
          split at h
          · rename_i hsame
            rw [hsame, ih h, List.cons_append]
          · cases h

theorem dropStart?_append (start rest : List Char) :
    dropStart? start (start ++ rest) = some rest := by
  induction start with
  | nil => rfl
  | cons c start ih => rw [List.cons_append, dropStart?, if_pos rfl, ih]

-- What a text starts with is not found across a character that it does not hold.
theorem dropStart?_append_of_notMem {start : List Char} {c : Char} (h : c ∉ start)
    (cs rest : List Char) :
    dropStart? start (cs ++ c :: rest) = (dropStart? start cs).map (· ++ c :: rest) := by
  induction start generalizing cs with
  | nil => rfl
  | cons d start ih =>
      rw [List.mem_cons, not_or] at h
      cases cs with
      | nil => rw [List.nil_append, dropStart?, dropStart?, if_neg (Ne.symm h.1), Option.map_none]
      | cons e cs =>
          rw [List.cons_append, dropStart?, dropStart?]
          split
          · exact ih h.2 cs
          · rfl

-- What stands before the first character of a kind is the same in equal texts.
theorem append_inj_of_stop {p : Char → Prop} {xs ys rest rest' : List Char}
    (hx : ∀ c ∈ xs, ¬ p c) (hy : ∀ c ∈ ys, ¬ p c) (hr : ∀ c ∈ rest.head?, p c)
    (hr' : ∀ c ∈ rest'.head?, p c) (h : xs ++ rest = ys ++ rest') : xs = ys ∧ rest = rest' := by
  induction xs generalizing ys with
  | nil =>
      cases ys with
      | nil => exact ⟨rfl, h⟩
      | cons y ys =>
          rw [List.nil_append] at h
          exact absurd (hr y (by simp [h])) (hy y List.mem_cons_self)
  | cons x xs ih =>
      cases ys with
      | nil =>
          rw [List.nil_append] at h
          exact absurd (hr' x (by simp [← h])) (hx x List.mem_cons_self)
      | cons y ys =>
          rw [List.forall_mem_cons] at hx hy
          obtain ⟨rfl, hrest⟩ := List.cons.inj h
          obtain ⟨rfl, rfl⟩ := ih hx.2 hy.2 hrest
          exact ⟨rfl, rfl⟩

theorem startsWith_eq_false {start cs : List Char} (h : ¬ start <+: cs) :
    startsWith start cs = false := by
  rw [startsWith, Option.isSome_eq_false_iff, Option.isNone_iff_eq_none]
  cases hdrop : dropStart? start cs with
  | none => rfl
  | some rest => exact absurd ⟨rest, (eq_append_of_dropStart? hdrop).symm⟩ h

-- What is left of a text without its blanks at both ends stands in it.
theorem trim_isInfix (cs : List Char) : trim cs <:+: cs := by
  have hend : dropEndWhile isBlank (cs.dropWhile isBlank) <+: cs.dropWhile isBlank := by
    rw [dropEndWhile, ← List.reverse_suffix, List.reverse_reverse]
    exact List.dropWhile_suffix _
  exact hend.isInfix.trans (List.dropWhile_suffix _).isInfix

end ApiPages.Text
