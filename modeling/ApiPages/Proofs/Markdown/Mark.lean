import ApiPages.Markdown.Mark
import ApiPages.Proofs.Text.Piece
import ApiPages.Proofs.Text.Replace

namespace ApiPages.Markdown

open Text

-- No mark of a number under the name stands in the text.
def IsUnmarked (name cs : List Char) : Prop :=
  ∀ digits : List Char, digits ≠ [] → (∀ c ∈ digits, c.isDigit = true) →
    ¬ mark (name ++ digits) <:+: cs

variable {name cs : List Char}

theorem IsUnmarked.inside {part : List Char} (h : IsUnmarked name cs) (hpart : part <:+: cs) :
    IsUnmarked name part :=
  fun digits hne hdigits hmark => h digits hne hdigits (hmark.trans hpart)

-- A text without the character that opens a mark holds none.
theorem isUnmarked_of_notMem (h : markOpen ∉ cs) : IsUnmarked name cs := by
  rintro digits - - ⟨before, after, rfl⟩
  exact h (by simp [mark])

theorem marked?_mark (name : List Char) {digits : List Char} (hne : digits ≠ [])
    (hdigits : ∀ c ∈ digits, c.isDigit = true) (rest : List Char) :
    marked? name (mark (name ++ digits) ++ rest) = some (numeral 10 digits, rest) := by
  have htext : mark (name ++ digits) ++ rest =
      markOpen :: name ++ (digits ++ markClose :: rest) := by
    simp [mark]
  have htake : (digits ++ markClose :: rest).takeWhile Char.isDigit = digits := by
    rw [List.takeWhile_append_of_pos hdigits, List.takeWhile_cons]
    simp [markClose]
  have hsome : digits.isEmpty = false := List.isEmpty_eq_false_iff.mpr hne
  unfold marked?
  rw [htext, dropStart?_append]
  simp only [Option.bind_eq_bind, Option.bind_some, htake, hsome, List.drop_left]
  simp

theorem exists_mark_of_marked? {rest : List Char} {n : Nat} (h : marked? name cs = some (n, rest)) :
    ∃ digits, digits ≠ [] ∧ (∀ c ∈ digits, c.isDigit = true) ∧
      cs = mark (name ++ digits) ++ rest := by
  unfold marked? at h
  cases hd : dropStart? (markOpen :: name) cs with
  | none => simp [hd] at h
  | some tail =>
      obtain ⟨after, htail⟩ := List.takeWhile_prefix (l := tail) Char.isDigit
      have hdigits : ∀ c ∈ tail.takeWhile Char.isDigit, c.isDigit = true :=
        List.all_eq_true.mp List.all_takeWhile
      simp only [hd, bind, Option.bind] at h
      generalize tail.takeWhile Char.isDigit = digits at h htail hdigits
      rw [← htail, List.drop_left] at h
      split at h
      · cases h
      · rename_i hne
        split at h
        · split at h
          · rename_i hclose
            cases h
            refine ⟨digits, by simpa using hne, hdigits, ?_⟩
            rw [eq_append_of_dropStart? hd, ← htail, hclose]
            simp [mark]
          · cases h
        · cases h

theorem IsUnmarked.marked? (h : IsUnmarked name cs) : marked? name cs = none := by
  cases hm : Markdown.marked? name cs with
  | none => rfl
  | some found =>
      obtain ⟨digits, hne, hdigits, rfl⟩ := exists_mark_of_marked? hm
      exact absurd (List.prefix_append _ _).isInfix (h digits hne hdigits)

-- A text without marks is not cut.
theorem IsUnmarked.pieces_eq {c : Char} (h : IsUnmarked name (c :: cs)) :
    pieces name (c :: cs) = [.gap (c :: cs)] :=
  pieces_eq_gap fun _ hsuffix => (h.inside hsuffix.isInfix).marked?

theorem IsUnmarked.restoreChars (h : IsUnmarked [] cs) : restoreChars cs = cs := by
  cases cs with
  | nil => rw [Markdown.restoreChars, pieces, pieces_nil]; rfl
  | cons c cs => rw [Markdown.restoreChars, h.pieces_eq, List.flatMap_singleton]

-- No character of the text is escaped.
def IsUnescaped (s : String) : Prop :=
  ∀ entity ∈ ["&lt;", "&gt;", "&amp;"], ¬ entity.toList <:+: s.toList

instance (s : String) : Decidable (IsUnescaped s) :=
  inferInstanceAs (Decidable (∀ entity ∈ ["&lt;", "&gt;", "&amp;"], ¬ entity.toList <:+: s.toList))

-- Every escaped character has its ampersand.
theorem isUnescaped_of_notMem {s : String} (h : '&' ∉ s.toList) : IsUnescaped s := by
  intro entity hentity hinside
  have hamp : '&' ∈ entity.toList := by
    simp only [List.mem_cons, List.not_mem_nil, or_false] at hentity
    rcases hentity with rfl | rfl | rfl
    all_goals decide
  exact h (hinside.subset hamp)

theorem IsUnescaped.unescapeCode {s : String} (h : IsUnescaped s) : unescapeCode s = s := by
  rw [Markdown.unescapeCode, replaceAll_eq_self _ (h "&lt;" (by simp)),
    replaceAll_eq_self _ (h "&gt;" (by simp)), replaceAll_eq_self _ (h "&amp;" (by simp))]

end ApiPages.Markdown
