import ApiPages.Text.Piece

namespace ApiPages.Text

variable {α : Type}

def tokens : List (Piece α) → List α
  | [] => []
  | .gap _ :: rest => tokens rest
  | .token value :: rest => value :: tokens rest

def gaps : List (Piece α) → List Char
  | [] => []
  | .gap text :: rest => text ++ gaps rest
  | .token _ :: rest => gaps rest

@[simp] theorem tokens_append (pieces others : List (Piece α)) :
    tokens (pieces ++ others) = tokens pieces ++ tokens others := by
  induction pieces with
  | nil => rfl
  | cons piece rest ih => cases piece <;> simp [tokens, ih]

@[simp] theorem tokens_addChar (c : Char) (pieces : List (Piece α)) :
    tokens (addChar c pieces) = tokens pieces := by
  cases pieces with
  | nil => rfl
  | cons piece rest => cases piece <;> rfl

@[simp] theorem gaps_addChar (c : Char) (pieces : List (Piece α)) :
    gaps (addChar c pieces) = c :: gaps pieces := by
  cases pieces with
  | nil => rfl
  | cons piece rest => cases piece <;> rfl

variable {read? : List Char → Option (α × List Char)}
  {shorter : ∀ cs value rest, read? cs = some (value, rest) → rest.length < cs.length}

@[simp] theorem pieces_nil : pieces read? shorter [] = [] := by rw [pieces]

theorem pieces_of_some {cs rest : List Char} {value : α} (h : read? cs = some (value, rest)) :
    pieces read? shorter cs = .token value :: pieces read? shorter rest := by
  cases cs with
  | nil => exact absurd (shorter _ _ _ h) (Nat.not_lt_zero _)
  | cons c cs =>
      rw [pieces]
      split
      · rename_i found after hfound
        rw [hfound] at h
        cases h
        rfl
      · rename_i hnone
        rw [hnone] at h
        cases h

theorem pieces_of_none {c : Char} {cs : List Char} (h : read? (c :: cs) = none) :
    pieces read? shorter (c :: cs) = addChar c (pieces read? shorter cs) := by
  rw [pieces]
  split
  · rename_i found after hfound
    rw [hfound] at h
    cases h
  · rfl

-- A text in which no token begins anywhere is one gap.
theorem pieces_eq_gap {c : Char} {cs : List Char}
    (h : ∀ rest, rest <:+ c :: cs → read? rest = none) :
    pieces read? shorter (c :: cs) = [.gap (c :: cs)] := by
  induction cs generalizing c with
  | nil => rw [pieces_of_none (h [c] (List.suffix_refl _)), pieces_nil]; rfl
  | cons d cs ih =>
      rw [pieces_of_none (h _ (List.suffix_refl _)),
        ih fun rest hrest => h rest (hrest.trans (List.suffix_cons c _))]
      rfl

end ApiPages.Text
