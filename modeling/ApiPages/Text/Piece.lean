import ApiPages.Text.Scan

namespace ApiPages.Text

theorem dropStart?_length {start cs rest : List Char} (h : dropStart? start cs = some rest) :
    rest.length + start.length = cs.length := by
  induction start generalizing cs with
  | nil =>
    simp only [dropStart?, Option.some.injEq] at h
    simp [h]
  | cons p ps ih =>
    cases cs with
    | nil => simp [dropStart?] at h
    | cons c cs =>
      simp only [dropStart?] at h
      split at h
      · have := ih h
        simp only [List.length_cons]
        omega
      · simp at h

-- A stretch of text without a token, or what a token says.
inductive Piece (α : Type) where
  | gap (text : List Char)
  | token (value : α)

-- Put a character in front of the first gap.
def addChar {α : Type} (c : Char) : List (Piece α) → List (Piece α)
  | .gap text :: rest => .gap (c :: text) :: rest
  | pieces => .gap [c] :: pieces

-- Cut a text at the tokens that `read?` finds, none of which is empty.
def pieces {α : Type} (read? : List Char → Option (α × List Char))
    (shorter : ∀ cs value rest, read? cs = some (value, rest) → rest.length < cs.length)
    (cs : List Char) : List (Piece α) :=
  match cs with
  | [] => []
  | c :: rest =>
    match _h : read? (c :: rest) with
    | some (value, after) => .token value :: pieces read? shorter after
    | none => addChar c (pieces read? shorter rest)
termination_by cs.length
decreasing_by
  · exact shorter _ _ _ (by assumption)
  · simp

end ApiPages.Text
