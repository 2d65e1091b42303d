import ApiPages.Text.Piece

namespace ApiPages.Markdown

-- Control characters around a name or a number stand for something that is kept elsewhere, or for a
-- character that is not markup. The source itself holds no such control characters.
def markOpen : Char := '\x02'

def markClose : Char := '\x03'

def mark (content : List Char) : List Char := markOpen :: content ++ [markClose]

def numberText (n : Nat) : List Char := (toString n).toList

def rawName : List Char := "wzxhzdk:".toList

def nodeName : List Char := "klzzwxh:".toList

-- The mark of a piece of raw HTML.
def rawMark (index : Nat) : List Char := mark (rawName ++ numberText index)

-- The mark of an inline element.
def nodeMark (index : Nat) : List Char :=
  mark (nodeName ++ Text.padLeft 4 '0' (numberText index))

-- The mark of a character that is not markup.
def charMark (c : Char) : List Char := mark (numberText c.toNat)

-- The mark of an ampersand that is not escaped.
def ampMark : List Char := mark "amp".toList

-- The number in a mark with a name that a text starts with, and the rest of the text.
def marked? (name : List Char) (cs : List Char) : Option (Nat × List Char) := do
  let rest ← Text.dropStart? (markOpen :: name) cs
  let digits := rest.takeWhile Char.isDigit
  if digits.isEmpty then none
  match rest.drop digits.length with
  | c :: rest => if c = markClose then some (Text.numeral 10 digits, rest) else none
  | [] => none

theorem marked?_length {name cs rest : List Char} {n : Nat} (h : marked? name cs = some (n, rest)) :
    rest.length < cs.length := by
  unfold marked? at h
  cases hd : Text.dropStart? (markOpen :: name) cs with
  | none => simp [hd] at h
  | some tail =>
    have hlen := Text.dropStart?_length hd
    simp only [hd, bind, Option.bind] at h
    split at h
    · simp at h
    · split at h
      · rename_i c rest' heq
        split at h
        · cases h
          have := congrArg List.length heq
          simp only [List.length_drop, List.length_cons] at this hlen
          omega
        · simp at h
      · simp at h

-- Cut a text at the marks with a name.
def pieces (name : List Char) (cs : List Char) : List (Text.Piece Nat) :=
  Text.pieces (marked? name) (fun _ _ _ h => marked?_length h) cs

-- The characters that the marks of characters stand for; a number beyond all characters stays.
def restoreChars (cs : List Char) : List Char :=
  (pieces [] cs).flatMap fun piece =>
    match piece with
    | .gap text => text
    | .token code => if code.isValidChar then [Char.ofNat code] else mark (numberText code)

-- Escape the characters that would be markup in HTML.
def escapeCode (s : String) : String :=
  Text.replaceAll ">" "&gt;" (Text.replaceAll "<" "&lt;" (Text.replaceAll "&" "&amp;" s))

def unescapeCode (s : String) : String :=
  Text.replaceAll "&amp;" "&" (Text.replaceAll "&gt;" ">" (Text.replaceAll "&lt;" "<" s))

end ApiPages.Markdown
