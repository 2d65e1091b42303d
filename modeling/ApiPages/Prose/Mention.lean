import ApiPages.Anchor
import ApiPages.Text.Piece

namespace ApiPages.Prose

def mentionOpen : List Char := "\x7b@link ".toList

def mentionClose : Char := '\x7d'

def isNameChar (c : Char) : Bool := Text.isWord c || c == '#' || c == '.'

-- The name in a mention that a text starts with, and the rest of the text.
def mention? (cs : List Char) : Option (List Char × List Char) := do
  let rest ← Text.dropStart? mentionOpen cs
  let name := rest.takeWhile isNameChar
  if name.isEmpty then none
  match rest.drop name.length with
  | c :: rest => if c = mentionClose then some (name, rest) else none
  | [] => none

theorem mention?_length {cs name rest : List Char} (h : mention? cs = some (name, rest)) :
    rest.length < cs.length := by
  unfold mention? at h
  cases hd : Text.dropStart? mentionOpen cs with
  | none => simp [hd] at h
  | some tail =>
    have hlen := Text.dropStart?_length hd
    simp only [hd, bind, Option.bind] at h
    split at h
    · simp at h
    · split at h
      · rename_i c rest' heq
        split at h
        · cases h
          have := congrArg List.length heq
          simp only [List.length_drop, List.length_cons] at this
          omega
        · simp at h
      · simp at h

-- Cut a text at its mentions.
def mentions (cs : List Char) : List (Text.Piece (List Char)) :=
  Text.pieces mention? (fun _ _ _ h => mention?_length h) cs

-- The Markdown link for a name.
def linkText (name : List Char) : List Char :=
  "[`".toList ++ name ++ "`](#".toList ++ (Anchor.ofMention (String.ofList name)).toList ++ [')']

def linkMentions (s : String) : String :=
  String.ofList <| (mentions s.toList).flatMap fun piece =>
    match piece with
    | .gap text => text
    | .token name => linkText name

end ApiPages.Prose
