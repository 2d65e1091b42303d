import ApiPages.Highlight.Data
import ApiPages.Highlight.Python
import ApiPages.Highlight.Script
import ApiPages.Text.Lower

namespace ApiPages.Highlight

inductive Language where
  | script
  | python
  | data
  | plain
  deriving DecidableEq, Repr

namespace Language

def names : List (String × Language) :=
  [("javascript", script), ("js", script), ("python", python), ("py", python), ("json", data),
   ("text", plain)]

-- The case of a name does not matter.
def ofName? (name : String) : Option Language := names.lookup (Text.lower name)

def tokens (language : Language) (code : List Char) : List Token :=
  match language with
  | script => Script.lexer.read code
  | python => Python.lexer.read code
  | data => Data.read code
  | plain => [⟨Kinds.text, String.ofList code⟩]

end Language

-- Code without a byte order mark, with line feeds as its only line ends.
def normalize (code : String) : List Char :=
  Text.unifyLineEnds <| match code.toList with
    | '\ufeff' :: rest => rest
    | cs => cs

-- Code as nodes: a span for every token that has a class.
def code (mark source : String) (language : Option String) : List Node :=
  match language.bind Language.ofName? with
  | none => [.text source]
  | some language => tokenNodes mark (language.tokens (normalize source))

end ApiPages.Highlight
