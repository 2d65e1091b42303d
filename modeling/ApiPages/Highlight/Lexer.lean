import ApiPages.Highlight.Token
import ApiPages.Pattern.Reader

namespace ApiPages.Highlight

-- What becomes of the text of a match or of a group.
inductive Part where
  | kind (kind : TokenKind)
  -- The text is read by the same lexer from its first state on.
  | again

inductive Action where
  | whole (kind : TokenKind)
  | groups (parts : List Part)

inductive Change (σ : Type) where
  | stay
  | enter (state : σ)
  | leave
  | replace (state : σ)

structure Rule (σ : Type) where
  pattern : Pattern
  action : Action
  change : Change σ := .stay

-- In each state the first rule that matches gives the tokens and may enter or leave states; where
-- no rule matches, a line feed leaves all states and any other character is an error of its own.
structure Lexer (σ : Type) where
  first : σ
  rules : σ → List (Rule σ)

namespace Lexer

variable {σ : Type}

def applyChange (first : σ) (states : List σ) : Change σ → List σ
  | .stay => states
  | .enter state => state :: states
  | .leave => if states.length > 1 then states.drop 1 else states
  | .replace state =>
    let rest := if states.length > 1 then states.drop 1 else states
    state :: if rest.isEmpty then [first] else rest

def tokens (lexer : Lexer σ) : Nat → List σ → Place → List Token
  | 0, _, s => [⟨Kinds.error, String.ofList s.rest⟩]
  | fuel + 1, states, s =>
    let state := states.headD lexer.first
    match (lexer.rules state).findSome? fun rule => (rule.pattern.matchAt s).map (rule, ·) with
    | some (rule, t) =>
      let found := match rule.action with
        | .whole kind => [⟨kind, String.ofList (Pattern.between s t)⟩]
        | .groups parts => parts.zipIdx.flatMap fun (part, i) =>
            match part, t.group? (i + 1) with
            | _, none => []
            | .kind kind, some text => [⟨kind, String.ofList text⟩]
            | .again, some text => tokens lexer fuel [lexer.first] (Place.ofText text)
      found ++ tokens lexer fuel (applyChange lexer.first states rule.change) t
    | none =>
      match s.next? with
      | none => []
      | some ('\n', s) => ⟨Kinds.blank, "\n"⟩ :: tokens lexer fuel [lexer.first] s
      | some (c, s) => ⟨Kinds.error, String.singleton c⟩ :: tokens lexer fuel states s

def read (lexer : Lexer σ) (code : List Char) : List Token :=
  lexer.tokens (4 * code.length + 100) [lexer.first] (Place.ofText code)

end Lexer

-- A rule that gives one token.
def rule {σ : Type} (notation_ : String) (kind : TokenKind) (change : Change σ := .stay) : Rule σ :=
  { pattern := Pattern.ofNotation notation_, action := .whole kind, change }

-- A rule that gives a token for each of its groups.
def groupRule {σ : Type} (notation_ : String) (kinds : List TokenKind)
    (change : Change σ := .stay) : Rule σ :=
  { pattern := Pattern.ofNotation notation_, action := .groups (kinds.map .kind), change }

-- A rule that only changes the state.
def otherwise {σ : Type} (change : Change σ) : Rule σ :=
  { pattern := .empty, action := .groups [], change }

-- A rule for words with what may stand around them.
def wordsRule {σ : Type} (before : String) (words : List String) (kind : TokenKind) : Rule σ :=
  rule (before ++ "(?:" ++ "|".intercalate (words.mergeSort fun a b => b.length ≤ a.length) ++ ")\\b")
    kind

end ApiPages.Highlight
