import ApiPages.Markup.Tree
import ApiPages.Pattern.Reader

namespace ApiPages.Markdown

-- How the text of a match is nested.
inductive EmphasisShape where
  -- The second group inside both elements, the third one inside the outer alone.
  | both (outer inner : String)
  -- The second group inside the outer element, the third one inside both.
  | late (outer inner : String)
  | one (tag : String)

structure EmphasisRule where
  pattern : Pattern
  shape : EmphasisShape

def starRules : List EmphasisRule :=
  [⟨Pattern.ofNotation "(?s)(\\*)\\1\x7b2\x7d(.+?)\\1(.*?)\\1\x7b2\x7d", .both "strong" "em"⟩,
   ⟨Pattern.ofNotation "(?s)(\\*)\\1\x7b2\x7d(.+?)\\1\x7b2\x7d(.*?)\\1", .both "em" "strong"⟩,
   ⟨Pattern.ofNotation "(?s)(\\*)\\1(?!\\1)([^*]+?)\\1(?!\\1)(.+?)\\1\x7b3\x7d", .late "strong" "em"⟩,
   -- Emphasis around strong text.
   ⟨Pattern.ofNotation
      "(?s)(\\*)(?!\\1)([^*]+(?:\\*\x7b2\x7d(?!\\*)[^*]+\\*\x7b2\x7d[^*]*)+)\\1", .one "em"⟩,
   ⟨Pattern.ofNotation "(?s)(\\*\x7b2\x7d)(.+?)\\1", .one "strong"⟩,
   ⟨Pattern.ofNotation "(?s)(\\*)([^\\*]+)\\1", .one "em"⟩]

def lineRules : List EmphasisRule :=
  [⟨Pattern.ofNotation "(?s)(_)\\1\x7b2\x7d(.+?)\\1(.*?)\\1\x7b2\x7d", .both "strong" "em"⟩,
   ⟨Pattern.ofNotation "(?s)(_)\\1\x7b2\x7d(.+?)\\1\x7b2\x7d(.*?)\\1", .both "em" "strong"⟩,
   ⟨Pattern.ofNotation
      "(?s)(?<!\\w)(_)\\1(?!\\1)(.+?)(?<!\\w)\\1(?!\\1)(.+?)\\1\x7b3\x7d(?!\\w)",
    .late "strong" "em"⟩,
   ⟨Pattern.ofNotation "(?s)(?<!\\w)(_\x7b2\x7d)(?!_)(.+?)(?<!_)\\1(?!\\w)", .one "strong"⟩,
   ⟨Pattern.ofNotation "(?s)(?<!\\w)(_)(?!_)(.+?)(?<!_)\\1(?!\\w)", .one "em"⟩]

-- Text and elements in the order in which they stand.
inductive Run where
  | char (c : Char)
  | tree (t : Tree)

-- Put runs behind what an element holds.
def addRuns (t : Tree) (runs : List Run) : Tree :=
  runs.foldl (fun t run =>
    match run with
    | .char c => t.addText (String.singleton c)
    | .tree child => t.addChild child) t

mutual

-- The element for a match of the rule with a number; only later rules apply inside of it.
def emphasis (sign : Char) (rules : List EmphasisRule) : Nat → Nat → EmphasisShape → Place → Tree
  | 0, _, _, _ => { tag := "em" }
  | fuel + 1, index, shape, t =>
    let inside (group : Nat) : List Run :=
      runs sign rules fuel (index + 1) (Place.ofText ((t.group? group).getD []))
    match shape with
    | .one tag => addRuns { tag } (inside 2)
    | .both outer inner =>
      addRuns ({ tag := outer : Tree }.addChild (addRuns { tag := inner } (inside 2))) (inside 3)
    | .late outer inner =>
      (addRuns { tag := outer } (inside 2)).addChild (addRuns { tag := inner } (inside 3))

-- The text from a place on, with the rules from a number on applied to it.
def runs (sign : Char) (rules : List EmphasisRule) : Nat → Nat → Place → List Run
  | 0, _, s => s.rest.map .char
  | fuel + 1, start, s =>
    match s.next? with
    | none => []
    | some (c, next) =>
      if c = sign then
        -- After a match the rules that follow are tried at its end.
        let (after, found) := ((List.range rules.length).drop start).foldl (fun (s, found) index =>
          match rules[index]? with
          | none => (s, found)
          | some rule =>
            match rule.pattern.matchAt s with
            | some t => (t, found ++ [Run.tree (emphasis sign rules fuel index rule.shape t)])
            | none => (s, found)) (s, [])
        if found.isEmpty then .char c :: runs sign rules fuel start next
        else found ++ runs sign rules fuel start after
      else .char c :: runs sign rules fuel start next

end

-- The emphasis that starts at a place, and the place behind it.
def readEmphasis? (sign : Char) (rules : List EmphasisRule) (s : Place) : Option (Tree × Place) :=
  (List.range rules.length).findSome? fun index =>
    match rules[index]? with
    | none => none
    | some rule => (rule.pattern.matchAt s).map fun t =>
        (emphasis sign rules (2 * s.rest.length + 2) index rule.shape t, t)

end ApiPages.Markdown
