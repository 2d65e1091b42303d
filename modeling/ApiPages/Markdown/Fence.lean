import ApiPages.Markdown.Source
import ApiPages.Pattern.Reader

namespace ApiPages.Markdown

-- The groups are the fence, the options in braces, the language, a quote and the code.
def fencePattern : Pattern := Pattern.ofNotation
  ("(?ms)(^(?:~\x7b3,\x7d|`\x7b3,\x7d))[ ]*" ++
    "(?:(?:\\\x7b([^\\n]*)\\\x7d)|(?:\\.?([\\w#.+-]*)[ ]*)?(?:hl_lines=(\"|').*?\\4[ ]*)?)" ++
    "\\n(.*?)(?<=\\n)\\1[ ]*$")

-- An option in braces.
inductive FenceOption where
  | className (name : List Char)
  | id (name : List Char)
  | other

-- Values in quotes, values without, single words: the first that fits counts.
def quotedOption : Pattern := Pattern.ofNotation "[^ =\x7d]+=\".*?\"|[^ =\x7d]+='.*?'"

def valueOption : Pattern := Pattern.ofNotation "[^ =\x7d]+=[^ =\x7d]+"

def wordOption : Pattern := Pattern.ofNotation "[^ =\x7d]+"

-- The options of a fence, and the text from the first place that is none.
def readOptions : Nat → List FenceOption → Place → List FenceOption × List Char
  | 0, acc, s => (acc.reverse, s.rest)
  | fuel + 1, acc, s =>
    let split (t : Place) : List Char × List Char :=
      let text := Pattern.between s t
      (text.takeWhile (· ≠ '='), (text.dropWhile (· ≠ '=')).drop 1)
    let named (name value : List Char) : FenceOption :=
      if name = "id".toList then .id value
      else if name = ['.'] then .className value
      else .other
    match quotedOption.matchAt s with
    | some t =>
      let (name, value) := split t
      let isQuote (c : Char) : Bool := some c = value.head?
      readOptions fuel (named name (Text.trimWhile isQuote value) :: acc) t
    | none =>
      match valueOption.matchAt s with
      | some t =>
        let (name, value) := split t
        readOptions fuel (named name value :: acc) t
      | none =>
        match wordOption.matchAt s with
        | some t =>
          let option : FenceOption := match Pattern.between s t with
            | '.' :: name => .className name
            | '#' :: name => .id name
            | _ => .other
          readOptions fuel (option :: acc) t
        | none =>
          match s.next? with
          | some (' ', s) => readOptions fuel acc s
          | _ => (acc.reverse, s.rest)

def escapeFenced (cs : List Char) : List Char :=
  cs.flatMap fun c =>
    match c with
    | '&' => "&amp;".toList
    | '<' => "&lt;".toList
    | '>' => "&gt;".toList
    | '"' => "&quot;".toList
    | c => [c]

-- A reference in an attribute value stays as it is.
def referencePattern : Pattern := Pattern.ofNotation "(?i)&(?:#[0-9]+|#x[0-9a-f]+|[0-9a-z]+);"

-- Escape a text for an attribute value or, without quotes, for content.
def escapeMarkup (quotes : Bool) (before : List Char) : List Char → List Char
  | [] => []
  | c :: rest =>
    let escaped : List Char := match c with
      | '&' =>
        if (referencePattern.matchAt { before, rest := c :: rest }).isSome then [c]
        else "&amp;".toList
      | '<' => "&lt;".toList
      | '>' => "&gt;".toList
      | '"' => if quotes then "&quot;".toList else [c]
      | c => [c]
    escaped ++ escapeMarkup quotes (c :: before) rest

def attributeText (name : String) (value : List Char) : List Char :=
  " ".toList ++ name.toList ++ "=\"".toList ++ escapeMarkup true [] value ++ ['"']

-- The raw HTML of a fenced block.
def fencedHtml (language : List Char) (options : List FenceOption) (code : List Char) : List Char :=
  let classes := options.filterMap fun option =>
    match option with
    | .className name => some name
    | _ => none
  let id := options.foldl (fun found option =>
    match option with
    | .id name => name
    | _ => found) []
  let (language, classes) := match classes with
    | first :: rest => (first, rest)
    | [] => (language, [])
  let idText := if id.isEmpty then [] else attributeText "id" id
  let classText :=
    if classes.isEmpty then [] else attributeText "class" (Text.joinWith [' '] classes)
  let languageText :=
    if language.isEmpty then [] else attributeText "class" ("language-".toList ++ language)
  "<pre".toList ++ idText ++ classText ++ "><code".toList ++ languageText ++ ['>'] ++
    escapeFenced code ++ "</code></pre>".toList

-- The characters between two places in reverse order, put before others.
def passed (s t : Place) (acc : List Char) : List Char := (Pattern.between s t).reverse ++ acc

-- Replace the fenced blocks from a place on by marks. The text so far is kept last first.
def fenceFrom : Nat → List String → List Char → Place → List String × List Char
  | 0, raw, acc, s => (raw, acc.reverse ++ s.rest)
  | fuel + 1, raw, acc, s =>
    match fencePattern.search s with
    | none => (raw, acc.reverse ++ s.rest)
    | some (start, t) =>
      let group (index : Nat) : List Char := (t.group? index).getD []
      let options := match t.group? 2 with
        | none => some []
        | some [] => some []
        | some text =>
          let (options, rest) := readOptions (text.length + 1) [] (Place.ofText text)
          if rest.contains '}' then none else some options
      match options with
      | some options =>
        let html := fencedHtml (group 3) options (group 5)
        let mark := rawMark raw.length
        let acc := mark.reverse ++ '\n' :: passed s start acc
        -- The search goes on right before the line feed that follows the mark.
        fenceFrom fuel (raw ++ [String.ofList html]) acc { before := acc, rest := '\n' :: t.rest }
      | none =>
        -- Braces that do not match are no options: go on behind them.
        let fence := group 1
        let blanks := (start.rest.drop fence.length).takeWhile (· = ' ')
        let skip := fence.length + blanks.length + 1 + (group 2).length
        let next := start.advance skip
        fenceFrom fuel raw (passed s next acc) next

def fence (raw : List String) (cs : List Char) : List String × List Char :=
  fenceFrom (cs.length + 1) raw [] (Place.ofText cs)

end ApiPages.Markdown
