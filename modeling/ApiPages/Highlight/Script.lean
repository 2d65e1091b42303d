import ApiPages.Highlight.Lexer

namespace ApiPages.Highlight.Script

inductive State where
  | root
  -- Where a slash opens a regular expression.
  | beforeSlash
  | brokenSlash
  | template
  | insideTemplate

def identifier : Pattern :=
  let escape := Pattern.ofNotation "\\\\u[a-fA-F0-9]\x7b4\x7d"
  let start : Pattern := .one { tests := [.letter, .char '$', .char '_'] }
  let part : Pattern := .one
    { tests := [.letter, .char '$', .mark, .digit, .connector, .char '\u200c', .char '\u200d'] }
  .seq (.either start escape) (.repeated (.either part escape) 0 none true)

def spaceAndComments : List (Rule State) :=
  [rule "\\s+" Kinds.blank, rule "<!--" Kinds.comment, rule "(?ms)//.*?$" Kinds.comment,
   rule "(?s)/\\*.*?\\*/" Kinds.comment]

def keywords : String :=
  "(for|in|while|do|break|return|continue|switch|case|default|if|else|throw|try|catch|finally|" ++
  "yield|await|async|this|of|static|export|import|debugger|extends|super)\\b"

def reserved : String :=
  "(abstract|boolean|byte|char|double|enum|final|float|goto|implements|int|interface|long|" ++
  "native|package|private|protected|public|short|synchronized|throws|transient|volatile)\\b"

def builtins : String :=
  "(Array|Boolean|Date|BigInt|Function|Math|ArrayBuffer|Number|Object|RegExp|String|Promise|" ++
  "Proxy|decodeURI|decodeURIComponent|encodeURI|encodeURIComponent|eval|isFinite|isNaN|parseFloat|" ++
  "parseInt|DataView|document|window|globalThis|global|Symbol|Intl|WeakSet|WeakMap|Set|Map|" ++
  "Reflect|JSON|Atomics|Int(?:8|16|32)Array|BigInt64Array|Float32Array|Float64Array|" ++
  "Uint8ClampedArray|Uint(?:8|16|32)Array|BigUint64Array)\\b"

def operators : String :=
  "(?s)\\+\\+|--|~|\\?\\?=?|\\?|:|\\\\(?=\\n)|" ++
  "(<<|>>>?|==?|!=?|(?:\\*\\*|\\|\\||&&|[-<>+*%&|^/]))=?"

def root : List (Rule State) :=
  [rule "(?ms)\\A#! ?/.*?$" Kinds.comment,
   rule "(?m)^(?=\\s|/|<!--)" Kinds.text (.enter .beforeSlash)] ++
  spaceAndComments ++
  [rule "0[bB][01]+n?" Kinds.number,
   rule "0[oO]?[0-7]+n?" Kinds.number,
   rule "0[xX][0-9a-fA-F]+n?" Kinds.number,
   rule "[0-9]+n" Kinds.number,
   rule "(\\.[0-9]+|[0-9]+\\.[0-9]*|[0-9]+)([eE][-+]?[0-9]+)?" Kinds.number,
   rule "\\.\\.\\.|=>" Kinds.punctuation,
   rule operators Kinds.operator (.enter .beforeSlash),
   rule "[\x7b(\\[;,]" Kinds.punctuation (.enter .beforeSlash),
   rule "[\x7d)\\].]" Kinds.punctuation,
   rule "(typeof|instanceof|in|void|delete|new)\\b" Kinds.wordOperator (.enter .beforeSlash),
   rule "\\b(constructor|from|as)\\b" Kinds.keyword,
   rule keywords Kinds.keyword (.enter .beforeSlash),
   rule "(var|let|const|with|function|class)\\b" Kinds.keyword (.enter .beforeSlash),
   rule reserved Kinds.keyword,
   rule "(true|false|null|NaN|Infinity|undefined)\\b" Kinds.constant,
   rule builtins Kinds.builtin,
   rule "((?:Eval|Internal|Range|Reference|Syntax|Type|URI)?Error)\\b" Kinds.name,
   groupRule "(super)(\\s*)(\\([\\w,?.$\\s]+\\s*\\))" [Kinds.keyword, Kinds.blank]
     (.enter .beforeSlash),
   rule "([a-zA-Z_?.$][\\w?.$]*)(?=\\(\\) \\\x7b)" Kinds.name (.enter .beforeSlash),
   { pattern := identifier, action := .whole Kinds.name },
   rule "\"(\\\\\\\\|\\\\[^\\\\]|[^\"\\\\])*\"" Kinds.string,
   rule "'(\\\\\\\\|\\\\[^\\\\]|[^'\\\\])*'" Kinds.string,
   rule "`" Kinds.string (.enter .template),
   rule "#[a-zA-Z_]\\w*" Kinds.name]

def rules : State → List (Rule State) :=
  -- Kept here so that the patterns are read once.
  let beforeSlash := spaceAndComments ++
    [rule "(?s)/(\\\\.|[^[/\\\\\\n]|\\[(\\\\.|[^\\]\\\\\\n])*])+/([gimuysd]+\\b|\\B)" Kinds.regex
       .leave,
     rule "(?=/)" Kinds.text (.replace .brokenSlash),
     otherwise .leave]
  let template : List (Rule State) :=
    [rule "`" Kinds.string .leave,
     rule "(?s)\\\\." Kinds.string,
     rule "\\$\\\x7b" Kinds.string (.enter .insideTemplate),
     rule "\\$" Kinds.string,
     rule "[^`\\\\$]+" Kinds.string]
  let insideTemplate := rule "\\\x7d" Kinds.string .leave :: root
  fun
  | .root => root
  | .beforeSlash => beforeSlash
  | .brokenSlash => [rule "\\n" Kinds.blank .leave]
  | .template => template
  | .insideTemplate => insideTemplate

def lexer : Lexer State := { first := .root, rules }

end ApiPages.Highlight.Script
