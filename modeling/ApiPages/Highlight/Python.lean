import ApiPages.Highlight.Lexer

namespace ApiPages.Highlight.Python

-- How the characters of a text are read.
inductive Reading where
  | raw
  | plain
  | bytes
  | formatted
  | rawFormatted
  deriving DecidableEq

structure Quotes where
  double : Bool
  triple : Bool

-- A text is read in a state of its own, which remembers the quotes that close it and how the
-- characters inside are read.
inductive State where
  | root
  | functionName
  | className
  | imports
  | importFrom
  | softKeyword
  | text (quotes : Quotes) (reading : Reading)
  -- An expression in braces inside a text, and brackets inside that.
  | field
  | fieldBrackets

def identifier : Pattern :=
  .seq (.one { tests := [.nameStart] }) (.repeated (.one { tests := [.namePart] }) 0 none true)

def identifierRule (kind : TokenKind) (change : Change State := .stay) : Rule State :=
  { pattern := identifier, action := .whole kind, change }

def constants : Rule State := wordsRule "" ["True", "False", "None"] Kinds.constant

def statementWords : List String :=
  ["assert", "async", "await", "break", "continue", "del", "elif", "else", "except", "finally",
   "for", "global", "if", "lambda", "pass", "raise", "nonlocal", "return", "try", "while", "yield",
   "yield from", "as", "with"]

def expressionWords : List String :=
  ["async for", "await", "else", "for", "if", "lambda", "yield", "yield from"]

-- The lower case words that cannot be names.
def reservedWords : List String :=
  ["and", "as", "assert", "async", "await", "break", "class", "continue", "def", "del", "elif",
   "else", "except", "finally", "for", "from", "global", "if", "import", "in", "is", "lambda",
   "nonlocal", "not", "or", "pass", "raise", "return", "try", "while", "with", "yield"]

def builtinNames : List String :=
  ["__import__", "abs", "aiter", "all", "any", "bin", "bool", "bytearray", "breakpoint", "bytes",
   "callable", "chr", "classmethod", "compile", "complex", "delattr", "dict", "dir", "divmod",
   "enumerate", "eval", "filter", "float", "format", "frozenset", "getattr", "globals", "hasattr",
   "hash", "hex", "id", "input", "int", "isinstance", "issubclass", "iter", "len", "list", "locals",
   "map", "max", "memoryview", "min", "next", "object", "oct", "open", "ord", "pow", "print",
   "property", "range", "repr", "reversed", "round", "set", "setattr", "slice", "sorted",
   "staticmethod", "str", "sum", "super", "tuple", "type", "vars", "zip"]

def magicFunctions : List String :=
  ["__abs__", "__add__", "__aenter__", "__aexit__", "__aiter__", "__and__", "__anext__",
   "__await__", "__bool__", "__bytes__", "__call__", "__complex__", "__contains__", "__del__",
   "__delattr__", "__delete__", "__delitem__", "__dir__", "__divmod__", "__enter__", "__eq__",
   "__exit__", "__float__", "__floordiv__", "__format__", "__ge__", "__get__", "__getattr__",
   "__getattribute__", "__getitem__", "__gt__", "__hash__", "__iadd__", "__iand__", "__ifloordiv__",
   "__ilshift__", "__imatmul__", "__imod__", "__imul__", "__index__", "__init__",
   "__instancecheck__", "__int__", "__invert__", "__ior__", "__ipow__", "__irshift__", "__isub__",
   "__iter__", "__itruediv__", "__ixor__", "__le__", "__len__", "__length_hint__", "__lshift__",
   "__lt__", "__matmul__", "__missing__", "__mod__", "__mul__", "__ne__", "__neg__", "__new__",
   "__next__", "__or__", "__pos__", "__pow__", "__prepare__", "__radd__", "__rand__",
   "__rdivmod__", "__repr__", "__reversed__", "__rfloordiv__", "__rlshift__", "__rmatmul__",
   "__rmod__", "__rmul__", "__ror__", "__round__", "__rpow__", "__rrshift__", "__rshift__",
   "__rsub__", "__rtruediv__", "__rxor__", "__set__", "__setattr__", "__setitem__", "__str__",
   "__sub__", "__subclasscheck__", "__truediv__", "__xor__"]

def magicFunctionRule : Rule State := wordsRule "" magicFunctions Kinds.function

-- A rule that opens a text: its letters in front, then the quotes.
def opening (letters : String) (reading : Reading) : List (Rule State) :=
  [("\"\"\"", Quotes.mk true true), ("'''", ⟨false, true⟩), ("\"", ⟨true, false⟩),
   ("'", ⟨false, false⟩)].map fun (quote, quotes) =>
    groupRule (letters ++ "(" ++ quote ++ ")") [Kinds.string, Kinds.string]
      (.enter (.text quotes reading))

def numbers : List (Rule State) :=
  [rule ("(\\d(?:_?\\d)*\\.(?:\\d(?:_?\\d)*)?|(?:\\d(?:_?\\d)*)?\\.\\d(?:_?\\d)*)" ++
      "([eE][+-]?\\d(?:_?\\d)*)?") Kinds.number,
   rule "\\d(?:_?\\d)*[eE][+-]?\\d(?:_?\\d)*j?" Kinds.number,
   rule "0[oO](?:_?[0-7])+" Kinds.number,
   rule "0[bB](?:_?[01])+" Kinds.number,
   rule "0[xX](?:_?[a-fA-F0-9])+" Kinds.number,
   rule "\\d(?:_?\\d)*" Kinds.number]

def expression : List (Rule State) :=
  opening "(?i)(rf|fr)" .rawFormatted ++ opening "([fF])" .formatted ++
  opening "(?i)(rb|br|r)" .raw ++ opening "([uU]?)" .plain ++ opening "([bB])" .bytes ++
  [rule "[^\\S\\n]+" Kinds.text] ++ numbers ++
  [rule "!=|==|<<|>>|:=|[-~+/*%=<>&^|.]" Kinds.operator,
   rule "[]\x7b\x7d:(),;[]" Kinds.punctuation,
   rule "(in|is|and|or|not)\\b" Kinds.wordOperator,
   wordsRule "" expressionWords Kinds.keyword,
   constants,
   wordsRule "(?<!\\.)" builtinNames Kinds.builtin,
   rule "(?<!\\.)(self|Ellipsis|NotImplemented|cls)\\b" Kinds.builtin,
   magicFunctionRule,
   { pattern := .seq (.ofChar '@') identifier, action := .whole Kinds.decorator },
   rule "@" Kinds.operator,
   identifierRule Kinds.name]

-- A document text stands at the start of a line.
def documentText (quote : String) : Rule State :=
  groupRule ("(?m)^(\\s*)([rRuUbB]\x7b0,2\x7d)(" ++ quote ++ "(?:.|\\n)*?" ++ quote ++ ")")
    [Kinds.blank, Kinds.string, Kinds.string]

-- Words that are keywords only at the start of a line and before something they can govern.
def softKeywords : Rule State :=
  groupRule ("(?m)(^[ \\t]*)(match|case)\\b(?![ \\t]*(?:[:,;=^&|@~)\\]\x7d]|(?:" ++
      "|".intercalate reservedWords ++ ")\\b))") [Kinds.text, Kinds.keyword] (.enter .softKeyword)

def root : List (Rule State) :=
  [rule "\\n" Kinds.blank, documentText "\"\"\"", documentText "'''",
   rule "(?m)\\A#!.+$" Kinds.comment, rule "(?m)#.*$" Kinds.comment,
   rule "\\\\\\n" Kinds.text, rule "\\\\" Kinds.text,
   wordsRule "" statementWords Kinds.keyword, constants, softKeywords,
   groupRule "(def)((?:\\s|\\\\\\s)+)" [Kinds.keyword, Kinds.text] (.enter .functionName),
   groupRule "(class)((?:\\s|\\\\\\s)+)" [Kinds.keyword, Kinds.text] (.enter .className),
   groupRule "(from)((?:\\s|\\\\\\s)+)" [Kinds.keyword, Kinds.text] (.enter .importFrom),
   groupRule "(import)((?:\\s|\\\\\\s)+)" [Kinds.keyword, Kinds.text] (.enter .imports)] ++
  expression

def softKeywordRules : List (Rule State) :=
  [{ pattern := Pattern.ofNotation "(\\s+)([^\\n_]*)(_\\b)",
     action := .groups [.kind Kinds.blank, .again, .kind Kinds.keyword] },
   otherwise .leave]

def importRules : List (Rule State) :=
  [groupRule "(\\s+)(as)(\\s+)" [Kinds.text, Kinds.keyword, Kinds.text],
   rule "\\." Kinds.name, identifierRule Kinds.name,
   groupRule "(\\s*)(,)(\\s*)" [Kinds.text, Kinds.operator, Kinds.text],
   otherwise .leave]

def importFromRules : List (Rule State) :=
  [groupRule "(\\s+)(import)\\b" [Kinds.text, Kinds.keyword] .leave,
   rule "\\." Kinds.name, rule "None\\b" Kinds.constant .leave,
   identifierRule Kinds.name, otherwise .leave]

-- Signs that stand for other characters.
def escapes : Reading → List (Rule State)
  | .raw => []
  | .rawFormatted => braces
  | .bytes => [single]
  | .plain => [named, single]
  | .formatted => braces ++ [named, single]
where
  braces := [rule "\\\x7b\\\x7b" Kinds.string, rule "\\\x7d\\\x7d" Kinds.string]
  named := rule "\\\\(N\\\x7b.*?\\\x7d|u[a-fA-F0-9]\x7b4\x7d|U[a-fA-F0-9]\x7b8\x7d)" Kinds.string
  single := rule "\\\\([\\\\abfnrtv\"']|\\n|x[a-fA-F0-9]\x7b2\x7d|[0-7]\x7b1,3\x7d)" Kinds.string

-- Characters of a text that holds expressions in braces.
def formattedRules : List (Rule State) :=
  [rule "\\\x7d" Kinds.string, rule "\\\x7b" Kinds.string (.enter .field),
   rule "[^\\\\'\"\x7b\x7d\\n]+" Kinds.string, rule "['\"\\\\]" Kinds.string]

-- Characters of any other text; both ways to write a place to fill are shown.
def plainRules : List (Rule State) :=
  [rule ("%(\\(\\w+\\))?[-#0 +]*([0-9]+|[*])?(\\.([0-9]+|[*]))?" ++
      "[hlL]?[E-GXc-giorsaux%]") Kinds.string,
   rule ("\\\x7b((\\w+)((\\.\\w+)|(\\[[^\\]]+\\]))*)?(\\![sra])?" ++
      "(\\:(.?[<>=\\^])?[-+ ]?#?0?(\\d+)?,?(\\.\\d+)?[E-GXb-gnosx%]?)?\\\x7d") Kinds.string,
   rule "[^\\\\'\"%\x7b\\n]+" Kinds.string, rule "['\"\\\\]" Kinds.string,
   rule "%|(\\\x7b\x7b1,2\x7d)" Kinds.string]

def isFormatted : Reading → Bool
  | .formatted | .rawFormatted => true
  | _ => false

def textRules (quotes : Quotes) (reading : Reading) : List (Rule State) :=
  let mark := if quotes.double then "\"" else "'"
  let inside := if isFormatted reading then formattedRules else plainRules
  if quotes.triple then
    escapes reading ++ [rule (mark ++ mark ++ mark) Kinds.string .leave] ++ inside ++
      [rule "\\n" Kinds.string]
  else
    escapes reading ++ [rule mark Kinds.string .leave,
      rule ("\\\\\\\\|\\\\" ++ mark ++ "|\\\\\\n") Kinds.string] ++ inside

def fieldRules : List (Rule State) :=
  [rule "[\x7b([]" Kinds.punctuation (.enter .fieldBrackets),
   rule "(=\\s*)?(\\![sraf])?\\\x7d" Kinds.string .leave,
   rule "(=\\s*)?(\\![sraf])?:" Kinds.string .leave,
   rule "\\s+" Kinds.blank] ++ expression

def fieldBracketsRules : List (Rule State) :=
  [rule "[\x7b([]" Kinds.punctuation (.enter .fieldBrackets),
   rule "[])\x7d]" Kinds.punctuation .leave,
   rule "\\s+" Kinds.blank] ++ expression

def rules : State → List (Rule State)
  | .root => root
  | .functionName => [magicFunctionRule, identifierRule Kinds.function .leave, otherwise .leave]
  | .className => [identifierRule Kinds.class_ .leave]
  | .imports => importRules
  | .importFrom => importFromRules
  | .softKeyword => softKeywordRules
  | .text quotes reading => textRules quotes reading
  | .field => fieldRules
  | .fieldBrackets => fieldBracketsRules

def lexer : Lexer State := { first := .root, rules }

end ApiPages.Highlight.Python
