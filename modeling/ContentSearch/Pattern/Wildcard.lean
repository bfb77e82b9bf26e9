import ContentSearch.Pattern.Regex

/-!
# Wildcard patterns

In wildcard patterns a star stands for any text and a question mark for any character. A backslash
makes the next character literal; at the end of the pattern it stands for nothing.
-/

namespace ContentSearch.Wildcard

/-- What the pattern stands for, step by step. -/
def steps : List Char → Pattern
  | [] => []
  | ['\\'] => []
  | '\\' :: c :: rest => .char c :: steps rest
  | '*' :: rest => .anyText :: steps rest
  | '?' :: rest => .anyChar :: steps rest
  | c :: rest => .char c :: steps rest

/-- Characters that are written with a backslash in the regular expression. -/
def isMeta (c : Char) : Bool :=
  Regex.isOperator c || [']', '\x7d', '#', '&', '-', '~'].contains c

/-- A step in the language of regular expressions. -/
def stepText : Step → List Char
  | .char c => if isMeta c then ['\\', c] else [c]
  | .anyChar => ['.']
  | .anyText => ['.', '*']

/-- The regular expression that the same texts match. -/
def regex (pattern : String) : String :=
  String.ofList ('^' :: ((steps pattern.toList).flatMap stepText ++ ['$']))

/-- Characters that have a meaning of their own in wildcard patterns. -/
def isSpecial (c : Char) : Bool :=
  c == '*' || c == '?' || c == '\\'

/-- The pattern that only the given text matches. -/
def escape (s : String) : String :=
  String.ofList (s.toList.flatMap fun c => if isSpecial c then ['\\', c] else [c])

end ContentSearch.Wildcard
