import ContentSearch.Pattern.Regex

/-!
# LIKE patterns

In the patterns of `LIKE` a percent sign stands for any text and an underscore for any character.
A backslash makes the next character literal; at the end of the pattern it stands for itself.
-/

namespace ContentSearch.Like

/-- The pattern that every text matches. -/
def matchAll : String := "%"

/-- What the pattern stands for, step by step. -/
def steps : List Char → Pattern
  | [] => []
  | ['\\'] => [.char '\\']
  | '\\' :: c :: rest => .char c :: steps rest
  | '%' :: rest => .anyText :: steps rest
  | '_' :: rest => .anyChar :: steps rest
  | c :: rest => .char c :: steps rest

/-- A step in the language of regular expressions. -/
def stepText : Step → List Char
  | .char c => Regex.literal c
  | .anyChar => ['.']
  | .anyText => ['.', '*']

/-- The regular expression that the same texts match. -/
def regex (pattern : String) : String :=
  String.ofList ('^' :: ((steps pattern.toList).flatMap stepText ++ ['$']))

end ContentSearch.Like
