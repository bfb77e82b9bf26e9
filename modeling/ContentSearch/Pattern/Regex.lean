import ContentSearch.Pattern
import ContentSearch.Text.Alphanumeric

/-!
# Regular expressions

The written form of patterns: a point stands for any character, a point and a star for any text, a
backslash makes the punctuation after it literal, and all other characters stand for themselves.
The two anchors bind the pattern to the ends of the text; where one is missing, any text may
stand before or after the match. The remaining operators of regular expressions are not part of
this language.
-/

namespace ContentSearch

/-- An expression that cannot be read. -/
structure InvalidPattern where
  expression : String
  deriving DecidableEq

/-- The wording of an unreadable expression. -/
def InvalidPattern.message (e : InvalidPattern) : String :=
  s!"invalid pattern '{e.expression}'"

namespace Regex

/-! ## Characters -/

/-- Characters that mean something else than themselves when they stand alone. -/
def isOperator (c : Char) : Bool :=
  ['\\', '.', '+', '*', '?', '(', ')', '|', '[', '\x7b', '^', '$'].contains c

/-- Characters that a backslash makes literal: the punctuation of ASCII but for the angle
brackets, and the characters of ASCII that are no letters or digits. -/
def isEscapable (c : Char) : Bool :=
  Nat.blt c.toNat 128 && !c.isAlphanum && c != '<' && c != '>'

/-- A character that stands for itself, behind a backslash where one is allowed. -/
def literal (c : Char) : List Char :=
  if !Text.isAlphanumeric c && isEscapable c then ['\\', c] else [c]

/-! ## Reading -/

/-- The steps up to the end of the expression; a dollar sign may end it. -/
def steps? : List Char → Option Pattern
  | [] => some [.anyText]
  | ['$'] => some []
  | '.' :: '*' :: rest => (steps? rest).map (.anyText :: ·)
  | '.' :: rest => (steps? rest).map (.anyChar :: ·)
  | '\\' :: c :: rest => if isEscapable c then (steps? rest).map (.char c :: ·) else none
  | c :: rest => if isOperator c then none else (steps? rest).map (.char c :: ·)

/-- The pattern of an expression. -/
def pattern? (expression : String) : Option Pattern :=
  match expression.toList with
  | '^' :: rest => steps? rest
  | cs => (steps? cs).map (.anyText :: ·)

/-- The pattern of an expression, or what cannot be read. -/
def read (expression : String) : Except InvalidPattern Pattern :=
  match pattern? expression with
  | some p => .ok p
  | none => .error ⟨expression⟩

/-! ## Engines -/

/-- What turns expressions into tests of texts. An index works with any engine. -/
structure Engine where
  compile : (expression : String) → (caseSensitive : Bool) →
    Except InvalidPattern (String → Bool)

/-- The engine of the expressions above. -/
def engine : Engine :=
  ⟨fun expression caseSensitive => (read expression).map fun p => p.matchesText caseSensitive⟩

end Regex

end ContentSearch
