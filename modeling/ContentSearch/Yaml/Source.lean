/-!
# Texts with places

The characters of a text with the places where they stand. What a character means depends on its
column and on what stands before it on its line, so both are kept beside it.
-/

namespace ContentSearch.Yaml

/-! ## Characters -/

/-- Spaces and tabs. -/
def isBlank (c : Char) : Bool :=
  c == ' ' || c == '\t'

/-- The mark behind the last character of a text. -/
def endMark : Char := '\x00'

/-- Whether a line ends here. -/
def isLineEnd (c : Char) : Bool :=
  c == '\n' || c == endMark

/-- Whether a word ends here. -/
def isGap (c : Char) : Bool :=
  isBlank c || isLineEnd c

/-- The marks of lists and mappings in brackets. -/
def isFlowMark (c : Char) : Bool :=
  c == ',' || c == '[' || c == ']' || c == '\x7b' || c == '\x7d'

/-- Letters, digits, hyphens and underscores of ASCII. -/
def isNameChar (c : Char) : Bool :=
  c.isAlphanum || c == '-' || c == '_'

/-! ## Places -/

/-- A character and its place. -/
structure Placed where
  char : Char
  line : Nat
  column : Nat
  /-- Whether nothing but blanks stands before it on its line. -/
  leads : Bool

/-- What is left of a text. The end mark stands at its end. -/
abbrev Source := List Placed

namespace Source

/-- Gives the characters their places. An end of line is a line feed, a carriage return or both; a
null character ends the text. -/
def place (line column : Nat) (leads : Bool) : List Char → Source
  | [] => [⟨endMark, line, column, leads⟩]
  | '\r' :: '\n' :: cs => ⟨'\n', line, column, leads⟩ :: place (line + 1) 0 true cs
  | c :: cs =>
    if c = endMark then [⟨endMark, line, column, leads⟩]
    else if c = '\n' ∨ c = '\r' then ⟨'\n', line, column, leads⟩ :: place (line + 1) 0 true cs
    else ⟨c, line, column, leads⟩ :: place line (column + 1) (leads && isBlank c) cs

/-- The characters of a text in their places. -/
def ofText (s : String) : Source :=
  place 0 0 true s.toList

/-- The character at hand and its place. -/
def head (s : Source) : Placed :=
  s.headD ⟨endMark, 0, 0, true⟩

/-- The character at hand. -/
def char (s : Source) : Char :=
  s.head.char

/-- The character behind the one at hand. -/
def next (s : Source) : Char :=
  Source.char s.tail

/-- Whether three characters of a kind stand alone at the beginning of a line: a mark between
documents. -/
def atMark (mark : Char) (s : Source) : Bool :=
  s.head.column == 0 && (s.take 3).map (·.char) == [mark, mark, mark]
    && isGap (Source.char (s.drop 3))

/-- Whether a mark before or behind a document is at hand. -/
def atDocumentMark (s : Source) : Bool :=
  s.atMark '-' || s.atMark '.'

/-- The rest of a line is dropped. -/
def skipLine (s : Source) : Source :=
  s.dropWhile fun p => !isLineEnd p.char

/-- The blanks are dropped. -/
def skipBlanks (s : Source) : Source :=
  s.dropWhile fun p => isBlank p.char

end Source

/-! ## Gaps -/

/-- What follows the blanks behind a token on its line, and which blanks they were. -/
structure Gap where
  rest : Source
  hasSpace : Bool
  hasTab : Bool

/-- Drops the blanks on a line and a comment behind them; a comment has a blank before it. -/
def gap? (hasSpace hasTab : Bool) : Source → Option Gap
  | [] => some ⟨[], hasSpace, hasTab⟩
  | p :: s =>
    if p.char = ' ' then gap? true hasTab s
    else if p.char = '\t' then gap? hasSpace true s
    else if p.char = '#' then
      if hasSpace || hasTab then some ⟨Source.skipLine s, hasSpace, hasTab⟩ else none
    else some ⟨p :: s, hasSpace, hasTab⟩

/-- What follows the blanks behind a token on its line. -/
def behind? (s : Source) : Option Source :=
  (gap? false false s).map (·.rest)

/-- Drops spaces, ends of lines and comments. -/
def skipLines (inComment : Bool) : Source → Source
  | [] => []
  | p :: s =>
    if p.char = endMark then p :: s
    else if p.char = '\n' then skipLines false s
    else if inComment then skipLines true s
    else if p.char = ' ' then skipLines false s
    else if p.char = '#' then skipLines true s
    else p :: s

/-- Drops blanks, ends of lines and comments, and tells whether there was an end of line. A tab does
not count as indentation: where a column of less than `indent` holds one, the line is empty. -/
def skipGaps? (indent : Int) (inComment tabbed passed : Bool) : Source → Option (Source × Bool)
  | [] => some ([], passed)
  | p :: s =>
    if p.char = endMark then some (p :: s, passed)
    else if p.char = '\n' then skipGaps? indent false false true s
    else if inComment then skipGaps? indent true tabbed passed s
    else if p.char = '\t' then
      skipGaps? indent false (tabbed || (p.leads && (p.column : Int) < indent)) passed s
    else if p.char = ' ' then skipGaps? indent false tabbed passed s
    else if p.char = '#' then skipGaps? indent true tabbed passed s
    else if tabbed then none
    else some (p :: s, passed)

end ContentSearch.Yaml
