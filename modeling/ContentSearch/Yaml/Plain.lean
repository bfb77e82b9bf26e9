import ContentSearch.Yaml.Source

/-!
# Scalars without quotes

Words with blanks between them, which may go on in the following lines.
-/

namespace ContentSearch.Yaml

/-- The blanks behind a word: those on its line in reverse, and the number of ends of line. -/
structure WordGap where
  blanks : List Char
  breaks : Nat
  /-- Whether there is a tab in the indentation of the line. -/
  tabbed : Bool

namespace WordGap

/-- No blanks. -/
def none : WordGap :=
  ⟨[], 0, false⟩

/-- What stands for the blanks between two words: they themselves on one line, a space for an end of
line, and the ends of line but one if there are more. -/
def text (g : WordGap) : List Char :=
  match g.breaks with
  | 0 => g.blanks.reverse
  | 1 => [' ']
  | n + 1 => List.replicate n '\n'

/-- Adds a blank, which counts only on the line of the word. -/
def push (g : WordGap) (indent : Int) (p : Placed) : WordGap :=
  if g.breaks = 0 then { g with blanks := p.char :: g.blanks }
  else { g with tabbed := g.tabbed || (p.char == '\t' && (p.column : Int) < indent) }

/-- Adds an end of line. -/
def pushBreak (g : WordGap) : WordGap :=
  ⟨[], g.breaks + 1, false⟩

/-- Whether a scalar ends with the blanks: behind them there is a comment, the mark of a document,
or in block style a line that is not indented far enough. -/
def endsAt (g : WordGap) (inFlow : Bool) (indent : Int) (s : Source) : Bool :=
  (0 < g.breaks && !inFlow && (s.head.column : Int) < indent) || s.atDocumentMark || s.char == '#'

end WordGap

/-- Whether a colon with this character behind it ends a word. -/
def endsKey (inFlow : Bool) (next : Char) : Bool :=
  isGap next || (inFlow && isFlowMark next)

/-- Whether the character at hand can belong to a word. -/
def inWord (inFlow : Bool) (s : Source) : Bool :=
  if s.char = ':' then !endsKey inFlow s.next
  else !(isGap s.char || (inFlow && isFlowMark s.char))

/-- Reads on in a plain scalar. Between words `gap?` holds the blanks read so far. In block style
the lines that go on with it are indented by `indent` columns. -/
def plainFrom? (inFlow : Bool) (indent : Int) (gap? : Option WordGap) :
    Source → Option (List Char × Source)
  | [] => some ([], [])
  | p :: s =>
    if isBlank p.char then
      plainFrom? inFlow indent (some ((gap?.getD .none).push indent p)) s
    else if p.char = '\n' then
      plainFrom? inFlow indent (some (gap?.getD .none).pushBreak) s
    else
      match gap? with
      | none =>
        if inWord inFlow (p :: s) then
          (plainFrom? inFlow indent none s).map fun (cs, rest) => (p.char :: cs, rest)
        else some ([], p :: s)
      | some gap =>
        if gap.tabbed && p.char != '#' && p.char != endMark then none
        else if gap.endsAt inFlow indent (p :: s) then some ([], p :: s)
        else if inFlow && p.char == '-' && isFlowMark (Source.char s) then none
        else if inWord inFlow (p :: s) then
          (plainFrom? inFlow indent none s).map fun (cs, rest) =>
            (gap.text ++ p.char :: cs, rest)
        else some ([], p :: s)

/-- Reads a plain scalar. -/
def plain? (inFlow : Bool) (indent : Int) (s : Source) : Option (String × Source) :=
  if inFlow && (s.head.column : Int) < indent then none
  else
    match plainFrom? inFlow indent (some .none) s with
    | some ([], _) => none
    | some (cs, rest) => some (String.ofList cs, rest)
    | none => none

end ContentSearch.Yaml
