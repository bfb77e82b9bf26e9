import ContentSearch.Yaml.Source

/-!
# Scalars written out

A scalar that is written out in the lines below its mark, either as it stands or with its lines
joined to longer ones.
-/

namespace ContentSearch.Yaml

/-! ## Headers -/

/-- Which ends of line at the end of a written scalar count. -/
inductive Ending
  | dropped | single | kept
  deriving DecidableEq

/-- What stands behind the mark of a written scalar. -/
structure WrittenHeader where
  ending : Ending
  /-- The columns by which the lines are indented further than those around them, if they are
  given. -/
  columns? : Option Nat
  rest : Source

/-- The meaning of a sign in a header. -/
def Ending.ofSign? (c : Char) : Option Ending :=
  if c = '+' then some .kept else if c = '-' then some .dropped else none

/-- The number of columns that a digit in a header gives; it is not zero. -/
def columnsOfDigit? (c : Char) : Option Nat :=
  if c.isDigit ∧ c ≠ '0' then some (c.toNat - 0x30) else none

/-- Reads the sign and the digit behind a mark, each of which may be missing. -/
def WrittenHeader.read? (s : Source) : Option WrittenHeader :=
  match Ending.ofSign? s.char with
  | some ending =>
    if s.next.isDigit then
      (columnsOfDigit? s.next).map fun n => ⟨ending, some n, s.drop 2⟩
    else some ⟨ending, none, s.tail⟩
  | none =>
    if s.char.isDigit then
      (columnsOfDigit? s.char).map fun n =>
        match Ending.ofSign? s.next with
        | some ending => ⟨ending, some n, s.drop 2⟩
        | none => ⟨.single, some n, s.tail⟩
    else some ⟨.single, none, s⟩

/-! ## Lines -/

/-- The indentation of the first line with text, or that of the empty lines before it if it is
greater. -/
def firstIndent (greatest : Nat) : Source → Nat
  | [] => greatest
  | p :: s =>
    if p.char = ' ' then firstIndent (max greatest (p.column + 1)) s
    else if p.char = '\n' then firstIndent greatest s
    else greatest

/-- The lines that are indented by `indent` columns, without the indentation, and what follows
them. An empty line is without text, and lines without indentation end with the document. The first
of the lines is the rest of the one at hand. -/
def indentedLines (indent : Nat) (inText : Bool) : Source → List (List Char) × Source
  | [] => ([[]], [])
  | p :: s =>
    if p.char = endMark || (!inText && indent == 0 && Source.atDocumentMark (p :: s)) then
      ([[]], p :: s)
    else if p.char = '\n' then
      let (lines, rest) := indentedLines indent false s
      ([] :: lines, rest)
    else if !inText && p.column < indent then
      if p.char = ' ' then indentedLines indent false s else ([[]], p :: s)
    else
      let (lines, rest) := indentedLines indent true s
      match lines with
      | line :: lines => ((p.char :: line) :: lines, rest)
      | [] => ([[p.char]], rest)

/-! ## Text -/

/-- Whether a line begins with a blank. -/
def startsBlank (line : List Char) : Bool :=
  isBlank (line.headD ' ')

/-- What stands between two lines with text that have `breaks` ends of line between them. Where
lines are joined a single end of line becomes a space and of several ones the first is dropped,
unless one of the lines begins with a blank. -/
def betweenLines (joins : Bool) (before after : List Char) (breaks : Nat) : List Char :=
  if joins && !startsBlank before && !startsBlank after then
    if breaks = 1 then [' '] else List.replicate (breaks - 1) '\n'
  else List.replicate breaks '\n'

/-- The text of lines behind a line with text, and the number of ends of line behind the last one
with text. -/
def textBehind (joins : Bool) (before : List Char) (breaks : Nat) :
    List (List Char) → List Char × Nat
  | [] => ([], breaks)
  | [] :: lines => textBehind joins before (breaks + 1) lines
  | line :: lines =>
    let (text, breaks') := textBehind joins line 1 lines
    (betweenLines joins before line breaks ++ line ++ text, breaks')

/-- The text of lines. The number of ends of line behind the last one with text is 0 if there is no
such line. -/
def textOf (joins : Bool) : List (List Char) → List Char × Nat
  | [] => ([], 0)
  | [] :: lines =>
    let (text, breaks) := textOf joins lines
    ('\n' :: text, breaks)
  | line :: lines =>
    let (text, breaks) := textBehind joins line 1 lines
    (line ++ text, breaks)

/-- The text of the lines of a written scalar. -/
def writtenText (joins : Bool) (ending : Ending) (lines : List (List Char)) : List Char :=
  let hasText := lines.any fun line => !line.isEmpty
  if hasText then
    let (text, breaks) := textOf joins lines
    match ending with
    | .dropped => text
    | .single => text ++ ['\n']
    | .kept => text ++ List.replicate breaks '\n'
  else if ending = .kept then List.replicate lines.length '\n'
  else []

/-- The text of a written scalar without lines at the end of a text; `lines` counts the empty ones
below the header. -/
def emptyText (ending : Ending) (hasLines : Bool) (lines : Nat) : List Char :=
  if !hasLines then []
  else
    match ending with
    | .dropped => []
    | .single => ['\n']
    | .kept => List.replicate (max 1 lines) '\n'

/-- Reads the lines of a written scalar below its header. -/
def writtenLines? (joins : Bool) (outer : Int) (h : WrittenHeader) (s : Source) :
    Option (String × Source) :=
  let below : Source := if s.char = '\n' then s.tail else s
  let indent : Nat :=
    match h.columns? with
    | some n => if 0 ≤ outer then (outer + n).toNat else n
    | none => max (firstIndent 0 below) (outer + 1).toNat
  let (lines, rest) := indentedLines indent false below
  -- the last of the lines is the one that was not completed
  let complete := lines.dropLast
  let hasText := lines.any fun line => !line.isEmpty
  if below.char = '\t' then none
  else if !hasText && rest.char == endMark then
    some (String.ofList (emptyText h.ending (s.char == '\n') complete.length), rest)
  else if !hasText && rest.head.column < indent && outer < rest.head.column then none
  else
    let all := if lines.getLast? = some [] then complete else lines
    some (String.ofList (writtenText joins h.ending all), rest)

/-- Reads a written scalar behind its mark. Its lines are indented further than `outer`. -/
def written? (joins : Bool) (outer : Int) (s : Source) : Option (String × Source) := do
  let h ← WrittenHeader.read? s
  let rest ← behind? h.rest
  if isLineEnd rest.char then writtenLines? joins outer h rest else none

end ContentSearch.Yaml
