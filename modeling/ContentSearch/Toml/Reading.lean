import ContentSearch.Text.Utf8
import ContentSearch.Toml.Scalar
import ContentSearch.Toml.Table

/-!
# Reading TOML

A text is a sequence of statements, each of which begins a table or defines a key in the table that
began last.
-/

namespace ContentSearch.Toml

/-! ## Blanks -/

/-- Drops spaces and tabs. -/
def skipSpaces (cs : List Char) : List Char :=
  cs.dropWhile fun c => c == ' ' || c == '\t'

/-- Drops blanks, ends of lines and comments. -/
def skipGaps (inComment : Bool) : List Char → List Char
  | [] => []
  | c :: cs =>
    if c = '\n' then skipGaps false cs
    else if inComment then (if isPlain c then skipGaps true cs else c :: cs)
    else if c = ' ' || c = '\t' then skipGaps false cs
    else if c = '#' then skipGaps true cs
    else c :: cs

/-- What follows a statement, of which nothing else may be left on the line. -/
def endOfLine? (cs : List Char) : Option (List Char) :=
  let rest := match skipSpaces cs with
    | '#' :: comment => comment.dropWhile isPlain
    | cs => cs
  match rest with
  | [] => some []
  | '\n' :: rest => some rest
  | _ => none

/-! ## Keys -/

/-- Characters of a key without quotes. -/
def isBareKey (c : Char) : Bool :=
  c.isAlphanum || c == '_' || c == '-'

/-- Reads one step of a key. -/
def step? (cs : List Char) : Option (String × List Char) :=
  match shortString? cs with
  | some r => some r
  | none =>
    let bare := cs.takeWhile isBareKey
    if bare.isEmpty then none else some (String.ofList bare, cs.dropWhile isBareKey)

/-- The most steps that a key can have, and the most brackets that can be open at a time. -/
def maxDepth : Nat := 79

/-- Reads a key of steps with points between them, of which there are at most `depth`. -/
def steps? (depth : Nat) (cs : List Char) : Option (List String × List Char) :=
  match depth with
  | 0 => none
  | depth + 1 => do
    let (step, rest) ← step? (skipSpaces cs)
    match skipSpaces rest with
    | '.' :: rest => (steps? depth rest).map fun (steps, rest) => (step :: steps, rest)
    | rest => some ([step], rest)

/-- Reads a key. -/
def key? (cs : List Char) : Option (List String × List Char) :=
  steps? maxDepth cs

/-! ## Values -/

/-- Characters of a value without quotes. -/
def isBareValue (c : Char) : Bool :=
  c.isAlphanum || c == '_' || c == '-' || c == '+' || c == '.' || c == ':'

/-- The value without quotes at the beginning of a text. A date may be followed by a space and a
time. -/
def bare (cs : List Char) : List Char :=
  let first := cs.takeWhile isBareValue
  match isDate first, cs.drop first.length with
  | true, ' ' :: c :: rest =>
    if c.isDigit then first ++ ' ' :: (c :: rest).takeWhile isBareValue else first
  | _, _ => first

mutual

/-- Reads a value with at most `depth` brackets open at a time. -/
def value? (fuel depth : Nat) (cs : List Char) : Option (Json × List Char) :=
  match fuel with
  | 0 => none
  | fuel + 1 =>
    match cs, depth with
    | '[' :: rest, depth + 1 =>
      (items? fuel depth rest).map fun (items, rest) => (.list items, rest)
    | '\x7b' :: rest, depth + 1 =>
      match skipSpaces rest with
      | '\x7d' :: rest => some (.object [], rest)
      | rest =>
        (members? fuel depth [] rest).map fun (ms, rest) => (.object (membersJson ms), rest)
    | '\x22' :: _, _ | '\x27' :: _, _ => (string? cs).map fun (s, rest) => (.text s, rest)
    | _, _ =>
      let text := bare cs
      (bareValue? text).map fun v => (v, cs.drop text.length)

/-- Reads the items of a list and the bracket that closes it. -/
def items? (fuel depth : Nat) (cs : List Char) : Option (List Json × List Char) :=
  match fuel with
  | 0 => none
  | fuel + 1 =>
    match skipGaps false cs with
    | ']' :: rest => some ([], rest)
    | cs => do
      let (v, rest) ← value? fuel depth cs
      match skipGaps false rest with
      | ',' :: rest => (items? fuel depth rest).map fun (items, rest) => (v :: items, rest)
      | ']' :: rest => some ([v], rest)
      | _ => none

/-- Reads the members of a table on one line, of which there is at least one more, and the bracket
that closes it. -/
def members? (fuel depth : Nat) (members : Members) (cs : List Char) :
    Option (Members × List Char) :=
  match fuel with
  | 0 => none
  | fuel + 1 => do
    let (key, rest) ← key? cs
    match skipSpaces rest with
    | '=' :: rest =>
      let (v, rest) ← value? fuel depth (skipSpaces rest)
      let members ← defineKey? key v .headed members
      match skipSpaces rest with
      | ',' :: rest => members? fuel depth members rest
      | '\x7d' :: rest => some (members, rest)
      | _ => none
    | _ => none

end

/-! ## Statements -/

/-- Reads a header between brackets and the end of its line. -/
def header? (closing : List Char) (cs : List Char) : Option (List String × List Char) := do
  let (key, rest) ← key? cs
  if rest.take closing.length = closing then
    let rest ← endOfLine? (rest.drop closing.length)
    some (key, rest)
  else none

/-- Reads statements; those that define a key belong to the table with the header. -/
def statements? (fuel : Nat) (header : List String) (members : Members) (cs : List Char) :
    Option Members :=
  match fuel with
  | 0 => none
  | fuel + 1 =>
    match skipGaps false cs with
    | [] => some members
    | '[' :: '[' :: rest => do
      let (key, rest) ← header? [']', ']'] rest
      let members ←
        changeAt? .passed (beginItem? (key.getLastD "")) key.dropLast .headed members
      statements? fuel key members rest
    | '[' :: rest => do
      let (key, rest) ← header? [']'] rest
      let members ←
        changeAt? .passed (beginTable? (key.getLastD "")) key.dropLast .headed members
      statements? fuel key members rest
    | cs => do
      let (key, rest) ← key? cs
      match rest with
      | '=' :: rest =>
        let (v, rest) ← value? (2 * cs.length + 2) maxDepth (skipSpaces rest)
        let members ← changeAt? .passed (defineKey? key v) header .headed members
        let rest ← endOfLine? rest
        statements? fuel header members rest
      | _ => none

/-- Writes every end of line as a line feed. -/
def unifyBreaks : List Char → List Char
  | '\r' :: '\n' :: cs => '\n' :: unifyBreaks cs
  | c :: cs => c :: unifyBreaks cs
  | [] => []

/-- The value of a text, which is always a table. -/
def ofText? (s : String) : Option Json :=
  let cs := unifyBreaks (Text.Utf8.withoutMark s).toList
  (statements? (cs.length + 1) [] [] cs).map fun members => .object (membersJson members)

end ContentSearch.Toml
