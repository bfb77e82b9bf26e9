import ContentSearch.Number.Hex
import ContentSearch.Yaml.Source

/-!
# Scalars in quotes

In single quotes a quote is written twice and all else stands for itself; in double quotes there are
escapes. Both kinds may go on in the following lines.
-/

namespace ContentSearch.Yaml

/-! ## Escapes -/

/-- The character that an escape of one letter stands for. -/
def escaped? (c : Char) : Option Char :=
  match c with
  | '0' => some '\x00'
  | 'a' => some '\x07'
  | 'b' => some '\x08'
  | 't' | '\t' => some '\t'
  | 'n' => some '\n'
  | 'v' => some '\x0b'
  | 'f' => some '\x0c'
  | 'r' => some '\r'
  | 'e' => some '\x1b'
  | ' ' => some ' '
  | '\x22' => some '\x22'
  | '/' => some '/'
  | '\\' => some '\\'
  | 'N' => some '\u0085'
  | '_' => some '\u00a0'
  | 'L' => some '\u2028'
  | 'P' => some '\u2029'
  | _ => none

/-- The number of digits of an escape that gives a code. -/
def codeLength? (c : Char) : Option Nat :=
  match c with
  | 'x' => some 2
  | 'u' => some 4
  | 'U' => some 8
  | _ => none

/-- The character of a code in hexadecimal. -/
def codePoint? (digits : List Char) : Option Char :=
  (Number.hexFrom? 0 digits).bind fun n => if n.isValidChar then some (Char.ofNat n) else none

/-- Reads an escape behind its backslash: the character, and how many characters were read. -/
def escape? (s : Source) : Option (Char × Nat) :=
  match codeLength? s.char with
  | some count =>
    let digits := (s.tail.take count).map (·.char)
    if digits.length < count then none
    else (codePoint? digits).map fun c => (c, count + 1)
  | none => (escaped? s.char).map fun c => (c, 1)

/-! ## Blanks -/

/-- The blanks before the character at hand. -/
inductive QuotedGap
  /-- On one line all of them count; they are kept in reverse. -/
  | onLine (blanks : List Char)
  /-- Behind an end of line only the number of further ends of line counts. An end of line that is
  escaped does not count itself. -/
  | broken (isEscaped : Bool) (breaks : Nat)

namespace QuotedGap

/-- What stands for the blanks. -/
def text : QuotedGap → List Char
  | onLine blanks => blanks.reverse
  | broken false 0 => [' ']
  | broken _ breaks => List.replicate breaks '\n'

/-- Whether there is an end of line among the blanks. -/
def isBroken : QuotedGap → Bool
  | onLine _ => false
  | broken _ _ => true

/-- Adds an end of line. -/
def pushBreak : QuotedGap → QuotedGap
  | onLine _ => broken false 0
  | broken isEscaped breaks => broken isEscaped (breaks + 1)

/-- Adds a blank. A tab does not count as indentation. -/
def push? (indent : Int) (p : Placed) : QuotedGap → Option QuotedGap
  | onLine blanks => some (onLine (p.char :: blanks))
  | broken isEscaped breaks =>
    if p.char = '\t' ∧ (p.column : Int) < indent then none else some (broken isEscaped breaks)

end QuotedGap

/-! ## Reading -/

/-- Reads on up to the closing quote. `skip` counts the characters that are read already; a line
that goes on with the scalar is indented by `indent` columns. -/
def quotedFrom? (isSingle : Bool) (indent : Int) (gap : QuotedGap) (skip : Nat) :
    Source → Option (List Char × Source)
  | [] => none
  | p :: s =>
    match skip with
    | skip + 1 => quotedFrom? isSingle indent gap skip s
    | 0 =>
      if p.char = endMark then none
      else if isBlank p.char then
        (gap.push? indent p).bind fun gap => quotedFrom? isSingle indent gap 0 s
      else if p.char = '\n' then quotedFrom? isSingle indent gap.pushBreak 0 s
      else if gap.isBroken && ((p.column : Int) < indent || Source.atDocumentMark (p :: s)) then
        none
      else if isSingle && p.char = '\x27' then
        if Source.char s = '\x27' then
          (quotedFrom? isSingle indent (.onLine []) 1 s).map fun (cs, rest) =>
            (gap.text ++ '\x27' :: cs, rest)
        else some (gap.text, s)
      else if !isSingle && p.char = '\x22' then some (gap.text, s)
      else if !isSingle && p.char = '\\' then
        if Source.char s = '\n' then
          (quotedFrom? isSingle indent (.broken true 0) 1 s).map fun (cs, rest) =>
            (gap.text ++ cs, rest)
        else
          match escape? s with
          | none => none
          | some (c, count) =>
            (quotedFrom? isSingle indent (.onLine []) count s).map fun (cs, rest) =>
              (gap.text ++ c :: cs, rest)
      else
        (quotedFrom? isSingle indent (.onLine []) 0 s).map fun (cs, rest) =>
          (gap.text ++ p.char :: cs, rest)

/-- What follows a quoted scalar that began on `line`. Behind it the line ends, or there is the mark
behind a key, which in block style is on one line; in flow style a comma or a bracket will do. -/
def behindQuoted? (inFlow : Bool) (line : Nat) (s : Source) : Option Source := do
  let rest ← behind? s
  let c := rest.char
  let goesOn :=
    isLineEnd c
      || (inFlow && (c == ',' || c == '\x7d' || c == ']' || c == ':'))
      || (!inFlow && c == ':' && rest.head.line == line)
  if goesOn then some rest else none

/-- Reads a quoted scalar. -/
def quoted? (inFlow : Bool) (indent : Int) (s : Source) : Option (String × Source) := do
  let (cs, rest) ← quotedFrom? (s.char == '\x27') indent (.onLine []) 0 s.tail
  let rest ← behindQuoted? inFlow s.head.line rest
  some (String.ofList cs, rest)

end ContentSearch.Yaml
