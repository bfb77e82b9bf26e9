import ContentSearch.Json
import ContentSearch.Number.Binary64.Reading
import ContentSearch.Number.Radix
import ContentSearch.Time.Instant

/-!
# Scalars of TOML

Strings in four kinds of quotes, and what stands without quotes: truth values, numbers and dates.
A date is kept as its text.
-/

namespace ContentSearch.Toml

open Number

/-! ## Numbers -/

/-- Drops the underscores between the digits of a number; everywhere else they are refused. -/
def withoutUnderscores? (isDigit : Char → Bool) (afterDigit : Bool) :
    List Char → Option (List Char)
  | [] => some []
  | c :: cs =>
    if c = '_' then
      if afterDigit && (cs.head?.map isDigit).getD false then
        withoutUnderscores? isDigit false cs
      else none
    else (withoutUnderscores? isDigit (isDigit c) cs).map (c :: ·)

/-- Whether a character is a digit of a base. -/
def isDigitOf (base : Nat) (c : Char) : Bool :=
  match hexValue? c with
  | some d => d < base
  | none => false

/-- A natural number behind the mark of a base. -/
def based? (base : Nat) (cs : List Char) : Option Int :=
  ((withoutUnderscores? (isDigitOf base) false cs).bind (naturalIn? base)).map Int.ofNat

/-- Whether digits have a zero before them that is not needed. -/
def hasLeadingZero : List Char → Bool
  | '0' :: c :: _ => c.isDigit || c == '_'
  | _ => false

/-- The characters of a number behind its sign. -/
def withoutSign : List Char → List Char
  | '-' :: cs | '+' :: cs => cs
  | cs => cs

/-- An integer. -/
def integerValue? : List Char → Option Int
  | '0' :: 'x' :: cs => based? 16 cs
  | '0' :: 'o' :: cs => based? 8 cs
  | '0' :: 'b' :: cs => based? 2 cs
  | cs =>
    if hasLeadingZero (withoutSign cs) then none
    else (withoutUnderscores? Char.isDigit false cs).bind integer?

/-- Whether a number without its sign has digits before a point or an exponent, and after a
point. -/
def isFloatShape (cs : List Char) : Bool :=
  let whole := cs.takeWhile Char.isDigit
  let rest := cs.dropWhile Char.isDigit
  !whole.isEmpty && match rest with
    | '.' :: c :: _ => c.isDigit
    | 'e' :: _ | 'E' :: _ => true
    | _ => false

/-- A number with a fraction or an exponent, or a special one. Digits do not stand for a positive
infinity. -/
def floatValue? (cs : List Char) : Option Binary64 :=
  let bare := withoutSign cs
  if bare = ['i', 'n', 'f'] ∨ bare = ['n', 'a', 'n'] then Binary64.ofText? (String.ofList cs)
  else if hasLeadingZero bare then none
  else
    (withoutUnderscores? Char.isDigit false cs).bind fun digits =>
      if isFloatShape (withoutSign digits) then
        (Binary64.ofText? (String.ofList digits)).filter fun x => x.isFinite || x.isNegative
      else none

/-! ## Dates and times -/

/-- Whether a text is a number of two digits in a range. -/
def isPart (least greatest : Nat) (cs : List Char) : Bool :=
  match natural? cs with
  | some n => cs.length == 2 && Nat.ble least n && Nat.ble n greatest
  | none => false

/-- Whether a text is a date. -/
def isDate (cs : List Char) : Bool :=
  match natural? (cs.take 4), natural? ((cs.drop 5).take 2) with
  | some year, some month =>
    cs.length == 10 && cs[4]? == some '-' && isPart 1 12 ((cs.drop 5).take 2)
      && cs[7]? == some '-' && isPart 1 (Time.daysInMonth year month) (cs.drop 8)
  | _, _ => false

/-- Whether a text is the time of a day. -/
def isTime (cs : List Char) : Bool :=
  isPart 0 23 (cs.take 2) && cs[2]? == some ':' && isPart 0 59 ((cs.drop 3).take 2)
    && cs[5]? == some ':' && isPart 0 60 ((cs.drop 6).take 2)
    && match cs.drop 8 with
      | [] => true
      | '.' :: places => !places.isEmpty && places.all Char.isDigit
      | _ => false

/-- Whether a text is the time of a day with an optional offset. -/
def isOffsetTime (cs : List Char) : Bool :=
  let time := cs.takeWhile fun c => c.isDigit || c == ':' || c == '.'
  isTime time && match cs.drop time.length with
    | [] | ['Z'] | ['z'] => true
    | '+' :: offset | '-' :: offset =>
      isPart 0 23 (offset.take 2) && offset[2]? == some ':' && isPart 0 59 (offset.drop 3)
    | _ => false

/-- Whether a text is a date, a time, or both. -/
def isMoment (cs : List Char) : Bool :=
  isTime cs || isDate cs
    || isDate (cs.take 10) && match cs.drop 10 with
      | 'T' :: time | 't' :: time | ' ' :: time => isOffsetTime time
      | _ => false

/-- The value of characters without quotes. -/
def bareValue? (cs : List Char) : Option Json :=
  if cs = ['t', 'r', 'u', 'e'] then some (.bool true)
  else if cs = ['f', 'a', 'l', 's', 'e'] then some (.bool false)
  else
    match integerValue? cs with
    | some n => (int64? n).map fun n => .int n.toInt
    | none =>
      match floatValue? cs with
      | some x => some (.real x)
      | none => if isMoment cs then some (.text (String.ofList cs)) else none

/-! ## Strings -/

/-- Characters that stand for themselves in a string. -/
def isPlain (c : Char) : Bool :=
  c == '\t' || (Nat.ble 0x20 c.toNat && c.toNat != 0x7f)

/-- The character that an escape of one letter stands for. -/
def escaped? (c : Char) : Option Char :=
  match c with
  | 'b' => some '\x08'
  | 't' => some '\t'
  | 'n' => some '\n'
  | 'f' => some '\x0c'
  | 'r' => some '\r'
  | '\x22' => some '\x22'
  | '\\' => some '\\'
  | _ => none

/-- The character of a code in so many hexadecimal digits. -/
def codePoint? (count : Nat) (cs : List Char) : Option Char :=
  if cs.length < count then none
  else (hexFrom? 0 (cs.take count)).bind fun n =>
    if n.isValidChar then some (Char.ofNat n) else none

/-- Blanks and ends of lines. -/
def isGap (c : Char) : Bool :=
  c == ' ' || c == '\t' || c == '\n'

/-- Whether an escape joins lines: there is nothing behind it on its line. -/
def joinsLines (cs : List Char) : Bool :=
  (cs.takeWhile isGap).contains '\n'

/-- Reads the rest of a string with escapes on one line. The first number counts the characters
that belong to an escape already read. -/
def basic? : Nat → List Char → Option (List Char × List Char)
  | _, [] => none
  | skip + 1, _ :: cs => basic? skip cs
  | 0, c :: cs =>
    let next? (skip : Nat) (p : Char) := (basic? skip cs).map fun (text, rest) => (p :: text, rest)
    if c = '\x22' then some ([], cs)
    else if c = '\\' then
      match cs with
      | 'u' :: digits => (codePoint? 4 digits).bind (next? 5)
      | 'U' :: digits => (codePoint? 8 digits).bind (next? 9)
      | e :: _ => (escaped? e).bind (next? 1)
      | [] => none
    else if isPlain c then next? 0 c
    else none

/-- Reads the rest of a string without escapes on one line. -/
def literal? : List Char → Option (List Char × List Char)
  | [] => none
  | c :: cs =>
    if c = '\x27' then some ([], cs)
    else if isPlain c then (literal? cs).map fun (text, rest) => (c :: text, rest)
    else none

/-- The quotes that end a string of several lines: three of them, before which the string may
itself end in up to two. Gives those that belong to the string, and the rest. -/
def closing? (quote : Char) (cs : List Char) : Option (List Char × List Char) :=
  let count := (cs.takeWhile (· == quote)).length
  if count < 3 then none
  else
    let own := min (count - 3) 2
    some (List.replicate own quote, cs.drop (own + 3))

/-- Reads the rest of a string of several lines with escapes. -/
def longBasic? : Nat → List Char → Option (List Char × List Char)
  | _, [] => none
  | skip + 1, _ :: cs => longBasic? skip cs
  | 0, c :: cs =>
    let next? (skip : Nat) (p : Char) :=
      (longBasic? skip cs).map fun (text, rest) => (p :: text, rest)
    match closing? '\x22' (c :: cs) with
    | some r => some r
    | none =>
      if c = '\\' then
        match cs with
        | 'u' :: digits => (codePoint? 4 digits).bind (next? 5)
        | 'U' :: digits => (codePoint? 8 digits).bind (next? 9)
        | e :: _ =>
          if joinsLines cs then longBasic? (cs.takeWhile isGap).length cs
          else (escaped? e).bind (next? 1)
        | [] => none
      else if isPlain c || c == '\n' then next? 0 c
      else none

/-- Reads the rest of a string of several lines without escapes. -/
def longLiteral? : List Char → Option (List Char × List Char)
  | [] => none
  | c :: cs =>
    match closing? '\x27' (c :: cs) with
    | some r => some r
    | none =>
      if isPlain c || c == '\n' then (longLiteral? cs).map fun (text, rest) => (c :: text, rest)
      else none

/-- Drops an end of line at the beginning of a string. -/
def withoutFirstBreak : List Char → List Char
  | '\n' :: cs => cs
  | cs => cs

/-- Reads a string on one line, as keys can be. -/
def shortString? : List Char → Option (String × List Char)
  | '\x22' :: cs => (basic? 0 cs).map fun (text, rest) => (String.ofList text, rest)
  | '\x27' :: cs => (literal? cs).map fun (text, rest) => (String.ofList text, rest)
  | _ => none

/-- Reads a string. -/
def string? : List Char → Option (String × List Char)
  | '\x22' :: '\x22' :: '\x22' :: cs =>
    (longBasic? 0 (withoutFirstBreak cs)).map fun (text, rest) => (String.ofList text, rest)
  | '\x27' :: '\x27' :: '\x27' :: cs =>
    (longLiteral? (withoutFirstBreak cs)).map fun (text, rest) => (String.ofList text, rest)
  | cs => shortString? cs

end ContentSearch.Toml
