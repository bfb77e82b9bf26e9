import ContentSearch.Number.Binary64.Shortest
import ContentSearch.Number.Decimal
import ContentSearch.PropertyType
import ContentSearch.Text.Utf8
import ContentSearch.Time.Instant

/-!
# Values

A typed scalar value: the content of a property, a literal of a query or the value bound to a
variable.
-/

namespace ContentSearch

open Number Time

/-- A value of one of the property types. -/
inductive Value
  | text (kind : TextKind) (s : String)
  | binary (bytes : List UInt8)
  | long (n : Int64)
  | double (x : Binary64)
  | decimal (d : Decimal)
  | date (t : Instant)
  | boolean (b : Bool)
  deriving DecidableEq

namespace Value

/-- Plain text. -/
abbrev string (s : String) : Value := .text .string s

/-- The type of a value. -/
def type : Value → PropertyType
  | .text kind _ => .text kind
  | .binary _ => .binary
  | .long _ => .long
  | .double _ => .double
  | .decimal _ => .decimal
  | .date _ => .date
  | .boolean _ => .boolean

/-- The text of a value that is text. -/
def asText? : Value → Option String
  | .text _ s => some s
  | _ => none

/-- Truth values in words. -/
def booleanText (b : Bool) : String :=
  if b then "true" else "false"

/-- Integers in decimal, with a minus sign below zero. -/
def longText (n : Int64) : String :=
  if n.toInt < 0 then "-" ++ Nat.repr n.toInt.natAbs else Nat.repr n.toInt.natAbs

/-- The canonical text of any value. Bytes that are no text show replacement characters, and
instants show milliseconds only. -/
def display : Value → String
  | .text _ s => s
  | .binary bytes => Text.Utf8.decodeLenient bytes
  | .long n => longText n
  | .double x => x.text
  | .decimal d => d.text
  | .date t => t.text
  | .boolean b => booleanText b

/-- The length of a value: bytes of a binary, characters of the canonical text of any other. -/
def length : Value → Nat
  | .binary bytes => bytes.length
  | v => v.display.length

end Value

end ContentSearch
