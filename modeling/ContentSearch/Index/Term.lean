import ContentSearch.Number.Hex
import ContentSearch.Value

/-!
# Terms

A value is indexed as a text, its term. Integers, instants and numbers become sixteen hexadecimal
digits whose order as text is the order of the numbers; all other values are their own text.
-/

namespace ContentSearch.Term

open Number

/-! ## Sixteen digits -/

/-- A word of 64 bits as sixteen digits. -/
def ofWord (n : Nat) : String :=
  String.ofList (hexWord 16 n)

/-- The word that sixteen bytes of text stand for. -/
def toWord? (s : String) : Option Nat :=
  if s.utf8ByteSize = 16 then hexNumber? s.toList else none

/-! ## Integers -/

/-- The distance of an integer from the least one. -/
def ofLong (n : Int64) : String :=
  ofWord (n.toInt + 0x8000000000000000).toNat

/-- The integer of a term. -/
def toLong? (s : String) : Option Int64 :=
  (toWord? s).map fun n => Int64.ofInt ((n : Int) - 0x8000000000000000)

/-- The term of a count; one that is no 64-bit integer is taken for the greatest of them. -/
def ofCount (n : Nat) : String :=
  ofLong (Int64.ofNat (min n 0x7fffffffffffffff))

/-! ## Floating-point numbers -/

/-- The rank of a number: the numbers from zero up follow upon the negative ones, and those run
from the greatest absolute value to the least. Both zeros have one rank. -/
def rank (x : Binary64) : Nat :=
  if x.magnitude = 0 then 0x8000000000000000
  else if x.isNegative then 0x7fffffffffffffff - x.magnitude
  else 0x8000000000000000 + x.magnitude

/-- The term of a number. -/
def ofDouble (x : Binary64) : String :=
  ofWord (rank x)

/-- The number of a rank. -/
def ofRank (n : Nat) : Binary64 :=
  if 0x8000000000000000 ≤ n then Binary64.ofMagnitude false (n - 0x8000000000000000)
  else Binary64.ofMagnitude true (0x7fffffffffffffff - n)

/-- The number of a term. -/
def toDouble? (s : String) : Option Binary64 :=
  (toWord? s).map ofRank

/-! ## Values -/

/-- The term of a value. -/
def ofValue : Value → String
  | .text _ s => s
  | .binary bytes => Text.Utf8.decodeLenient bytes
  | .long n => ofLong n
  | .double x => ofDouble x
  | .decimal d => ofDouble d.toBinary64
  | .date t => ofLong (Int64.ofInt t.millis)
  | .boolean b => Value.booleanText b

end ContentSearch.Term
