import ContentSearch.Number.Binary64
import ContentSearch.Number.Integer

/-!
# Reading floating-point numbers

Decimal text with an optional sign, fraction and exponent, rounded to the nearest number, and the
names of the infinities and of the NaN.
-/

namespace ContentSearch.Number.Binary64

/-- An unsigned decimal number: its digits as one natural number, and the power of ten that this
number counts. -/
structure Scientific where
  digits : Nat
  exponent : Int

/-- Reads the exponent after a mantissa with `places` digits after its point. -/
def exponent? (places : Nat) : List Char → Option Int
  | [] => some (-places)
  | c :: rest => if c = 'e' ∨ c = 'E' then (integer? rest).map (· - places) else none

/-- Digits, at most one point among or around them, and an optional exponent. -/
def scientific? (cs : List Char) : Option Scientific :=
  let whole := cs.takeWhile Char.isDigit
  let (places, rest) := match cs.dropWhile Char.isDigit with
    | '.' :: tail => (tail.takeWhile Char.isDigit, tail.dropWhile Char.isDigit)
    | tail => ([], tail)
  if whole.isEmpty && places.isEmpty then none
  else (exponent? places.length rest).map fun e =>
    ⟨Nat.ofDigitChars 10 (whole ++ places) 0, e⟩

/-- The unsigned part of a number: a name in letters of any case, or decimal text. -/
def unsigned? (negative : Bool) (cs : List Char) : Option Binary64 :=
  let name := cs.map Char.toLower
  if name = "inf".toList ∨ name = "infinity".toList then some (infinity negative)
  else if name = "nan".toList then some (if negative then nan.negate else nan)
  else (scientific? cs).map fun s => ofScientific negative s.digits s.exponent

/-- A number with an optional sign. -/
def ofText? (s : String) : Option Binary64 :=
  match s.toList with
  | '-' :: rest => unsigned? true rest
  | '+' :: rest => unsigned? false rest
  | cs => unsigned? false cs

end ContentSearch.Number.Binary64
