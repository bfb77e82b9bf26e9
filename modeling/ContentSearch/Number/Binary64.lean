/-!
# Binary floating-point numbers of 64 bits

A number is its 64 bits in the interchange format of IEEE 754. Each finite number is a whole
multiple of the least positive one, `2 ^ (-1074)`, so its size is a natural number of these units
and all arithmetic below is exact arithmetic on `Nat`, rounded once at the end.
-/

namespace ContentSearch.Number

/-- A binary floating-point number, by its bits. -/
structure Binary64 where
  bits : UInt64
  deriving DecidableEq

namespace Binary64

/-! ## Fields -/

/-- The sign bit. -/
def isNegative (x : Binary64) : Bool :=
  decide (0x8000000000000000 ≤ x.bits.toNat)

/-- The bits without the sign. -/
def magnitude (x : Binary64) : Nat :=
  x.bits.toNat % 0x8000000000000000

/-- The biased exponent. -/
def exponent (x : Binary64) : Nat :=
  x.magnitude / 0x10000000000000

/-- The stored part of the significand. -/
def fraction (x : Binary64) : Nat :=
  x.magnitude % 0x10000000000000

/-- Neither infinite nor a NaN. -/
def isFinite (x : Binary64) : Bool :=
  decide (x.exponent < 2047)

/-- Not a number. -/
def isNaN (x : Binary64) : Bool :=
  x.exponent == 2047 && x.fraction != 0

/-- The significand, with the hidden bit of a normal number. -/
def significand (x : Binary64) : Nat :=
  if x.exponent = 0 then x.fraction else 0x10000000000000 + x.fraction

/-- The significand counts steps of `2 ^ spacing` units. -/
def spacing (x : Binary64) : Nat :=
  x.exponent - 1

/-- The absolute value of a finite number, in units of `2 ^ (-1074)`. -/
def units (x : Binary64) : Nat :=
  x.significand * Nat.pow 2 x.spacing

/-! ## Building numbers -/

/-- The number with this sign and these other bits. -/
def ofMagnitude (negative : Bool) (magnitude : Nat) : Binary64 :=
  ⟨UInt64.ofNat (if negative then 0x8000000000000000 + magnitude else magnitude)⟩

/-- Infinity with a sign. -/
def infinity (negative : Bool) : Binary64 :=
  ofMagnitude negative (2047 * 0x10000000000000)

/-- The quiet NaN. -/
def nan : Binary64 :=
  ofMagnitude false (2047 * 0x10000000000000 + 0x8000000000000)

/-- Zero with a sign. -/
def zero (negative : Bool) : Binary64 :=
  ofMagnitude negative 0

/-- The quotient rounded to the nearest integer, a half to the even one. -/
def roundEven (num den : Nat) : Nat :=
  let q := num / den
  let r := num % den
  if 2 * r < den then q
  else if 2 * r = den then q + q % 2
  else q + 1

/-- The nearest number to `num / den` units, a half to the even significand. A significand that
rounds up to the next power of two carries into the exponent, which is what is wanted. -/
def ofUnits (negative : Bool) (num den : Nat) : Binary64 :=
  let spacing := (num / den).log2 - 52
  let magnitude := spacing * 0x10000000000000 + roundEven num (den * Nat.pow 2 spacing)
  if magnitude < 2047 * 0x10000000000000 then ofMagnitude negative magnitude else infinity negative

/-- The nearest number to `num / den`. -/
def ofRatio (negative : Bool) (num den : Nat) : Binary64 :=
  ofUnits negative (num * Nat.pow 2 1074) den

/-- The nearest number to an integer. -/
def ofInt (n : Int) : Binary64 :=
  ofRatio (decide (n < 0)) n.natAbs 1

/-- The nearest number to `digits · 10 ^ exponent`. Exponents beyond the range of the format are
settled without computing the power. -/
def ofScientific (negative : Bool) (digits : Nat) (exponent : Int) : Binary64 :=
  let count : Int := (Nat.toDigits 10 digits).length
  if digits = 0 then zero negative
  else if 400 < count + exponent then infinity negative
  else if count + exponent < -400 then zero negative
  else if 0 ≤ exponent then ofRatio negative (digits * Nat.pow 10 exponent.toNat) 1
  else ofRatio negative digits (Nat.pow 10 (-exponent).toNat)

/-! ## Exact reading -/

/-- The value of a finite number with no fractional part. -/
def toInt? (x : Binary64) : Option Int :=
  if x.isFinite && x.units % Nat.pow 2 1074 == 0 then
    let n : Int := (x.units / Nat.pow 2 1074 : Nat)
    some (if x.isNegative then -n else n)
  else none

/-! ## Arithmetic on non-negative finite numbers -/

/-- The rounded sum. -/
def add (x y : Binary64) : Binary64 :=
  ofUnits false (x.units + y.units) 1

/-- The rounded product. -/
def mul (x y : Binary64) : Binary64 :=
  ofUnits (x.isNegative != y.isNegative) (x.units * y.units) (Nat.pow 2 1074)

/-- The rounded quotient. -/
def div (x y : Binary64) : Binary64 :=
  ofUnits (x.isNegative != y.isNegative) (x.units * Nat.pow 2 1074) y.units

/-- The nearest integer, a half away from zero. -/
def round (x : Binary64) : Nat :=
  (2 * x.units + Nat.pow 2 1074) / Nat.pow 2 1075

/-- The same number with the other sign. -/
def negate (x : Binary64) : Binary64 :=
  ofMagnitude (!x.isNegative) x.magnitude

end Binary64

end ContentSearch.Number
