import ContentSearch.Number.Binary64

/-!
# Shortest decimal text

A finite number is written with the fewest digits that read back as the same number, and of the
texts with that many digits the nearest. The digits are found by testing, for one digit, two
digits and so on, the two neighbours of the number on the decimal grid.
-/

namespace ContentSearch.Number.Binary64

/-! ## Digits -/

/-- The quarter units that separate a number from the borders of its rounding interval. The lower
border is nearer below a power of two. -/
structure Interval where
  value : Nat
  low : Nat
  high : Nat
  closed : Bool

/-- The reals that round to a positive finite number, in quarters of a unit. A border belongs to
the number when its significand is even. -/
def interval (x : Binary64) : Interval :=
  let half := Nat.pow 2 (x.spacing + 1)
  let value := 4 * x.units
  { value
    low := value - (if x.fraction = 0 ∧ 1 < x.exponent then half / 2 else half)
    high := value + half
    closed := x.significand % 2 == 0 }

/-- Whether `num / den` quarter units lie in the interval. -/
def Interval.holds (i : Interval) (num den : Nat) : Bool :=
  if i.closed then Nat.ble (i.low * den) num && Nat.ble num (i.high * den)
  else Nat.blt (i.low * den) num && Nat.blt num (i.high * den)

/-- The number of digits before the decimal point of a positive number, zero or negative when the
number is less than one tenth of one. -/
def pointPosition (x : Binary64) : Int :=
  ((Nat.toDigits 10 (x.units * Nat.pow 10 400 / Nat.pow 2 1074)).length : Int) - 400

/-- The quarter units in one step of the decimal grid `10 ^ exponent`, as a quotient. -/
def gridStep (exponent : Int) : Nat × Nat :=
  if 0 ≤ exponent then (Nat.pow 10 exponent.toNat * Nat.pow 2 1076, 1)
  else (Nat.pow 2 1076, Nat.pow 10 (-exponent).toNat)

/-- The neighbour of the number on the grid `10 ^ exponent` that reads back as the number, the
nearer one if both do and the upper one at equal distance. -/
def onGrid? (i : Interval) (exponent : Int) : Option Nat :=
  let (step, den) := gridStep exponent
  let below := i.value * den / step
  let rest := i.value * den % step
  let lowerOk := i.holds (below * step) den
  let upperOk := i.holds ((below + 1) * step) den
  if lowerOk && upperOk then some (if 2 * rest < step then below else below + 1)
  else if lowerOk then some below
  else if upperOk then some (below + 1)
  else none

/-- Drops the last digit if it is zero, which happens when all digits round up to a power of
ten. -/
def dropZero (digits : Nat) (exponent : Int) : Nat × Int :=
  if digits % 10 = 0 then (digits / 10, exponent + 1) else (digits, exponent)

/-- Tries `count`, `count + 1`, … digits, at most `fuel` times. -/
def shortestFrom (i : Interval) (point : Int) (count : Nat) : Nat → Nat × Int
  | 0 => (0, 0)
  | fuel + 1 =>
    match onGrid? i (point - count) with
    | some digits => dropZero digits (point - count)
    | none => shortestFrom i point (count + 1) fuel

/-- The digits of a positive finite number and the power of ten that they count. Seventeen digits
always suffice. -/
def shortest (x : Binary64) : Nat × Int :=
  shortestFrom x.interval x.pointPosition 1 17

/-! ## Layout -/

/-- Digits with a decimal point after the first `point` of them and a digit on either side. -/
def positional (digits : List Char) (point : Int) : List Char :=
  if point ≤ 0 then
    ['0', '.'] ++ List.replicate (-point).toNat '0' ++ digits
  else if digits.length ≤ point.toNat then
    digits ++ List.replicate (point.toNat - digits.length) '0' ++ ['.', '0']
  else
    digits.take point.toNat ++ ['.'] ++ digits.drop point.toNat

/-- Digits with a decimal point after the first, if there are more, and an exponent. -/
def scientific (digits : List Char) (point : Int) : List Char :=
  let mantissa := match digits with
    | d :: e :: rest => d :: '.' :: e :: rest
    | ds => ds
  mantissa ++ ['e'] ++ (toString (point - 1)).toList

/-- Positions of the decimal point above `lowest` and up to 16 are written positionally, any other
with an exponent. -/
def layout (lowest : Int) (digits : List Char) (point : Int) : List Char :=
  if lowest < point ∧ point ≤ 16 then positional digits point else scientific digits point

/-- The text of the absolute value of a finite number. -/
def finiteText (lowest : Int) (x : Binary64) : List Char :=
  if x.units = 0 then ['0', '.', '0']
  else
    let (digits, exponent) := x.shortest
    let ds := Nat.toDigits 10 digits
    layout lowest ds (ds.length + exponent)

/-- The text of a number; from `10 ^ (-4)` up to `10 ^ 16` it is positional. -/
def text (x : Binary64) : String :=
  if x.isNaN then "NaN"
  else
    let body := if x.isFinite then String.ofList (x.finiteText (-4)) else "Infinity"
    if x.isNegative then "-" ++ body else body

end ContentSearch.Number.Binary64
