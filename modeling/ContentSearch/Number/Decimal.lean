import ContentSearch.Number.Binary64
import ContentSearch.Number.Integer

/-!
# Decimal numbers with a scale

A decimal is an integer of at most 96 bits and the number of its digits after the point, at most
28. The scale is part of the value's text (`1.50` is not written `1.5`), not of its number. Zero
has no sign, since the integer has none.
-/

namespace ContentSearch.Number

/-- The number `units / 10 ^ scale`; the units have 96 bits. -/
structure Decimal where
  units : Int
  scale : Nat
  units_lt : units.natAbs < 0x1000000000000000000000000
  scale_le : scale ≤ 28
  deriving DecidableEq

namespace Decimal

/-- The decimal of these parts, if they are in range. -/
def ofParts? (units : Int) (scale : Nat) : Option Decimal :=
  if h : units.natAbs < 0x1000000000000000000000000 ∧ scale ≤ 28 then
    some ⟨units, scale, h.1, h.2⟩
  else none

/-- The decimal of a 64-bit integer. -/
def ofLong (n : Int64) : Decimal :=
  ⟨n.toInt, 0, by have := Int64.le_toInt n; have := Int64.toInt_lt n; omega, by decide⟩

/-! ## Text -/

/-- All digits of the scale are written, and at least one before the point. -/
def text (d : Decimal) : String :=
  let digits := Nat.toDigits 10 d.units.natAbs
  let padded := List.replicate (d.scale + 1 - digits.length) '0' ++ digits
  let whole := padded.take (padded.length - d.scale)
  let fraction := padded.drop (padded.length - d.scale)
  let sign := if d.units < 0 then ['-'] else []
  String.ofList (sign ++ whole ++ if d.scale = 0 then [] else '.' :: fraction)

/-- How far a text has been read. -/
structure Reading where
  units : Nat
  scale : Nat
  seenPoint : Bool
  seenDigit : Bool

/-- What to do with digits that do not fit. -/
inductive Excess
  | refuse
  | round

/-- The digit that decides about rounding. Where no further place is left, a point or an underscore
counts as a zero. -/
def deciding? (r : Reading) (c : Char) : Option Nat :=
  if c.isDigit then some (c.toNat - 0x30)
  else if r.scale = 28 ∧ (c = '.' ∨ c = '_') then some 0
  else none

/-- Rounds by the first digit that does not fit; a half goes up. The rest of the text is not
looked at. -/
def roundOff (r : Reading) (c : Char) : Option Reading :=
  (deciding? r c).bind fun digit =>
    let units := if 5 ≤ digit then r.units + 1 else r.units
    if units < 0x1000000000000000000000000 then some { r with units }
    else if 0 < r.scale then some { r with units := (units + 4) / 10, scale := r.scale - 1 }
    else none

/-- Reads digits, at most one point, and underscores after the first digit. -/
def readFrom (excess : Excess) (r : Reading) : List Char → Option Reading
  | [] => some r
  | c :: rest =>
    if c = '_' ∧ r.seenDigit ∧ r.scale < 28 then readFrom excess r rest
    else if c = '.' ∧ !r.seenPoint then readFrom excess { r with seenPoint := true } rest
    else if c.isDigit ∧ r.scale < 28 ∧
        r.units * 10 + (c.toNat - 0x30) < 0x1000000000000000000000000 then
      readFrom excess
        { r with
          units := r.units * 10 + (c.toNat - 0x30)
          scale := if r.seenPoint then r.scale + 1 else 0
          seenDigit := true } rest
    else match excess with
      | .round => if r.seenPoint then roundOff r c else none
      | .refuse => none

/-- A decimal with an optional sign. -/
def read? (excess : Excess) (cs : List Char) : Option Decimal :=
  let (negative, body) := match cs with
    | '-' :: rest => (true, rest)
    | '+' :: rest => (false, rest)
    | _ => (false, cs)
  (readFrom excess ⟨0, 0, false, false⟩ body).bind fun r =>
    if r.seenDigit then ofParts? (if negative then -(r.units : Int) else r.units) r.scale
    else none

/-- A decimal with nothing lost. -/
def ofText? (s : String) : Option Decimal :=
  read? .refuse s.toList

/-- A natural number, with a plus sign or without. -/
def places? : List Char → Option Nat
  | '+' :: digits => natural? digits
  | digits => natural? digits

/-- Moves the point of a decimal; digits are added where the scale would fall below zero. -/
def shiftPoint? (d : Decimal) : List Char → Option Decimal
  | '-' :: digits => (places? digits).bind fun n => ofParts? d.units (d.scale + n)
  | digits => (places? digits).bind fun n =>
    if n ≤ d.scale then ofParts? d.units (d.scale - n)
    else if n ≤ 28 then ofParts? (d.units * Nat.pow 10 (n - d.scale)) 0
    else none

/-- Decimal notation, rounded to what fits, or a decimal with an exponent. -/
def ofNotation? (s : String) : Option Decimal :=
  let cs := s.toList
  match read? .round cs with
  | some d => some d
  | none =>
    let isMark : Char → Bool := fun c => c == 'e' || c == 'E'
    match cs.dropWhile (!isMark ·) with
    | [] => none
    | _ :: exponent => (read? .round (cs.takeWhile (!isMark ·))).bind (shiftPoint? · exponent)

/-! ## Conversions -/

/-- The integer that a decimal with no fractional part equals. -/
def toInt? (d : Decimal) : Option Int :=
  let unit : Int := Nat.pow 10 d.scale
  if d.units % unit = 0 then some (d.units / unit) else none

/-- The floating-point number of a decimal: the whole part plus the quotient of the fraction,
rounded again to the places of the scale to take off what the sum brought in. -/
def toBinary64 (d : Decimal) : Binary64 :=
  let unit := Binary64.ofInt (Nat.pow 10 d.scale : Nat)
  let whole := Binary64.ofInt (d.units.natAbs / Nat.pow 10 d.scale : Nat)
  let fraction := (Binary64.ofInt (d.units.natAbs % Nat.pow 10 d.scale : Nat)).div unit
  let size :=
    if d.scale = 0 ∨ fraction.units = 0 then whole
    else (Binary64.ofInt (((whole.add fraction).mul unit).round : Nat)).div unit
  if d.units < 0 then size.negate else size

/-- A number `mantissa · 2 ^ (-halvings) · 10 ^ tens` on its way to a decimal. -/
structure Approach where
  mantissa : Nat
  tens : Int

/-- Takes away one halving: halves an even mantissa, else multiplies it by five and divides by
ten, and where that does not fit into 96 bits halves it and loses a bit. -/
def Approach.halve (a : Approach) : Approach :=
  if a.mantissa % 2 = 0 then { a with mantissa := a.mantissa / 2 }
  else if a.mantissa * 5 < 0x1000000000000000000000000 then ⟨a.mantissa * 5, a.tens - 1⟩
  else { a with mantissa := a.mantissa / 2 }

/-- Takes away one doubling: doubles the mantissa, and where that does not fit divides it by five
and multiplies by ten. -/
def Approach.double (a : Approach) : Approach :=
  if a.mantissa < 0x800000000000000000000000 then { a with mantissa := a.mantissa * 2 }
  else ⟨a.mantissa / 5, a.tens + 1⟩

/-- Divides by ten and rounds a half up. The last digit is dropped without rounding. -/
def Approach.dropDigit (a : Approach) : Approach :=
  if a.mantissa < 10 then ⟨0, 0⟩
  else ⟨a.mantissa / 10 + (if 5 ≤ a.mantissa % 10 then 1 else 0), a.tens + 1⟩

/-- Drops digits while `excess` says so, at most `fuel` times. -/
def Approach.dropWhile (excess : Approach → Bool) : Nat → Approach → Approach
  | 0, a => a
  | fuel + 1, a => if excess a then dropWhile excess fuel a.dropDigit else a

/-- Strips zeros after the point, at most `fuel` times. -/
def Approach.strip : Nat → Approach → Approach
  | 0, a => a
  | fuel + 1, a =>
    if a.tens < 0 ∧ a.mantissa % 10 = 0 then strip fuel ⟨a.mantissa / 10, a.tens + 1⟩ else a

/-- The places that are kept: at most 28, and no more than the precision of a floating-point
number warrants, which is a mantissa below `2 ^ 52`. -/
def Approach.settle (a : Approach) : Approach :=
  let a := dropWhile (fun a => a.tens < -28) (-a.tens).toNat a
  let a := dropWhile (fun a => a.tens < 0 && 0x10000000000000 ≤ a.mantissa) (-a.tens).toNat a
  strip (-a.tens).toNat a

/-- The decimal nearest to a finite floating-point number at its precision, if it fits. -/
def ofBinary64? (x : Binary64) : Option Decimal :=
  if !x.isFinite then none
  else
    let power : Int := (x.spacing : Int) - 1074
    let a := if power < 0
      then Nat.repeat Approach.halve (-power).toNat ⟨x.significand, 0⟩
      else Nat.repeat Approach.double power.toNat ⟨x.significand, 0⟩
    if 0 < a.tens then
      ofParts? (if x.isNegative then -(a.mantissa * Nat.pow 10 a.tens.toNat : Nat)
        else (a.mantissa * Nat.pow 10 a.tens.toNat : Nat)) 0
    else
      let a := a.settle
      ofParts? (if x.isNegative then -(a.mantissa : Int) else a.mantissa) (-a.tens).toNat

end Decimal

end ContentSearch.Number
