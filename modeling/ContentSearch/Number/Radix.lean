import ContentSearch.Number.Hex
import ContentSearch.Number.Integer

/-!
# Integers in other bases

Reading runs of digits in a base of at most sixteen.
-/

namespace ContentSearch.Number

/-- Adds the digits of a base to a number read so far. -/
def digitsFrom? (base acc : Nat) : List Char → Option Nat
  | [] => some acc
  | c :: rest =>
    match hexValue? c with
    | some d => if d < base then digitsFrom? base (acc * base + d) rest else none
    | none => none

/-- The number that a run of digits in a base stands for; a run has at least one digit. -/
def naturalIn? (base : Nat) (cs : List Char) : Option Nat :=
  if cs.isEmpty then none else digitsFrom? base 0 cs

/-- An integer in a base, with an optional sign. -/
def integerIn? (base : Nat) : List Char → Option Int
  | '-' :: rest => (naturalIn? base rest).map fun n => -(n : Int)
  | '+' :: rest => (naturalIn? base rest).map Int.ofNat
  | cs => (naturalIn? base cs).map Int.ofNat

end ContentSearch.Number
