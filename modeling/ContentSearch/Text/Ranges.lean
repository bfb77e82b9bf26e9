/-!
# Tables of code points

A Unicode property is a list of closed ranges of code points. A case mapping is a list of runs:
every `step`-th code point of a range, mapped to the code point at the same distance from
`target`.
-/

namespace ContentSearch.Text

/-- Closed ranges of code points. -/
abbrev CodeRanges := List (Nat × Nat)

/-- Whether a range holds the character. -/
def CodeRanges.contains (ranges : CodeRanges) (c : Char) : Bool :=
  ranges.any fun range => Nat.ble range.1 c.toNat && Nat.ble c.toNat range.2

/-- The code points `first`, `first + step`, … up to `last`, mapped to `target`,
`target + step`, … -/
structure CodeRun where
  first : Nat
  last : Nat
  step : Nat
  target : Nat

namespace CodeRun

/-- Whether the run maps the code point. -/
def covers (run : CodeRun) (code : Nat) : Bool :=
  Nat.ble run.first code && Nat.ble code run.last && (code - run.first) % run.step == 0

/-- The image of a character under the first run that covers it. -/
def image? (runs : List CodeRun) (c : Char) : Option Char :=
  (runs.find? (·.covers c.toNat)).map fun run =>
    Char.ofNat (run.target + (c.toNat - run.first))

end CodeRun

end ContentSearch.Text
