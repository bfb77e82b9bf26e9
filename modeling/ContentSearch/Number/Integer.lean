/-!
# Integers in decimal

Reading runs of ASCII digits, with a sign or without, and the range of a 64-bit integer.
-/

namespace ContentSearch.Number

/-- The number that a run of digits stands for; a run has at least one digit. -/
def natural? (cs : List Char) : Option Nat :=
  if !cs.isEmpty && cs.all Char.isDigit then some (Nat.ofDigitChars 10 cs 0) else none

/-- An integer with an optional sign. -/
def integer? : List Char → Option Int
  | '-' :: rest => (natural? rest).map fun n => -(n : Int)
  | '+' :: rest => (natural? rest).map Int.ofNat
  | cs => (natural? cs).map Int.ofNat

/-- The 64-bit integer of this value, if there is one. -/
def int64? (n : Int) : Option Int64 :=
  if -0x8000000000000000 ≤ n ∧ n < 0x8000000000000000 then some (Int64.ofInt n) else none

/-- A 64-bit integer in decimal. -/
def long? (s : String) : Option Int64 :=
  (integer? s.toList).bind int64?

theorem natural?_toDigits (n : Nat) : natural? (Nat.toDigits 10 n) = some n := by
  have hall : (Nat.toDigits 10 n).all Char.isDigit = true :=
    List.all_eq_true.mpr fun c hc => Nat.isDigit_of_mem_toDigits (by decide) (by decide) hc
  have hne : (Nat.toDigits 10 n).isEmpty = false := by
    simp [Nat.toDigits_ne_nil]
  rw [natural?, hall, hne, Nat.ofDigitChars_toDigits (by decide) (by decide)]
  rfl

theorem int64?_toInt (n : Int64) : int64? n.toInt = some n := by
  have h : -0x8000000000000000 ≤ n.toInt ∧ n.toInt < 0x8000000000000000 :=
    ⟨Int64.le_toInt n, Int64.toInt_lt n⟩
  rw [int64?, if_pos h, Int64.ofInt_toInt]

theorem toInt_of_int64? {n : Int} {m : Int64} (h : int64? n = some m) : m.toInt = n := by
  unfold int64? at h
  split at h
  · cases h
    rename_i hn
    exact Int64.toInt_ofInt_of_le hn.1 hn.2
  · cases h

end ContentSearch.Number
