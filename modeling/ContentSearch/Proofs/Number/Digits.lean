import ContentSearch.Number.Hex
import ContentSearch.Number.Integer
import Mathlib.Algebra.Group.Nat.Defs

/-!
# Digits

Runs of decimal and hexadecimal digits, as the readers of numbers meet them one by one.
-/

namespace ContentSearch.Number

/-! ## Runs of digits -/

/-- A run of characters of a class is cut off where a character of another class follows. -/
theorem takeWhile_append_of_head {p : Char → Bool} {front rest : List Char}
    (hfront : ∀ c ∈ front, p c = true) (hrest : ∀ c ∈ rest.head?, p c = false) :
    (front ++ rest).takeWhile p = front ∧ (front ++ rest).dropWhile p = rest := by
  rw [List.takeWhile_append_of_pos hfront, List.dropWhile_append_of_pos hfront]
  cases rest with
  | nil => simp
  | cons c rest =>
    have hc : p c = false := hrest c rfl
    simp [hc]

/-- A digit is none of the other characters of a number. -/
theorem ne_of_isDigit {c d : Char} (hc : c.isDigit = true) (hd : d.isDigit = false) : c ≠ d := by
  rintro rfl
  rw [hc] at hd
  cases hd

/-! ## Decimal digits -/

/-- More digits never make a number smaller. -/
theorem le_ofDigitChars (cs : List Char) (n : Nat) : n ≤ Nat.ofDigitChars 10 cs n := by
  induction cs generalizing n with
  | nil => exact Nat.le_refl n
  | cons c rest ih =>
    rw [Nat.ofDigitChars_cons]
    exact Nat.le_trans (by omega) (ih _)

/-- No number but zero is written with a zero in front. -/
theorem toDigits_ne_zero_cons {n : Nat} (hn : 0 < n) (rest : List Char) :
    Nat.toDigits 10 n ≠ '0' :: rest := by
  induction n using Nat.strongRecOn generalizing rest with
  | ind n ih =>
    by_cases hlt : n < 10
    · rw [Nat.toDigits_of_lt_base hlt]
      intro h
      have hall : ∀ i : Fin 10, 0 < i.val → Nat.digitChar i.val ≠ '0' := by decide
      exact hall ⟨n, hlt⟩ hn (List.cons.inj h).1
    · -- the front of the number is a number itself
      rw [Nat.toDigits_of_base_le (by decide) (by omega)]
      intro h
      cases hfront : Nat.toDigits 10 (n / 10) with
      | nil => exact Nat.toDigits_ne_nil hfront
      | cons c front =>
        rw [hfront] at h
        obtain rfl : c = '0' := (List.cons.inj h).1
        exact ih (n / 10) (by omega) (by omega) front hfront

/-- What begins with a digit has no sign. -/
theorem integer?_of_isDigit {c : Char} (hc : c.isDigit = true) (rest : List Char) :
    integer? (c :: rest) = (natural? (c :: rest)).map Int.ofNat := by
  unfold integer?
  split
  · rename_i hsign
    exact absurd (List.cons.inj hsign).1 (ne_of_isDigit hc rfl)
  · rename_i hsign
    exact absurd (List.cons.inj hsign).1 (ne_of_isDigit hc rfl)
  · rfl

/-- An integer is read back from its digits, with a minus sign in front if it is less than zero. -/
theorem integer?_signed (n : Int) :
    integer? ((if n < 0 then ['-'] else []) ++ Nat.toDigits 10 n.natAbs) = some n := by
  by_cases hneg : n < 0
  · have hminus : -(n.natAbs : Int) = n := by omega
    rw [if_pos hneg, List.singleton_append, integer?, natural?_toDigits]
    exact congrArg some hminus
  · have hplus : Int.ofNat n.natAbs = n := Int.natAbs_of_nonneg (by omega)
    rw [if_neg hneg, List.nil_append]
    cases hcs : Nat.toDigits 10 n.natAbs with
    | nil => exact absurd hcs Nat.toDigits_ne_nil
    | cons c rest =>
      have hc : c ∈ Nat.toDigits 10 n.natAbs := hcs ▸ List.mem_cons_self
      rw [integer?_of_isDigit (Nat.isDigit_of_mem_toDigits (by decide) (by decide) hc), ← hcs,
        natural?_toDigits, Option.map_some, hplus]

/-! ## Hexadecimal digits -/

theorem hexFrom?_append (acc : Nat) (front back : List Char) :
    hexFrom? acc (front ++ back) = (hexFrom? acc front).bind (hexFrom? · back) := by
  induction front generalizing acc with
  | nil => rfl
  | cons c rest ih =>
    simp only [List.cons_append, hexFrom?, ih, Option.bind_assoc]

end ContentSearch.Number
