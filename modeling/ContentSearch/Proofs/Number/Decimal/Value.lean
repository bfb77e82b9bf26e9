import ContentSearch.Number.Decimal
import Mathlib.Algebra.Order.Field.Basic
import Mathlib.Data.Rat.Cast.Order
import Mathlib.Tactic.FieldSimp
import Mathlib.Tactic.Positivity

/-!
# The values of decimals

The number that a decimal stands for, whatever its scale is.
-/

namespace ContentSearch.Number.Decimal

variable {d : Decimal}

/-- The number of a decimal. -/
def value (d : Decimal) : ℚ :=
  d.units / 10 ^ d.scale

theorem value_eq_intCast_iff {n : Int} :
    d.value = n ↔ d.units = n * (Nat.pow 10 d.scale : Nat) := by
  have hne : (10 : ℚ) ^ d.scale ≠ 0 := by positivity
  have hpow : ((Nat.pow 10 d.scale : Nat) : Int) = 10 ^ d.scale := by
    show ((10 ^ d.scale : Nat) : Int) = _
    push_cast
    rfl
  rw [value, div_eq_iff hne, hpow]
  exact_mod_cast Iff.rfl

/-- An integer is read from the decimals that have it as their value. -/
theorem toInt?_eq_some_iff {n : Int} : d.toInt? = some n ↔ d.value = n := by
  have hpos : (0 : Int) < (Nat.pow 10 d.scale : Nat) := by
    exact_mod_cast Nat.pow_pos (by decide : 0 < 10)
  rw [value_eq_intCast_iff]
  unfold toInt?
  generalize ((Nat.pow 10 d.scale : Nat) : Int) = unit at *
  dsimp only
  constructor
  · intro h
    split at h
    · rename_i hwhole
      rw [← Option.some.inj h, Int.ediv_mul_cancel (Int.dvd_of_emod_eq_zero hwhole)]
    · cases h
  · intro h
    rw [h, Int.mul_emod_left, if_pos rfl, Int.mul_ediv_cancel n (Int.ne_of_gt hpos)]

end ContentSearch.Number.Decimal
