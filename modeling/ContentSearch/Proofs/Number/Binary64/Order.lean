import ContentSearch.Proofs.Number.Binary64.Text
import ContentSearch.Proofs.Number.Binary64.Value
import Mathlib.Order.WithBot

/-!
# The order of numbers

The numbers that are no NaN have a place among the rationals and the two infinities. Among numbers
of one sign this is the order of their magnitudes, so that the order of all of them is that of the
magnitudes with a sign (`place_lt_iff`), and both zeros share a place.
-/

namespace ContentSearch.Number.Binary64

variable {x y : Binary64}

/-! ## Magnitudes -/

/-- A number lies below the next power of two, and not below its own one. -/
theorem units_lt (x : Binary64) : x.units < 0x10000000000000 * 2 ^ x.exponent := by
  have hpow := Nat.two_pow_pos x.spacing
  by_cases hleast : x.exponent = 0
  · have hfraction : x.fraction < 0x10000000000000 := Nat.mod_lt _ (by decide)
    have hsignificand : x.significand = x.fraction := if_pos hleast
    have hspacing : x.spacing = 0 := by rw [spacing, hleast]
    rw [units_eq, hsignificand, hspacing, hleast]
    omega
  · have hexponent : x.exponent = x.spacing + 1 := by
      unfold spacing
      omega
    have hsignificand := Nat.mul_lt_mul_of_pos_right x.significand_lt hpow
    rw [units_eq, hexponent, Nat.pow_succ]
    omega

/-- A normal number has the leading bit of its significand. -/
theorem le_units (h : x.exponent ≠ 0) : 0x10000000000000 * 2 ^ (x.exponent - 1) ≤ x.units := by
  have hsignificand : x.significand = 0x10000000000000 + x.fraction := if_neg h
  rw [units_eq, hsignificand]
  exact Nat.mul_le_mul_right _ (Nat.le_add_right _ _)

/-- A greater magnitude has more units. -/
theorem units_lt_of_magnitude_lt (h : x.magnitude < y.magnitude) : x.units < y.units := by
  have hx := Nat.div_add_mod x.magnitude 0x10000000000000
  have hy := Nat.div_add_mod y.magnitude 0x10000000000000
  have hxfraction : x.fraction < 0x10000000000000 := Nat.mod_lt _ (by decide)
  by_cases hsame : x.exponent = y.exponent
  · -- the fractions differ, and are counted in the same steps
    have hfraction : x.fraction < y.fraction := by
      unfold exponent at hsame
      unfold fraction
      omega
    have hsignificand : x.significand < y.significand := by
      unfold significand
      rw [hsame]
      split <;> omega
    have hspacing : x.spacing = y.spacing := by rw [spacing, spacing, hsame]
    rw [units_eq, units_eq, hspacing]
    exact Nat.mul_lt_mul_of_pos_right hsignificand (Nat.two_pow_pos _)
  · -- a power of two lies between the numbers
    have hexponent : x.exponent < y.exponent := by
      unfold fraction at hxfraction
      unfold exponent at hsame ⊢
      omega
    calc x.units < 0x10000000000000 * 2 ^ x.exponent := x.units_lt
      _ ≤ 0x10000000000000 * 2 ^ (y.exponent - 1) :=
        Nat.mul_le_mul_left _ (Nat.pow_le_pow_right (by decide) (by omega))
      _ ≤ y.units := le_units (by omega)

theorem units_eq_of_magnitude_eq (h : x.magnitude = y.magnitude) : x.units = y.units := by
  unfold units significand spacing fraction exponent
  rw [h]

/-- Magnitudes are ordered like what they stand for. -/
theorem size_lt_iff : x.size < y.size ↔ x.magnitude < y.magnitude := by
  have hone : (0 : ℚ) < unitsOfOne := by exact_mod_cast unitsOfOne_pos
  rw [size, size, div_lt_div_iff_of_pos_right hone, Nat.cast_lt]
  refine ⟨fun h => ?_, units_lt_of_magnitude_lt⟩
  by_contra hle
  rcases Nat.lt_or_eq_of_le (Nat.not_lt.mp hle) with hlt | heq
  · exact Nat.lt_asymm h (units_lt_of_magnitude_lt hlt)
  · exact Nat.ne_of_lt h (units_eq_of_magnitude_eq heq.symm)

theorem size_pos_iff : 0 < x.size ↔ 0 < x.magnitude := by
  have hzero : (zero false).magnitude = 0 := by decide
  rw [← size_of_magnitude hzero, size_lt_iff, hzero]

/-! ## Magnitudes with a sign -/

/-- The magnitude with the sign of the number. Both zeros have the same. -/
def signedMagnitude (x : Binary64) : Int :=
  if x.isNegative then -x.magnitude else x.magnitude

/-- Values are ordered like the magnitudes with their signs. -/
theorem value_lt_iff : x.value < y.value ↔ x.signedMagnitude < y.signedMagnitude := by
  have hx := x.size_nonneg
  have hy := y.size_nonneg
  unfold value signedMagnitude
  cases x.isNegative <;> cases y.isNegative <;> simp only [Bool.false_eq_true, if_false, if_true]
  · rw [size_lt_iff]
    omega
  · exact iff_of_false (by linarith) (by omega)
  · -- only between two zeros the sign makes no difference
    have hpos : -x.size < y.size ↔ 0 < x.size ∨ 0 < y.size := by
      constructor
      · intro h
        by_contra hnone
        rw [not_or, not_lt, not_lt] at hnone
        linarith
      · rintro (h | h) <;> linarith
    rw [hpos, size_pos_iff, size_pos_iff]
    omega
  · rw [neg_lt_neg_iff, size_lt_iff]
    omega

/-! ## Places -/

/-- The place of a number among the rationals and the two infinities. -/
def place (x : Binary64) : WithBot (WithTop ℚ) :=
  if x.isFinite then ((x.value : WithTop ℚ) : WithBot (WithTop ℚ))
  else if x.isNegative then ⊥
  else ⊤

theorem place_of_isFinite (h : x.isFinite = true) :
    x.place = ((x.value : WithTop ℚ) : WithBot (WithTop ℚ)) :=
  if_pos h

/-- The infinities stand at the ends. -/
theorem place_of_infinite (h : x.isFinite = false) :
    x.place = if x.isNegative then ⊥ else ⊤ := by
  rw [place, h, if_neg Bool.false_ne_true]

/-- Finite numbers stand between the infinities. -/
theorem bot_lt_place (h : x.isFinite = true) : ⊥ < x.place := by
  rw [place_of_isFinite h]
  exact WithBot.bot_lt_coe _

theorem place_lt_top (h : x.isFinite = true) : x.place < ⊤ := by
  rw [place_of_isFinite h]
  exact WithBot.coe_lt_coe.mpr (WithTop.coe_lt_top _)

/-- The magnitude of the infinite numbers. -/
def infiniteMagnitude : Int := 2047 * 0x10000000000000

/-- An infinity has the magnitude of infinity, with its sign. -/
theorem signedMagnitude_of_infinite (hinfinite : x.isFinite = false) (hnumber : x.isNaN = false) :
    x.signedMagnitude = if x.isNegative then -infiniteMagnitude else infiniteMagnitude := by
  have hmagnitude : x.magnitude = 2047 * 0x10000000000000 := by
    rw [eq_infinity hinfinite hnumber]
    exact magnitude_ofMagnitude _ (by decide)
  rw [signedMagnitude, hmagnitude]
  rfl

/-- Finite numbers have magnitudes below that of infinity. -/
theorem signedMagnitude_bounds (h : x.isFinite = true) :
    -infiniteMagnitude < x.signedMagnitude ∧ x.signedMagnitude < infiniteMagnitude := by
  have hmagnitude := magnitude_lt_of_isFinite h
  unfold signedMagnitude infiniteMagnitude
  split <;> omega

/-- Numbers are in the order of their magnitudes with a sign. -/
theorem place_lt_iff (hx : x.isNaN = false) (hy : y.isNaN = false) :
    x.place < y.place ↔ x.signedMagnitude < y.signedMagnitude := by
  have hpos : -infiniteMagnitude < infiniteMagnitude := by decide
  cases hxfinite : x.isFinite with
  | true =>
    have hxbounds := signedMagnitude_bounds hxfinite
    cases hyfinite : y.isFinite with
    | true =>
      rw [place_of_isFinite hxfinite, place_of_isFinite hyfinite, WithBot.coe_lt_coe,
        WithTop.coe_lt_coe, value_lt_iff]
    | false =>
      rw [place_of_infinite hyfinite, signedMagnitude_of_infinite hyfinite hy]
      split
      · exact iff_of_false not_lt_bot (by omega)
      · exact iff_of_true (place_lt_top hxfinite) hxbounds.2
  | false =>
    rw [place_of_infinite hxfinite, signedMagnitude_of_infinite hxfinite hx]
    cases hyfinite : y.isFinite with
    | true =>
      have hybounds := signedMagnitude_bounds hyfinite
      split
      · exact iff_of_true (bot_lt_place hyfinite) hybounds.1
      · exact iff_of_false not_top_lt (by omega)
    | false =>
      rw [place_of_infinite hyfinite, signedMagnitude_of_infinite hyfinite hy]
      split <;> split
      · exact iff_of_false (lt_irrefl _) (lt_irrefl _)
      · exact iff_of_true bot_lt_top hpos
      · exact iff_of_false not_lt_bot (by omega)
      · exact iff_of_false (lt_irrefl _) (lt_irrefl _)

/-- Both zeros stand at one place, and besides them no two numbers do. -/
theorem place_eq_iff (hx : x.isNaN = false) (hy : y.isNaN = false) :
    x.place = y.place ↔ x.signedMagnitude = y.signedMagnitude := by
  rw [le_antisymm_iff, le_antisymm_iff, ← not_lt, ← not_lt, ← not_lt, ← not_lt,
    place_lt_iff hx hy, place_lt_iff hy hx]

end ContentSearch.Number.Binary64
