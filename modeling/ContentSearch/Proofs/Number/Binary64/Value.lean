import ContentSearch.Proofs.Number.Binary64.Rounding
import Mathlib.Algebra.Order.Field.Basic
import Mathlib.Data.Rat.Cast.Order
import Mathlib.Tactic.FieldSimp
import Mathlib.Tactic.Positivity

/-!
# The values of numbers

A finite number has a rational value, and building a number from a ratio rounds the ratio to whole
steps (`ofUnits_eq`). Integers of at most 53 bits before their last zeros are met exactly, and no
others are (`toInt?_ofInt_iff`).
-/

namespace ContentSearch.Number.Binary64

variable {x : Binary64}

/-! ## Built numbers -/

/-- The sign does not disturb the magnitude. -/
theorem magnitude_ofMagnitude (negative : Bool) {m : Nat} (h : m < 0x8000000000000000) :
    (ofMagnitude negative m).magnitude = m := by
  unfold magnitude ofMagnitude
  rw [UInt64.toNat_ofNat']
  split <;> omega

/-- The magnitude does not disturb the sign. -/
theorem isNegative_ofMagnitude (negative : Bool) {m : Nat} (h : m < 0x8000000000000000) :
    (ofMagnitude negative m).isNegative = negative := by
  unfold isNegative ofMagnitude
  rw [UInt64.toNat_ofNat']
  cases negative with
  | false => exact decide_eq_false (by simp only [Bool.false_eq_true, if_false]; omega)
  | true => exact decide_eq_true (by simp only [if_true]; omega)

/-- A spacing and a significand make up a magnitude in one way. A significand of one bit too many
carries into the spacing. -/
theorem units_of_magnitude {spacing r : Nat} (h : x.magnitude = spacing * 0x10000000000000 + r)
    (hr : r ≤ 0x20000000000000) (hlow : spacing = 0 ∨ 0x10000000000000 ≤ r) :
    x.units = r * 2 ^ spacing := by
  have hparts := magnitude_eq x
  have hsignificand := significand_lt x
  have hleast := @le_significand x
  rw [units_eq]
  by_cases hcarry : r = 0x20000000000000
  · have hspacing : x.spacing = spacing + 1 := by omega
    have hhalf : x.significand * 2 = r := by omega
    rw [hspacing, Nat.pow_succ, ← hhalf]
    ring
  · have hspacing : x.spacing = spacing := by omega
    have hsame : x.significand = r := by omega
    rw [hspacing, hsame]

/-! ## Rounding to integers -/

/-- Rounding moves a quotient by at most one half. -/
theorem roundEven_bounds (num : Nat) {den : Nat} (hden : 0 < den) :
    2 * (roundEven num den * den) ≤ 2 * num + den
      ∧ 2 * num ≤ 2 * (roundEven num den * den) + den := by
  have hnum : den * (num / den) + num % den = num := Nat.div_add_mod num den
  have hrest : num % den < den := Nat.mod_lt num hden
  unfold roundEven
  generalize num / den = q at hnum ⊢
  generalize num % den = r at hnum hrest ⊢
  have hfloor : den * q = q * den := Nat.mul_comm den q
  have hceil : (q + 1) * den = q * den + den := Nat.succ_mul q den
  dsimp only
  split
  · omega
  · split
    · -- a half, to the even side
      rcases Nat.mod_two_eq_zero_or_one q with heven | hodd
      · rw [heven, Nat.add_zero]
        omega
      · rw [hodd]
        omega
    · omega

/-- An integer is rounded to itself. -/
theorem roundEven_mul (n : Nat) {den : Nat} (hden : 0 < den) : roundEven (n * den) den = n := by
  have hassoc : 2 * n * den = 2 * (n * den) := Nat.mul_assoc 2 n den
  have hmore : (2 * n + 1) * den = 2 * (n * den) + den := by ring
  apply roundEven_eq hden
  · omega
  · omega
  · intro _
    omega

/-! ## Rounding to numbers -/

/-- How a ratio lies to the steps in which it is counted. -/
theorem step_bounds (num : Nat) {den : Nat} (hden : 0 < den) :
    num < 0x20000000000000 * (den * 2 ^ ((num / den).log2 - 52))
      ∧ ((num / den).log2 - 52 = 0
        ∨ 0x10000000000000 * (den * 2 ^ ((num / den).log2 - 52)) ≤ num) := by
  have hroof : num < (num / den + 1) * den := Nat.lt_mul_of_div_lt (Nat.lt_succ_self _) hden
  have hfloor : num / den * den ≤ num := Nat.div_mul_le_self num den
  generalize num / den = q at hroof hfloor ⊢
  have hlog : q < 2 ^ (q.log2 + 1) := Nat.lt_log2_self
  constructor
  · have hpow : 2 ^ (q.log2 + 1) ≤ 2 ^ (53 + (q.log2 - 52)) :=
      Nat.pow_le_pow_right (by decide) (by omega)
    calc num < (q + 1) * den := hroof
      _ ≤ 2 ^ (53 + (q.log2 - 52)) * den := Nat.mul_le_mul_right den (by omega)
      _ = 0x20000000000000 * (den * 2 ^ (q.log2 - 52)) := by ring
  · by_cases hspacing : q.log2 - 52 = 0
    · exact Or.inl hspacing
    · right
      have hq : q ≠ 0 := by
        intro hzero
        subst hzero
        exact hspacing rfl
      have hpow : 2 ^ (52 + (q.log2 - 52)) ≤ q :=
        Nat.le_trans (Nat.pow_le_pow_right (by decide) (by omega)) (Nat.log2_self_le hq)
      calc 0x10000000000000 * (den * 2 ^ (q.log2 - 52)) = 2 ^ (52 + (q.log2 - 52)) * den := by ring
        _ ≤ q * den := Nat.mul_le_mul_right den hpow
        _ ≤ num := hfloor

/-- A ratio that is not too large is rounded to whole steps. -/
theorem ofUnits_eq (negative : Bool) {num den : Nat} (hden : 0 < den)
    (hroof : (num / den).log2 ≤ 2000) :
    (ofUnits negative num den).isFinite = true
      ∧ (ofUnits negative num den).isNegative = negative
      ∧ (ofUnits negative num den).units
        = roundEven num (den * 2 ^ ((num / den).log2 - 52)) * 2 ^ ((num / den).log2 - 52) := by
  obtain ⟨hupper, hlower⟩ := step_bounds num hden
  have hmade : ofUnits negative num den
      = if ((num / den).log2 - 52) * 0x10000000000000
            + roundEven num (den * 2 ^ ((num / den).log2 - 52)) < 2047 * 0x10000000000000
        then ofMagnitude negative (((num / den).log2 - 52) * 0x10000000000000
            + roundEven num (den * 2 ^ ((num / den).log2 - 52)))
        else infinity negative := rfl
  generalize (num / den).log2 = log at *
  have hstep : 0 < den * 2 ^ (log - 52) := Nat.mul_pos hden (Nat.two_pow_pos _)
  obtain ⟨hdown, hup⟩ := roundEven_bounds num hstep
  generalize den * 2 ^ (log - 52) = step at *
  generalize roundEven num step = r at *
  -- the rounded significand has at most the bits of a step and one more
  have hr : r ≤ 0x20000000000000 := by
    by_contra hmore
    have hfar : 0x20000000000001 * step ≤ r * step := Nat.mul_le_mul_right step (by omega)
    omega
  have hlow : log - 52 = 0 ∨ 0x10000000000000 ≤ r := by
    rcases hlower with hzero | hlower
    · exact Or.inl hzero
    · right
      by_contra hless
      have hnear : r * step ≤ 0xfffffffffffff * step := Nat.mul_le_mul_right step (by omega)
      omega
  have hmagnitude : (log - 52) * 0x10000000000000 + r < 2047 * 0x10000000000000 := by omega
  rw [hmade, if_pos hmagnitude]
  have hparts := magnitude_ofMagnitude negative (m := (log - 52) * 0x10000000000000 + r) (by omega)
  refine ⟨?_, isNegative_ofMagnitude negative (by omega), units_of_magnitude hparts hr hlow⟩
  rw [isFinite, exponent, hparts]
  exact decide_eq_true (by omega)

/-- A ratio that is a whole number of steps is not rounded. -/
theorem units_ofUnits_of_dvd (negative : Bool) {num den : Nat} (hden : 0 < den)
    (hroof : (num / den).log2 ≤ 2000) (h : den * 2 ^ ((num / den).log2 - 52) ∣ num) :
    (ofUnits negative num den).units * den = num := by
  obtain ⟨n, hn⟩ := h
  have hstep : 0 < den * 2 ^ ((num / den).log2 - 52) := Nat.mul_pos hden (Nat.two_pow_pos _)
  obtain ⟨-, -, hunits⟩ := ofUnits_eq negative hden hroof
  generalize (ofUnits negative num den).units = made at *
  generalize (num / den).log2 - 52 = spacing at *
  rw [hn, Nat.mul_comm _ n, roundEven_mul n hstep] at hunits
  rw [hunits, hn]
  ring

/-! ## Values -/

/-- The number one, in units. The power is too large to be worked out, and is kept closed. -/
@[irreducible]
def unitsOfOne : Nat := Nat.pow 2 1074

/-- The power stays a variable: with the literal it would be evaluated. -/
theorem unitsOfOne_eq {power : Nat} (h : power = 1074) : unitsOfOne = 2 ^ power := by
  unfold unitsOfOne
  generalize 1074 = exponent at h ⊢
  exact h ▸ rfl

theorem pow_eq_unitsOfOne : Nat.pow 2 1074 = unitsOfOne := by
  unfold unitsOfOne
  rfl

theorem unitsOfOne_pos : 0 < unitsOfOne := by
  obtain ⟨power, hpower⟩ : ∃ power : Nat, power = 1074 := ⟨1074, rfl⟩
  rw [unitsOfOne_eq hpower]
  exact Nat.two_pow_pos power

/-- The absolute value of a finite number. -/
def size (x : Binary64) : ℚ :=
  x.units / unitsOfOne

/-- The value of a finite number. -/
def value (x : Binary64) : ℚ :=
  if x.isNegative then -x.size else x.size

/-- The two are one number; both zeros are. -/
def Coincides (x y : Binary64) : Prop :=
  x = y ∨ x.magnitude = 0 ∧ y.magnitude = 0

/-- Zero has no size. -/
theorem size_of_magnitude (h : x.magnitude = 0) : x.size = 0 := by
  have hparts : x.magnitude = 0 * 0x10000000000000 + 0 := h
  rw [size, units_of_magnitude hparts (Nat.zero_le _) (Or.inl rfl), Nat.zero_mul, Nat.cast_zero,
    zero_div]

theorem size_nonneg (x : Binary64) : 0 ≤ x.size := by
  unfold size
  positivity

/-- The size is the value without its sign. -/
theorem abs_value (x : Binary64) : |x.value| = x.size := by
  rw [value]
  split
  · rw [abs_neg, abs_of_nonneg x.size_nonneg]
  · rw [abs_of_nonneg x.size_nonneg]

/-- The size is an integer where the units are a multiple of those of one. -/
theorem size_eq_natCast_iff {n : Nat} : x.size = n ↔ x.units = n * unitsOfOne := by
  have hne : (unitsOfOne : ℚ) ≠ 0 := by
    have hone := unitsOfOne_pos
    positivity
  rw [size, div_eq_iff hne]
  exact_mod_cast Iff.rfl

theorem size_of_value {n : Int} (h : x.value = n) : x.size = n.natAbs := by
  rw [← abs_value, h, Nat.cast_natAbs, Int.cast_abs]

/-- A number is an integer if its units make whole ones. -/
theorem toInt?_eq (x : Binary64) :
    x.toInt? = if x.isFinite && x.units % unitsOfOne == 0 then
      some (if x.isNegative then -((x.units / unitsOfOne : Nat) : Int)
        else ((x.units / unitsOfOne : Nat) : Int))
    else none := by
  unfold toInt?
  rw [pow_eq_unitsOfOne]

/-- An integer is read from the numbers that have it as their value. -/
theorem toInt?_eq_some_iff {n : Int} :
    x.toInt? = some n ↔ x.isFinite = true ∧ x.value = n := by
  rw [toInt?_eq]
  constructor
  · intro h
    split at h
    · rename_i htest
      rw [Bool.and_eq_true, beq_iff_eq] at htest
      have hunits : x.units = x.units / unitsOfOne * unitsOfOne :=
        (Nat.div_mul_cancel (Nat.dvd_of_mod_eq_zero htest.2)).symm
      have hsize := size_eq_natCast_iff.mpr hunits
      refine ⟨htest.1, ?_⟩
      rw [value, hsize, ← Option.some.inj h]
      split <;> push_cast <;> rfl
    · cases h
  · intro ⟨hfinite, hvalue⟩
    have hsize := size_of_value hvalue
    have hunits := size_eq_natCast_iff.mp hsize
    have hquotient : x.units / unitsOfOne = n.natAbs := by
      rw [hunits, Nat.mul_div_cancel _ unitsOfOne_pos]
    have hwhole : (x.units % unitsOfOne == 0) = true := by
      rw [hunits, Nat.mul_mod_left]
      rfl
    rw [hfinite, hwhole, Bool.and_self, if_pos rfl, hquotient]
    -- the sign of the integer is that of the number
    rw [value, hsize] at hvalue
    split at hvalue
    · rename_i hnegative
      rw [if_pos hnegative]
      rw [← Int.cast_natCast, ← Int.cast_neg] at hvalue
      rw [Int.cast_injective hvalue]
    · rename_i hpositive
      rw [if_neg hpositive]
      rw [← Int.cast_natCast] at hvalue
      rw [Int.cast_injective hvalue]

/-! ## Integers -/

/-- At most 53 bits are left when the zeros at the end are taken off. -/
def FitsSignificand (n : Nat) : Prop :=
  ∃ m e, n = m * 2 ^ e ∧ m < 2 ^ 53

/-- What is below the 53rd power of two fits the significand. -/
theorem fitsSignificand_of_lt {n : Nat} (h : n < 2 ^ 53) : FitsSignificand n :=
  ⟨n, 0, (Nat.mul_one n).symm, h⟩

/-- The whole sizes of numbers fit into a significand. -/
theorem fitsSignificand_of_size {n : Nat} (h : x.size = n) : FitsSignificand n := by
  have hunits := size_eq_natCast_iff.mp h
  have hsignificand : x.significand < 2 ^ 53 := significand_lt x
  obtain ⟨power, hpower⟩ : ∃ power, power = 1074 := ⟨_, rfl⟩
  rw [units_eq, unitsOfOne_eq hpower] at hunits
  by_cases hspacing : power ≤ x.spacing
  · -- the steps are integers
    have hsplit : 2 ^ x.spacing = 2 ^ (x.spacing - power) * 2 ^ power := by
      rw [← Nat.pow_add, Nat.sub_add_cancel hspacing]
    rw [hsplit, ← Nat.mul_assoc] at hunits
    exact ⟨x.significand, x.spacing - power,
      (Nat.eq_of_mul_eq_mul_right (Nat.two_pow_pos power) hunits).symm, hsignificand⟩
  · have hsplit : 2 ^ power = 2 ^ (power - x.spacing) * 2 ^ x.spacing := by
      rw [← Nat.pow_add, Nat.sub_add_cancel (Nat.le_of_not_le hspacing)]
    rw [hsplit, ← Nat.mul_assoc] at hunits
    have hsame := Nat.eq_of_mul_eq_mul_right (Nat.two_pow_pos x.spacing) hunits
    have hle : n ≤ x.significand := hsame ▸ Nat.le_mul_of_pos_right n (Nat.two_pow_pos _)
    exact fitsSignificand_of_lt (Nat.lt_of_le_of_lt hle hsignificand)

/-- Zeros at the end lengthen a number by as many bits. -/
theorem log2_mul_pow_lt {n bits : Nat} (hn : n < 2 ^ bits) (hpos : 0 < bits) (power : Nat) :
    (n * 2 ^ power).log2 < bits + power := by
  by_cases hzero : n * 2 ^ power = 0
  · rw [hzero]
    exact Nat.lt_of_lt_of_le hpos (Nat.le_add_right bits power)
  · rw [Nat.log2_lt hzero, Nat.pow_add]
    exact Nat.mul_lt_mul_of_pos_right hn (Nat.two_pow_pos power)

/-- An integer that fits is met exactly. -/
theorem ofInt_of_fits {n : Int} (hn : n.natAbs < 2 ^ 200) (h : FitsSignificand n.natAbs) :
    (ofInt n).isFinite = true ∧ (ofInt n).isNegative = decide (n < 0)
      ∧ (ofInt n).size = n.natAbs := by
  obtain ⟨power, hpower⟩ : ∃ power, power = 1074 := ⟨_, rfl⟩
  have hmade : ofInt n = ofUnits (decide (n < 0)) (n.natAbs * unitsOfOne) 1 := by
    rw [ofInt, ofRatio, pow_eq_unitsOfOne]
  have hroof : (n.natAbs * unitsOfOne / 1).log2 ≤ 2000 := by
    rw [Nat.div_one, unitsOfOne_eq hpower]
    have hlog := log2_mul_pow_lt hn (by decide) power
    omega
  have hdvd : 1 * 2 ^ ((n.natAbs * unitsOfOne / 1).log2 - 52) ∣ n.natAbs * unitsOfOne := by
    obtain ⟨m, e, hm, hlt⟩ := h
    rw [Nat.div_one, Nat.one_mul, hm, unitsOfOne_eq hpower, Nat.mul_assoc, ← Nat.pow_add]
    have hlog := log2_mul_pow_lt hlt (by decide) (e + power)
    exact Nat.dvd_mul_left_of_dvd (Nat.pow_dvd_pow 2 (by omega)) m
  have hexact := units_ofUnits_of_dvd (decide (n < 0)) Nat.one_pos hroof hdvd
  rw [Nat.mul_one] at hexact
  obtain ⟨hfinite, hnegative, -⟩ := ofUnits_eq (decide (n < 0)) Nat.one_pos hroof
  rw [hmade]
  exact ⟨hfinite, hnegative, size_eq_natCast_iff.mpr hexact⟩

/-- An integer is read back from its nearest number exactly if it fits. -/
theorem toInt?_ofInt_iff {n : Int} (hn : n.natAbs < 2 ^ 200) :
    (ofInt n).toInt? = some n ↔ FitsSignificand n.natAbs := by
  rw [toInt?_eq_some_iff]
  constructor
  · intro h
    exact fitsSignificand_of_size (size_of_value h.2)
  · intro h
    obtain ⟨hfinite, hnegative, hsize⟩ := ofInt_of_fits hn h
    refine ⟨hfinite, ?_⟩
    rw [value, hnegative, hsize, Nat.cast_natAbs, Int.cast_abs]
    by_cases hneg : n < 0
    · have hcast : (n : ℚ) < 0 := by exact_mod_cast hneg
      rw [if_pos (decide_eq_true hneg), abs_of_neg hcast, neg_neg]
    · have hcast : (0 : ℚ) ≤ n := by exact_mod_cast not_lt.mp hneg
      rw [if_neg (by simpa using hneg), abs_of_nonneg hcast]

end ContentSearch.Number.Binary64
