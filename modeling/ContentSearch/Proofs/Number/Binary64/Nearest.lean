import ContentSearch.Proofs.Number.Binary64.Value
import Mathlib.Tactic.NormNum

/-!
# Rounded arithmetic

A number that is built from a ratio of moderate size is off by at most one part in `2 ^ 53`
(`isNear_ofUnits`), and so are the sums, products and quotients of numbers. What is built depends on
the ratio alone, not on how it is written (`ofUnits_congr`).
-/

namespace ContentSearch.Number.Binary64

variable {x y : Binary64}

/-! ## Relative errors -/

/-- The size of the number is off by at most one part in `2 ^ 53`. -/
def IsNear (x : Binary64) (q : ℚ) : Prop :=
  |x.size - q| ≤ q / 2 ^ 53

/-- Neither so small that steps get coarse nor so large that the format ends. -/
def IsModerate (q : ℚ) : Prop :=
  q = 0 ∨ 1 / 2 ^ 200 ≤ q ∧ q ≤ 2 ^ 200

theorem units_eq_size_mul (x : Binary64) : (x.units : ℚ) = x.size * unitsOfOne := by
  have hone := unitsOfOne_pos
  have hne : (unitsOfOne : ℚ) ≠ 0 := by positivity
  rw [size, div_mul_cancel₀ _ hne]

section
variable {num den : Nat} {q : ℚ} (h : IsModerate q) (hq : (num : ℚ) = q * unitsOfOne * den)
include h hq

/-- A moderate ratio that is not zero has at least `2 ^ 52` units. -/
theorem le_of_isModerate (hne : q ≠ 0) : 0x10000000000000 * den ≤ num := by
  obtain ⟨power, hpower⟩ : ∃ power : Nat, power = 1074 := ⟨1074, rfl⟩
  have hfull : 1 ≤ q * 2 ^ 200 := (div_le_iff₀ (by positivity)).mp (h.resolve_left hne).1
  have hden : (0 : ℚ) ≤ den := by positivity
  have hsplit : (2 : ℚ) ^ power = 2 ^ 200 * 2 ^ (power - 200) := by
    rw [← pow_add, Nat.add_sub_cancel' (by omega)]
  have hsteps : (2 : ℚ) ^ 52 ≤ 2 ^ (power - 200) := by
    apply pow_le_pow_right₀ (by norm_num)
    omega
  rw [unitsOfOne_eq hpower] at hq
  push_cast at hq
  have hcast : (2 : ℚ) ^ 52 * den ≤ num := by
    calc (2 : ℚ) ^ 52 * den ≤ 2 ^ (power - 200) * den := mul_le_mul_of_nonneg_right hsteps hden
      _ ≤ q * 2 ^ 200 * (2 ^ (power - 200) * den) :=
        le_mul_of_one_le_left (mul_nonneg (pow_nonneg (by norm_num) _) hden) hfull
      _ = q * (2 ^ 200 * 2 ^ (power - 200)) * den := by ring
      _ = num := by rw [← hsplit, hq]
  exact_mod_cast hcast

/-- A moderate ratio is far below the end of the format. -/
theorem log2_le_of_isModerate (hden : 0 < den) : (num / den).log2 ≤ 2000 := by
  obtain ⟨power, hpower⟩ : ∃ power : Nat, power = 1074 := ⟨1074, rfl⟩
  have hroof : q ≤ 2 ^ 200 := by
    rcases h with hzero | ⟨-, hhigh⟩
    · rw [hzero]
      positivity
    · exact hhigh
  rw [unitsOfOne_eq hpower] at hq
  push_cast at hq
  have hcast : (num : ℚ) ≤ (2 ^ (200 + power) * den : Nat) := by
    push_cast
    rw [hq, pow_add]
    gcongr
  have hnat : num ≤ 2 ^ (200 + power) * den := by exact_mod_cast hcast
  have hle : num / den ≤ 2 ^ (200 + power) := by
    rw [Nat.div_le_iff_le_mul hden]
    omega
  by_cases hzero : num / den = 0
  · rw [hzero]
    decide
  · have hlog : (num / den).log2 < 200 + power + 1 := by
      rw [Nat.log2_lt hzero, Nat.pow_succ]
      have hroom : 0 < 2 ^ (200 + power) := Nat.two_pow_pos _
      omega
    omega

/-- A number that is built from a moderate ratio is near the ratio and has the sign it is given. -/
theorem isNear_ofUnits (negative : Bool) (hden : 0 < den) :
    IsNear (ofUnits negative num den) q ∧ (ofUnits negative num den).isNegative = negative := by
  have hone := unitsOfOne_pos
  obtain ⟨-, hnegative, hunits⟩ := ofUnits_eq negative hden (log2_le_of_isModerate h hq hden)
  refine ⟨?_, hnegative⟩
  by_cases hzero : q = 0
  · -- zero is met without an error
    have hnum : num = 0 := by
      rw [hzero, zero_mul, zero_mul] at hq
      exact_mod_cast hq
    subst hnum
    have hsteps := roundEven_mul 0 (Nat.mul_pos hden (Nat.two_pow_pos ((0 / den).log2 - 52)))
    rw [Nat.zero_mul] at hsteps
    rw [IsNear, size, hunits, hsteps, hzero]
    simp
  · have hlow := le_of_isModerate h hq hzero
    obtain ⟨-, hlower⟩ := step_bounds num hden
    generalize (num / den).log2 - 52 = spacing at *
    obtain ⟨hdown, hup⟩ :=
      roundEven_bounds num (Nat.mul_pos hden (Nat.two_pow_pos spacing))
    -- a step is at most one part in 2 ^ 52 of the ratio
    have hfine : 0x10000000000000 * (den * 2 ^ spacing) ≤ num := by
      rcases hlower with hspacing | hlower
      · rw [hspacing, Nat.pow_zero, Nat.mul_one]
        exact hlow
      · exact hlower
    have hmade : (ofUnits negative num den).units * den
        = roundEven num (den * 2 ^ spacing) * (den * 2 ^ spacing) := by
      rw [hunits]
      ring
    rw [← hmade] at hdown hup
    generalize ofUnits negative num den = x at *
    have hbelow : 2 ^ 53 * (x.units * den) ≤ 2 ^ 53 * num + num := by omega
    have habove : 2 ^ 53 * num ≤ 2 ^ 53 * (x.units * den) + num := by omega
    have hbelow' : (2 : ℚ) ^ 53 * (x.units * den) ≤ 2 ^ 53 * num + num := by exact_mod_cast hbelow
    have habove' : (2 : ℚ) ^ 53 * num ≤ 2 ^ 53 * (x.units * den) + num := by exact_mod_cast habove
    -- the bounds on counts of units become bounds on sizes, all of them times the same factor
    rw [units_eq_size_mul, hq] at hbelow' habove'
    have hscale : (0 : ℚ) < unitsOfOne * den := by positivity
    rw [IsNear, abs_le]
    constructor
    · have hle : 2 ^ 53 * q ≤ 2 ^ 53 * x.size + q := by
        refine le_of_mul_le_mul_right ?_ hscale
        linarith
      linarith
    · have hle : 2 ^ 53 * x.size ≤ 2 ^ 53 * q + q := by
        refine le_of_mul_le_mul_right ?_ hscale
        linarith
      linarith

end

/-! ## Arithmetic -/

theorem isNear_add (h : IsModerate (x.size + y.size)) :
    IsNear (x.add y) (x.size + y.size) := by
  refine (isNear_ofUnits h ?_ false Nat.one_pos).1
  push_cast
  rw [units_eq_size_mul, units_eq_size_mul]
  ring

theorem mul_eq (x y : Binary64) :
    x.mul y = ofUnits (x.isNegative != y.isNegative) (x.units * y.units) unitsOfOne := by
  rw [mul, pow_eq_unitsOfOne]

theorem div_eq (x y : Binary64) :
    x.div y = ofUnits (x.isNegative != y.isNegative) (x.units * unitsOfOne) y.units := by
  rw [div, pow_eq_unitsOfOne]

theorem isNear_mul (h : IsModerate (x.size * y.size)) :
    IsNear (x.mul y) (x.size * y.size) := by
  rw [mul_eq]
  refine (isNear_ofUnits h ?_ (x.isNegative != y.isNegative) unitsOfOne_pos).1
  push_cast
  rw [units_eq_size_mul, units_eq_size_mul]
  ring

theorem isNear_div (hy : 0 < y.units) (h : IsModerate (x.size / y.size)) :
    IsNear (x.div y) (x.size / y.size) := by
  have hone := unitsOfOne_pos
  rw [div_eq]
  refine (isNear_ofUnits h ?_ (x.isNegative != y.isNegative) hy).1
  push_cast
  have hsize : 0 < y.size := by
    unfold size
    positivity
  rw [units_eq_size_mul, units_eq_size_mul y]
  field_simp

/-- A number that is less than one half off an integer is rounded to it. -/
theorem round_eq_of_lt {n : Nat} (h : |x.size - n| < 1 / 2) : x.round = n := by
  have hone := unitsOfOne_pos
  have hmade : x.round = (2 * x.units + unitsOfOne) / (2 * unitsOfOne) := by
    obtain ⟨power, hpower⟩ : ∃ power : Nat, power = 1074 := ⟨1074, rfl⟩
    have htwice : Nat.pow 2 1075 = 2 * unitsOfOne := by
      have hsucc : power + 1 = 1075 := by omega
      rw [unitsOfOne_eq hpower, ← hsucc]
      exact Nat.pow_succ'
    rw [round, htwice, pow_eq_unitsOfOne]
  obtain ⟨hlow, hhigh⟩ := abs_lt.mp h
  have hcast : (0 : ℚ) < unitsOfOne := by positivity
  have hunits := units_eq_size_mul x
  -- rounding adds one half and cuts off, so that the integer is the quotient of the sum
  have hfloor : (n : ℚ) * (2 * unitsOfOne) ≤ 2 * x.units + unitsOfOne := by
    rw [hunits]
    nlinarith
  have hceil : (2 * x.units + unitsOfOne : ℚ) < (n + 1) * (2 * unitsOfOne) := by
    rw [hunits]
    nlinarith
  rw [hmade]
  apply Nat.div_eq_of_lt_le
  · exact_mod_cast hfloor
  · exact_mod_cast hceil

/-! ## Ratios -/

/-- A factor in both parts of a quotient is not seen. -/
theorem roundEven_mul_left {k : Nat} (hk : 0 < k) (num den : Nat) :
    roundEven (k * num) (k * den) = roundEven num den := by
  unfold roundEven
  rw [Nat.mul_div_mul_left _ _ hk, Nat.mul_mod_mul_left]
  have hless : 2 * (k * (num % den)) < k * den ↔ 2 * (num % den) < den := by
    rw [Nat.mul_left_comm]
    exact Nat.mul_lt_mul_left hk
  have hhalf : 2 * (k * (num % den)) = k * den ↔ 2 * (num % den) = den := by
    rw [Nat.mul_left_comm]
    exact Nat.mul_right_inj (Nat.ne_of_gt hk)
  simp only [hless, hhalf]

theorem ofUnits_mul_left (negative : Bool) {k : Nat} (hk : 0 < k) (num den : Nat) :
    ofUnits negative (k * num) (k * den) = ofUnits negative num den := by
  unfold ofUnits
  simp only [Nat.mul_div_mul_left _ _ hk, Nat.mul_assoc, roundEven_mul_left hk]

/-- The same ratio gives the same number. -/
theorem ofUnits_congr (negative : Bool) {num den num' den' : Nat} (hden : 0 < den)
    (hden' : 0 < den') (h : num * den' = num' * den) :
    ofUnits negative num den = ofUnits negative num' den' := by
  rw [← ofUnits_mul_left negative hden' num den, Nat.mul_comm den' num, h, Nat.mul_comm num' den,
    Nat.mul_comm den' den, ofUnits_mul_left negative hden]

/-- The other sign is that of the ratio. -/
theorem negate_ofUnits {num den : Nat} (hden : 0 < den) (hroof : (num / den).log2 ≤ 2000) :
    (ofUnits false num den).negate = ofUnits true num den := by
  obtain ⟨hfinite, hnegative, -⟩ := ofUnits_eq false hden hroof
  rw [negate, hnegative]
  unfold ofUnits at hfinite ⊢
  simp only at hfinite ⊢
  split
  · rename_i hmagnitude
    rw [magnitude_ofMagnitude false (by omega)]
    rfl
  · rename_i hmagnitude
    rw [if_neg hmagnitude] at hfinite
    exact absurd hfinite (by decide)

end ContentSearch.Number.Binary64
