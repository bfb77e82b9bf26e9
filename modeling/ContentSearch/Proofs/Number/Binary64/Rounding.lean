import ContentSearch.Number.Binary64.Shortest
import Mathlib.Tactic.Linarith
import Mathlib.Tactic.Ring

/-!
# Rounding intervals

A ratio in the rounding interval of a number is rounded to this number (`ofUnits_of_holds`). The
ratio has the number's spacing, except just below a power of two, where it has the spacing before
and rounds up to a significand of one bit more.
-/

namespace ContentSearch.Number.Binary64

variable {x : Binary64}

/-! ## Fields of a number -/

theorem magnitude_lt (x : Binary64) : x.magnitude < 0x8000000000000000 :=
  Nat.mod_lt _ (by decide)

/-- A number is its sign and its magnitude. -/
theorem ofMagnitude_magnitude (x : Binary64) : ofMagnitude x.isNegative x.magnitude = x := by
  have hbits := x.bits.toNat_lt
  have hword : (if x.isNegative then 0x8000000000000000 + x.magnitude else x.magnitude)
      = x.bits.toNat := by
    unfold isNegative magnitude
    split
    · simp_all
      omega
    · simp_all
  obtain ⟨bits⟩ := x
  rw [ofMagnitude, hword]
  exact congrArg Binary64.mk (UInt64.ofNat_toNat)

/-- The spacing stands in front of the significand, and adds up with it. -/
theorem magnitude_eq (x : Binary64) :
    x.magnitude = x.spacing * 0x10000000000000 + x.significand := by
  have hparts := Nat.div_add_mod x.magnitude 0x10000000000000
  unfold spacing significand
  unfold exponent fraction
  split <;> omega

theorem significand_lt (x : Binary64) : x.significand < 0x20000000000000 := by
  have hfraction : x.fraction < 0x10000000000000 := Nat.mod_lt _ (by decide)
  unfold significand
  split <;> omega

/-- Only numbers of the least spacing have small significands. -/
theorem le_significand (h : 0 < x.spacing) : 0x10000000000000 ≤ x.significand := by
  unfold spacing at h
  unfold significand
  rw [if_neg (by omega)]
  omega

theorem magnitude_lt_of_isFinite (h : x.isFinite = true) :
    x.magnitude < 2047 * 0x10000000000000 := by
  have hexponent : x.exponent < 2047 := of_decide_eq_true h
  unfold exponent at hexponent
  omega

/-- The lower border of a power of two is nearer, unless the spacing below is the same. -/
theorem isNarrow_iff :
    x.fraction = 0 ∧ 1 < x.exponent ↔ x.significand = 0x10000000000000 ∧ 0 < x.spacing := by
  unfold significand spacing
  split <;> omega

/-! ## Rounding to integers -/

/-- What lies within one half of an integer is rounded to it, and what lies at one half is so if the
integer is even. -/
theorem roundEven_eq {num den n : Nat} (hden : 0 < den) (hlow : 2 * n * den ≤ 2 * num + den)
    (hhigh : 2 * num ≤ (2 * n + 1) * den)
    (hodd : n % 2 = 1 → 2 * n * den < 2 * num + den ∧ 2 * num < (2 * n + 1) * den) :
    roundEven num den = n := by
  have hnum : den * (num / den) + num % den = num := Nat.div_add_mod num den
  have hrest : num % den < den := Nat.mod_lt num hden
  unfold roundEven
  generalize num / den = q at hnum ⊢
  generalize num % den = r at hnum hrest ⊢
  -- the integer is the quotient or the one above it
  have hle : q ≤ n := by nlinarith
  have hge : n ≤ q + 1 := by nlinarith
  obtain rfl | rfl : n = q ∨ n = q + 1 := by omega
  · have hnear : 2 * r ≤ den := by nlinarith
    have heven : n % 2 = 1 → 2 * r < den := fun h => by nlinarith [hodd h]
    dsimp only
    split
    · rfl
    · split <;> omega
  · have hnear : den ≤ 2 * r := by nlinarith
    have heven : (q + 1) % 2 = 1 → den < 2 * r := fun h => by nlinarith [hodd h]
    dsimp only
    split
    · omega
    · split <;> omega

/-! ## Rounding to numbers -/

/-- The spacing of a ratio is told by the powers of two around it. -/
theorem log2_sub_eq {num den spacing : Nat} (hden : 0 < den)
    (hlow : spacing = 0 ∨ 0x10000000000000 * (den * 2 ^ spacing) ≤ num)
    (hhigh : num < 0x20000000000000 * (den * 2 ^ spacing)) :
    (num / den).log2 - 52 = spacing := by
  have hlt : num / den < 2 ^ (spacing + 53) := by
    rw [Nat.div_lt_iff_lt_mul hden, Nat.pow_add]
    calc num < 0x20000000000000 * (den * 2 ^ spacing) := hhigh
      _ = 2 ^ spacing * 2 ^ 53 * den := by ring
  by_cases hzero : num / den = 0
  · rw [hzero] at hlt ⊢
    rcases hlow with rfl | hlow
    · decide
    · have hpos : 0 < den * 2 ^ spacing := Nat.mul_pos hden (Nat.two_pow_pos spacing)
      have hsmall : num < den := (Nat.div_eq_zero_iff_lt hden).mp hzero
      have hpow : den * 1 ≤ den * 2 ^ spacing := Nat.mul_le_mul_left den (Nat.two_pow_pos spacing)
      omega
  · have hupper : (num / den).log2 < spacing + 53 := (Nat.log2_lt hzero).mpr hlt
    rcases hlow with rfl | hlow
    · omega
    · have hle : 2 ^ (spacing + 52) ≤ num / den := by
        rw [Nat.le_div_iff_mul_le hden, Nat.pow_add]
        calc 2 ^ spacing * 2 ^ 52 * den = 0x10000000000000 * (den * 2 ^ spacing) := by ring
          _ ≤ num := hlow
      have hlower : spacing + 52 ≤ (num / den).log2 := (Nat.le_log2 hzero).mpr hle
      omega

/-! ## Intervals -/

theorem Interval.holds_iff {i : Interval} {num den : Nat} :
    i.holds num den = true ↔ i.low * den ≤ num ∧ num ≤ i.high * den
      ∧ (i.closed = false → i.low * den < num ∧ num < i.high * den) := by
  unfold holds
  cases i.closed with
  | true => simp [Nat.ble_eq]
  | false =>
    simp only [Bool.false_eq_true, if_false, Bool.and_eq_true, Nat.blt_eq, forall_const]
    omega

theorem units_eq (x : Binary64) : x.units = x.significand * 2 ^ x.spacing := rfl

/-- The upper border lies half a step above the number. -/
theorem high_eq (x : Binary64) : x.interval.high = (4 * x.significand + 2) * 2 ^ x.spacing := by
  show 4 * (x.significand * 2 ^ x.spacing) + 2 ^ (x.spacing + 1) = _
  ring

/-- The lower border lies half a step below the number, or a quarter below a power of two. -/
theorem low_eq (x : Binary64) (hpos : 0 < x.significand) :
    x.interval.low + (if x.significand = 0x10000000000000 ∧ 0 < x.spacing then 1 else 2)
      * 2 ^ x.spacing = 4 * x.significand * 2 ^ x.spacing := by
  have hhalf : 2 ^ (x.spacing + 1) = 2 * 2 ^ x.spacing := by ring
  have hroom : 2 ^ x.spacing ≤ x.significand * 2 ^ x.spacing := Nat.le_mul_of_pos_left _ hpos
  have hassoc : 4 * x.significand * 2 ^ x.spacing = 4 * (x.significand * 2 ^ x.spacing) := by ring
  have hlow : x.interval.low = 4 * (x.significand * 2 ^ x.spacing)
      - if x.fraction = 0 ∧ 1 < x.exponent then 2 ^ (x.spacing + 1) / 2
        else 2 ^ (x.spacing + 1) := rfl
  rw [hlow, hassoc, hhalf]
  simp only [isNarrow_iff]
  split <;> omega

/-- What the interval says of a ratio, counted in steps of the spacing. -/
theorem bounds_of_holds (hpos : 0 < x.significand) {num den : Nat}
    (h : x.interval.holds (4 * num) den = true) :
    4 * x.significand * (den * 2 ^ x.spacing) ≤ 4 * num
        + (if x.significand = 0x10000000000000 ∧ 0 < x.spacing then 1 else 2)
          * (den * 2 ^ x.spacing)
      ∧ 2 * num ≤ (2 * x.significand + 1) * (den * 2 ^ x.spacing)
      ∧ (x.significand % 2 = 1 →
        2 * x.significand * (den * 2 ^ x.spacing) < 2 * num + den * 2 ^ x.spacing
          ∧ 2 * num < (2 * x.significand + 1) * (den * 2 ^ x.spacing)) := by
  obtain ⟨hlow, hhigh, hopen⟩ := Interval.holds_iff.mp h
  have hlower := congrArg (· * den) (low_eq x hpos)
  simp only [Nat.add_mul] at hlower
  rw [high_eq] at hhigh hopen
  have hclosed : x.interval.closed = (x.significand % 2 == 0) := rfl
  have hstrict : x.significand % 2 = 1 → x.interval.low * den < 4 * num
      ∧ 4 * num < (4 * x.significand + 2) * 2 ^ x.spacing * den := by
    intro hodd
    exact hopen (by rw [hclosed, hodd]; rfl)
  generalize 2 ^ x.spacing = step at *
  refine ⟨?_, by nlinarith, fun hodd => ?_⟩
  · calc 4 * x.significand * (den * step) = 4 * x.significand * step * den := by ring
      _ ≤ 4 * num + (if x.significand = 0x10000000000000 ∧ 0 < x.spacing then 1 else 2)
          * step * den := by omega
      _ = _ := by ring
  · obtain ⟨hlow', hhigh'⟩ := hstrict hodd
    -- an odd significand has no nearer border
    rw [if_neg (by omega)] at hlower
    constructor <;> nlinarith

/-- A ratio in the interval of a number is rounded to the number. -/
theorem ofUnits_of_holds (hfinite : x.isFinite = true) (hpos : 0 < x.significand) {num den : Nat}
    (hden : 0 < den) (h : x.interval.holds (4 * num) den = true) (negative : Bool) :
    ofUnits negative num den = ofMagnitude negative x.magnitude := by
  have hmagnitude := magnitude_lt_of_isFinite hfinite
  obtain ⟨hlow, hhigh, hodd⟩ := bounds_of_holds hpos h
  have hsignificand := significand_lt x
  have hstep : 0 < den * 2 ^ x.spacing := Nat.mul_pos hden (Nat.two_pow_pos x.spacing)
  have hroof : num < 0x20000000000000 * (den * 2 ^ x.spacing) := by nlinarith
  -- the ratio lies a power of two below the number, or has its spacing
  by_cases hbelow : 0 < x.spacing ∧ num < 0x10000000000000 * (den * 2 ^ x.spacing)
  · obtain ⟨hspaced, hless⟩ := hbelow
    have hleast := le_significand hspaced
    have hpower : x.significand = 0x10000000000000 := by
      by_contra hne
      rw [if_neg fun hnarrow => hne hnarrow.1] at hlow
      have hmore : 0x10000000000001 ≤ x.significand := by omega
      have hfar := Nat.mul_le_mul_right (den * 2 ^ x.spacing) hmore
      linarith
    rw [if_pos ⟨hpower, hspaced⟩, hpower] at hlow
    obtain ⟨spacing, hsucc⟩ : ∃ spacing, x.spacing = spacing + 1 :=
      ⟨x.spacing - 1, by omega⟩
    have hdouble : den * 2 ^ x.spacing = 2 * (den * 2 ^ spacing) := by
      rw [hsucc, Nat.pow_succ]
      ring
    rw [hdouble] at hlow hless
    have hspacing : (num / den).log2 - 52 = spacing := by
      apply log2_sub_eq hden (Or.inr (by omega)) (by omega)
    have hround : roundEven num (den * Nat.pow 2 spacing) = 0x20000000000000 := by
      have hstep' : 0 < den * 2 ^ spacing := Nat.mul_pos hden (Nat.two_pow_pos spacing)
      apply roundEven_eq hstep'
      · show 2 * 0x20000000000000 * (den * 2 ^ spacing) ≤ 2 * num + den * 2 ^ spacing
        omega
      · show 2 * num ≤ (2 * 0x20000000000000 + 1) * (den * 2 ^ spacing)
        omega
      · intro hcontra
        cases hcontra
    -- the significand carries into the spacing
    have hmagnitudeEq : spacing * 0x10000000000000 + 0x20000000000000 = x.magnitude := by
      rw [magnitude_eq, hsucc, hpower]
      omega
    unfold ofUnits
    simp only [hspacing, hround, hmagnitudeEq]
    exact if_pos hmagnitude
  · have hspacing : (num / den).log2 - 52 = x.spacing := by
      apply log2_sub_eq hden _ hroof
      omega
    have hround : roundEven num (den * Nat.pow 2 x.spacing) = x.significand := by
      apply roundEven_eq hstep _ hhigh hodd
      split at hlow <;> nlinarith
    have hmagnitudeEq : x.spacing * 0x10000000000000 + x.significand = x.magnitude :=
      (magnitude_eq x).symm
    unfold ofUnits
    simp only [hspacing, hround, hmagnitudeEq]
    exact if_pos hmagnitude

end ContentSearch.Number.Binary64
