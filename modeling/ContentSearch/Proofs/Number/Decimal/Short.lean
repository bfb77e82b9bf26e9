import ContentSearch.Proofs.Number.Binary64.Nearest
import ContentSearch.Proofs.Number.Decimal.Value

/-!
# Short decimals

A decimal is converted to a double in several steps, each of which rounds. For a decimal of at most
15 digits and at most 22 places the result is the double nearest to its number all the same
(`toBinary64_of_isShort`), and different numbers have different doubles (`coincides_iff`). Both
bounds come from the 53 bits of a significand, which have room for the digits and for the powers of
ten.
-/

namespace ContentSearch.Number

namespace Binary64

/-! ## Consequences of being near -/

variable {x : Binary64} {q : ℚ}

theorem IsNear.le (h : IsNear x q) : x.size ≤ q + q / 2 ^ 53 := by
  have hhigh := (abs_le.mp h).2
  linarith

theorem IsNear.ge (h : IsNear x q) : q - q / 2 ^ 53 ≤ x.size := by
  have hlow := (abs_le.mp h).1
  linarith

/-- Only zero is rounded to zero. -/
theorem le_zero_of_isNear_div {count parts : ℚ} (hparts : 0 < parts) (h : IsNear x (count / parts))
    (hzero : x.size = 0) : count ≤ 0 := by
  have hge := h.ge
  rw [hzero] at hge
  have hnone : count / parts ≤ 0 := by linarith
  rwa [div_le_iff₀ hparts, zero_mul] at hnone

/-- Counted in parts of one, a number is off by at most one part in `2 ^ 53` of the count. -/
theorem IsNear.bounds_mul (h : IsNear x q) {parts : ℚ} (hparts : 0 ≤ parts) :
    x.size * parts ≤ q * parts + q * parts / 2 ^ 53
      ∧ q * parts - q * parts / 2 ^ 53 ≤ x.size * parts := by
  have hle := mul_le_mul_of_nonneg_right h.le hparts
  have hge := mul_le_mul_of_nonneg_right h.ge hparts
  constructor
  · calc x.size * parts ≤ (q + q / 2 ^ 53) * parts := hle
      _ = q * parts + q * parts / 2 ^ 53 := by ring
  · calc q * parts - q * parts / 2 ^ 53 = (q - q / 2 ^ 53) * parts := by ring
      _ ≤ x.size * parts := hge

/-- A number is near one count of parts, if the counts have at most 15 digits. -/
theorem eq_of_isNear {parts : ℚ} (hparts : 0 < parts) {a b : Nat} (hb : b < 10 ^ 15)
    (ha : IsNear x (a / parts)) (hx : IsNear x (b / parts)) : a = b := by
  obtain ⟨hale, hage⟩ := ha.bounds_mul (le_of_lt hparts)
  obtain ⟨hble, hbge⟩ := hx.bounds_mul (le_of_lt hparts)
  rw [div_mul_cancel₀ _ (ne_of_gt hparts)] at hale hage hble hbge
  have hsmall : (b : ℚ) < 10 ^ 15 := by exact_mod_cast hb
  -- two counts differ by one at least, and the number is off by less than one half from each
  rcases Nat.lt_trichotomy a b with hless | hsame | hmore
  · have hstep : (a : ℚ) + 1 ≤ b := by exact_mod_cast hless
    linarith
  · exact hsame
  · have hstep : (b : ℚ) + 1 ≤ a := by exact_mod_cast hmore
    linarith

theorem isModerate_of_bounds (hlow : 1 / 10 ^ 30 ≤ q) (hhigh : q ≤ 10 ^ 40) : IsModerate q := by
  refine Or.inr ⟨le_trans ?_ hlow, le_trans hhigh ?_⟩
  · norm_num
  · norm_num

/-- A ratio is moderate if it is about a count of 15 digits in at most 22 places. -/
theorem isModerate_of_count {parts : ℚ} (hone : 1 ≤ parts) (hmany : parts ≤ 10 ^ 22) {u : Nat}
    (hu : u < 10 ^ 15) (hge : (u : ℚ) / 2 ≤ q * parts) (hle : q * parts ≤ 2 * u) :
    IsModerate q := by
  have hparts : 0 < parts := by linarith
  have hsmall : (u : ℚ) < 10 ^ 15 := by exact_mod_cast hu
  by_cases hzero : u = 0
  · rw [hzero, Nat.cast_zero] at hge hle
    have hnone : q * parts = 0 := by linarith
    exact Or.inl ((mul_eq_zero.mp hnone).resolve_right (ne_of_gt hparts))
  · have hcount : (1 : ℚ) ≤ u := by exact_mod_cast Nat.one_le_iff_ne_zero.mpr hzero
    apply isModerate_of_bounds
    · refine le_of_mul_le_mul_right ?_ hparts
      linarith
    · refine le_of_mul_le_mul_right ?_ hparts
      linarith

/-! ## Integers without a sign -/

theorem ofNat_of_fits {n : Nat} (hn : n < 2 ^ 200) (h : FitsSignificand n) :
    (ofInt (n : Int)).isNegative = false ∧ (ofInt (n : Int)).size = n := by
  have hnonneg : ¬(n : Int) < 0 := by omega
  obtain ⟨-, hnegative, hsize⟩ := ofInt_of_fits (n := n) hn h
  exact ⟨hnegative.trans (decide_eq_false hnonneg), hsize⟩

theorem ofNat_of_lt {n : Nat} (h : n < 10 ^ 15) :
    (ofInt (n : Int)).isNegative = false ∧ (ofInt (n : Int)).size = n := by
  have hroom : (10 : Nat) ^ 15 < 2 ^ 53 := by decide
  have hfits := fitsSignificand_of_lt (Nat.lt_trans h hroom)
  exact ofNat_of_fits (Nat.lt_trans h (by decide)) hfits

/-- The powers of ten that have room in a significand. -/
theorem ofNat_pow {places : Nat} (h : places ≤ 22) :
    (ofInt ((10 ^ places : Nat) : Int)).isNegative = false
      ∧ (ofInt ((10 ^ places : Nat) : Int)).size = 10 ^ places := by
  have hle : 10 ^ places ≤ 10 ^ 22 := Nat.pow_le_pow_right (by decide) h
  have hfive : 5 ^ places ≤ 5 ^ 22 := Nat.pow_le_pow_right (by decide) h
  have hroom : 5 ^ 22 < 2 ^ 53 := by decide
  have hsplit : 10 ^ places = 5 ^ places * 2 ^ places := by rw [← Nat.mul_pow]
  have hbound : (10 : Nat) ^ 22 < 2 ^ 200 := by decide
  obtain ⟨hnegative, hsize⟩ := ofNat_of_fits (Nat.lt_of_le_of_lt hle hbound)
    ⟨5 ^ places, places, hsplit, Nat.lt_of_le_of_lt hfive hroom⟩
  refine ⟨hnegative, ?_⟩
  rw [hsize]
  push_cast
  rfl

end Binary64

namespace Decimal

open Binary64

/-! ## The steps of the conversion -/

theorem units_pos_of_pow {places : Nat} (h : places ≤ 22) :
    0 < (ofInt ((10 ^ places : Nat) : Int)).units := by
  have hsize := (ofNat_pow h).2
  have hpos : (0 : ℚ) < 10 ^ places := by positivity
  by_contra hzero
  have hnone : (ofInt ((10 ^ places : Nat) : Int)).units = 0 := by omega
  rw [size, hnone, Nat.cast_zero, zero_div] at hsize
  linarith

section
variable {u places : Nat} (hu : u < 10 ^ 15) (hplaces : places ≤ 22)
include hu hplaces

/-- The fraction is rounded once. -/
theorem isNear_fraction :
    IsNear ((ofInt ((u % 10 ^ places : Nat) : Int)).div (ofInt ((10 ^ places : Nat) : Int)))
      ((u % 10 ^ places : Nat) / 10 ^ places) := by
  have hrest : u % 10 ^ places < 10 ^ 15 := Nat.lt_of_le_of_lt (Nat.mod_le _ _) hu
  have hsize := (ofNat_of_lt hrest).2
  have hunit := (ofNat_pow hplaces).2
  have hbelow : u % 10 ^ places < 10 ^ places := Nat.mod_lt u (Nat.pow_pos (by decide))
  rw [← hsize, ← hunit]
  refine isNear_div (units_pos_of_pow hplaces) ?_
  rw [hsize, hunit]
  generalize u % 10 ^ places = rest at *
  by_cases hzero : rest = 0
  · left
    rw [hzero, Nat.cast_zero, zero_div]
  · have hone : (1 : ℚ) ≤ rest := by exact_mod_cast Nat.one_le_iff_ne_zero.mpr hzero
    have hparts : (0 : ℚ) < 10 ^ places := by positivity
    have hmany : (10 : ℚ) ^ places ≤ 10 ^ 22 := pow_le_pow_right₀ (by norm_num) hplaces
    have hless : (rest : ℚ) ≤ 10 ^ places := by exact_mod_cast Nat.le_of_lt hbelow
    apply isModerate_of_bounds
    · rw [le_div_iff₀ hparts]
      linarith
    · rw [div_le_iff₀ hparts]
      linarith

/-- Three roundings in a row leave less than one half between the product and the digits. -/
theorem round_mul_add {fraction : Binary64}
    (hfraction : IsNear fraction ((u % 10 ^ places : Nat) / 10 ^ places)) :
    (((ofInt ((u / 10 ^ places : Nat) : Int)).add fraction).mul
      (ofInt ((10 ^ places : Nat) : Int))).round = u := by
  have hwhole := (ofNat_of_lt (Nat.lt_of_le_of_lt (Nat.div_le_self u (10 ^ places)) hu)).2
  have hunit := (ofNat_pow hplaces).2
  have hparts : (0 : ℚ) < 10 ^ places := by positivity
  have hmany : (10 : ℚ) ^ places ≤ 10 ^ 22 := pow_le_pow_right₀ (by norm_num) hplaces
  have hfew : (1 : ℚ) ≤ 10 ^ places := one_le_pow₀ (by norm_num)
  have hdigits : ((u / 10 ^ places : Nat) : ℚ) * 10 ^ places + (u % 10 ^ places : Nat) = u := by
    exact_mod_cast Nat.div_add_mod' u (10 ^ places)
  have hrest : ((u % 10 ^ places : Nat) : ℚ) ≤ u := by exact_mod_cast Nat.mod_le u (10 ^ places)
  have hsmall : (u : ℚ) < 10 ^ 15 := by exact_mod_cast hu
  obtain ⟨hfractionLe, hfractionGe⟩ := hfraction.bounds_mul (le_of_lt hparts)
  rw [div_mul_cancel₀ _ (ne_of_gt hparts)] at hfractionLe hfractionGe
  -- all that follows is counted in the places of the decimal
  have hexact : ((u / 10 ^ places : Nat) + fraction.size) * 10 ^ places
      = (u / 10 ^ places : Nat) * 10 ^ places + fraction.size * 10 ^ places := by ring
  have hrest0 : (0 : ℚ) ≤ (u % 10 ^ places : Nat) := by positivity
  have hsum : IsModerate ((u / 10 ^ places : Nat) + fraction.size) := by
    refine isModerate_of_count hfew hmany hu ?_ ?_ <;> linarith
  rw [← hwhole] at hsum
  have hnearSum := isNear_add hsum
  rw [hwhole] at hnearSum
  obtain ⟨hsumLe, hsumGe⟩ := hnearSum.bounds_mul (le_of_lt hparts)
  generalize (ofInt ((u / 10 ^ places : Nat) : Int)).add fraction = sum at *
  have hproduct : IsModerate (sum.size * 10 ^ places) := by
    refine isModerate_of_count (le_refl 1) (by norm_num) hu ?_ ?_ <;> linarith
  rw [← hunit] at hproduct
  have hnearProduct := isNear_mul hproduct
  rw [hunit] at hnearProduct
  have hproductLe := hnearProduct.le
  have hproductGe := hnearProduct.ge
  apply round_eq_of_lt
  rw [abs_lt]
  constructor <;> linarith

end

/-! ## Short decimals -/

/-- At most 15 digits, and at most 22 places behind the point. -/
structure IsShort (d : Decimal) : Prop where
  units_lt : d.units.natAbs < 10 ^ 15
  scale_le : d.scale ≤ 22

/-- Integers without a fraction are met exactly. -/
theorem ofInt_eq_ofRatio {u whole places : Nat} (h : whole * 10 ^ places = u) :
    ofInt (whole : Int) = ofRatio false u (10 ^ places) := by
  have hnonneg : ¬(whole : Int) < 0 := by omega
  have hpos : 0 < 10 ^ places := Nat.pow_pos (by decide)
  rw [ofInt, decide_eq_false hnonneg]
  apply ofUnits_congr false Nat.one_pos hpos
  rw [← h, Int.natAbs_natCast, pow_eq_unitsOfOne]
  ring

/-- The quotient of two integers that are met exactly is rounded once. -/
theorem div_eq_ofRatio {u places : Nat} (hu : u < 10 ^ 15) (hplaces : places ≤ 22) :
    (ofInt (u : Int)).div (ofInt ((10 ^ places : Nat) : Int)) = ofRatio false u (10 ^ places) := by
  obtain ⟨hnegative, hsize⟩ := ofNat_of_lt hu
  obtain ⟨hnegative', hsize'⟩ := ofNat_pow hplaces
  have hpow : ((10 ^ places : Nat) : ℚ) = 10 ^ places := by
    push_cast
    rfl
  rw [size_eq_natCast_iff] at hsize
  rw [← hpow, size_eq_natCast_iff] at hsize'
  have hpos : 0 < 10 ^ places := Nat.pow_pos (by decide)
  rw [div_eq, hnegative, hnegative', hsize, hsize', ofRatio, pow_eq_unitsOfOne]
  apply ofUnits_congr false (Nat.mul_pos hpos unitsOfOne_pos) hpos
  ring

theorem isModerate_of_isShort {u places : Nat} (hu : u < 10 ^ 15) (hplaces : places ≤ 22) :
    IsModerate (u / 10 ^ places) := by
  have hparts : (0 : ℚ) < 10 ^ places := by positivity
  have hmany : (10 : ℚ) ^ places ≤ 10 ^ 22 := pow_le_pow_right₀ (by norm_num) hplaces
  have hcount : (u : ℚ) / 10 ^ places * 10 ^ places = u := div_mul_cancel₀ _ (ne_of_gt hparts)
  have hnonneg : (0 : ℚ) ≤ u := by positivity
  refine isModerate_of_count (one_le_pow₀ (by norm_num)) hmany hu ?_ ?_ <;> linarith

theorem cast_mul_unitsOfOne (u places : Nat) :
    ((u * unitsOfOne : Nat) : ℚ) = u / 10 ^ places * unitsOfOne * (10 ^ places : Nat) := by
  push_cast
  field_simp

/-- The double nearest to a short number has its sign. -/
theorem isNear_ofRatio (negative : Bool) {u places : Nat} (hu : u < 10 ^ 15)
    (hplaces : places ≤ 22) :
    IsNear (ofRatio negative u (10 ^ places)) (u / 10 ^ places)
      ∧ (ofRatio negative u (10 ^ places)).isNegative = negative := by
  rw [ofRatio, pow_eq_unitsOfOne]
  exact isNear_ofUnits (isModerate_of_isShort hu hplaces) (cast_mul_unitsOfOne u places) negative
    (Nat.pow_pos (by decide))

theorem negate_ofRatio {u places : Nat} (hu : u < 10 ^ 15) (hplaces : places ≤ 22) :
    (ofRatio false u (10 ^ places)).negate = ofRatio true u (10 ^ places) := by
  have hpos : 0 < 10 ^ places := Nat.pow_pos (by decide)
  rw [ofRatio, ofRatio, pow_eq_unitsOfOne]
  exact negate_ofUnits hpos
    (log2_le_of_isModerate (isModerate_of_isShort hu hplaces) (cast_mul_unitsOfOne u places) hpos)

/-- The absolute value is converted to the nearest double, whether it has a fraction or not. -/
theorem size_eq_ofRatio {u places : Nat} (hu : u < 10 ^ 15) (hplaces : places ≤ 22)
    {fraction : Binary64} (hfraction : IsNear fraction ((u % 10 ^ places : Nat) / 10 ^ places)) :
    (if places = 0 ∨ fraction.units = 0 then ofInt ((u / 10 ^ places : Nat) : Int)
      else (ofInt ((((ofInt ((u / 10 ^ places : Nat) : Int)).add fraction).mul
        (ofInt ((10 ^ places : Nat) : Int))).round : Int)).div (ofInt ((10 ^ places : Nat) : Int)))
      = ofRatio false u (10 ^ places) := by
  split
  · rename_i hwhole
    apply ofInt_eq_ofRatio
    rcases hwhole with hzero | hnone
    · rw [hzero, Nat.pow_zero, Nat.div_one, Nat.mul_one]
    · -- a fraction that is rounded to zero is zero
      have hsize : fraction.size = 0 := by rw [size, hnone, Nat.cast_zero, zero_div]
      have hparts : (0 : ℚ) < 10 ^ places := by positivity
      have hrest := le_zero_of_isNear_div hparts hfraction hsize
      have hnat : u % 10 ^ places = 0 := by
        have hle : u % 10 ^ places ≤ 0 := by exact_mod_cast hrest
        omega
      exact Nat.div_mul_cancel (Nat.dvd_of_mod_eq_zero hnat)
  · rw [round_mul_add hu hplaces hfraction, div_eq_ofRatio hu hplaces]

/-- A short decimal is converted to the double nearest to its number. -/
theorem toBinary64_of_isShort {d : Decimal} (h : d.IsShort) :
    d.toBinary64 = ofRatio (decide (d.units < 0)) d.units.natAbs (10 ^ d.scale) := by
  have hsize := size_eq_ofRatio h.units_lt h.scale_le (isNear_fraction h.units_lt h.scale_le)
  have hmade : d.toBinary64 = if d.units < 0 then
      (ofRatio false d.units.natAbs (10 ^ d.scale)).negate
      else ofRatio false d.units.natAbs (10 ^ d.scale) := by
    rw [← hsize]
    rfl
  rw [hmade]
  by_cases hnegative : d.units < 0
  · rw [if_pos hnegative, decide_eq_true hnegative, negate_ofRatio h.units_lt h.scale_le]
  · rw [if_neg hnegative, decide_eq_false hnegative]

/-- Counts of different parts have the same nearest double only if they are the same number. -/
theorem mul_pow_eq_of_isNear {x : Binary64} {u places v places' : Nat} (hle : places ≤ places')
    (hv : v < 10 ^ 15) (hu : IsNear x (u / 10 ^ places)) (hx : IsNear x (v / 10 ^ places')) :
    u * 10 ^ places' = v * 10 ^ places := by
  have hsplit : 10 ^ places' = 10 ^ (places' - places) * 10 ^ places := by
    rw [← Nat.pow_add, Nat.sub_add_cancel hle]
  have hparts : (0 : ℚ) < 10 ^ places' := by positivity
  have hcommon : (u / 10 ^ places : ℚ) = (u * 10 ^ (places' - places) : Nat) / 10 ^ places' := by
    have hcast : (10 : ℚ) ^ places' = 10 ^ (places' - places) * 10 ^ places := by
      exact_mod_cast congrArg (Nat.cast : Nat → ℚ) hsplit
    rw [hcast]
    push_cast
    field_simp
  rw [hcommon] at hu
  have hsame := eq_of_isNear hparts hv hu hx
  rw [hsplit, ← Nat.mul_assoc, hsame]

/-- Two decimals have one value if their units agree in common places. -/
theorem value_eq_iff {d d' : Decimal} :
    d.value = d'.value ↔ d.units * 10 ^ d'.scale = d'.units * 10 ^ d.scale := by
  have hne : (10 : ℚ) ^ d.scale ≠ 0 := by positivity
  have hne' : (10 : ℚ) ^ d'.scale ≠ 0 := by positivity
  rw [value, value, div_eq_div_iff hne hne']
  exact_mod_cast Iff.rfl

theorem neg_of_mul_pow_eq {a b : Int} {m n : Nat} (h : a * 10 ^ m = b * 10 ^ n) (ha : a < 0) :
    b < 0 := by
  have hm : (0 : Int) < 10 ^ m := by positivity
  have hn : (0 : Int) < 10 ^ n := by positivity
  have hleft : a * 10 ^ m < 0 := Int.mul_neg_of_neg_of_pos ha hm
  by_contra hb
  have hright : 0 ≤ b * 10 ^ n := Int.mul_nonneg (by omega) (by omega)
  omega

/-- Short decimals are converted to the same double exactly if they are the same number. -/
theorem toBinary64_eq_iff {d d' : Decimal} (h : d.IsShort) (h' : d'.IsShort) :
    d.toBinary64 = d'.toBinary64 ↔ d.value = d'.value := by
  rw [toBinary64_of_isShort h, toBinary64_of_isShort h', value_eq_iff]
  constructor
  · intro hsame
    obtain ⟨hnear, hsign⟩ := isNear_ofRatio (decide (d.units < 0)) h.units_lt h.scale_le
    obtain ⟨hnear', hsign'⟩ := isNear_ofRatio (decide (d'.units < 0)) h'.units_lt h'.scale_le
    rw [hsame] at hnear hsign
    -- the sign is kept, so that the absolute values are left to compare
    have hsigns : d.units < 0 ↔ d'.units < 0 := decide_eq_decide.mp (hsign.symm.trans hsign')
    have habs : d.units.natAbs * 10 ^ d'.scale = d'.units.natAbs * 10 ^ d.scale := by
      rcases Nat.le_total d.scale d'.scale with hle | hle
      · exact mul_pow_eq_of_isNear hle h'.units_lt hnear hnear'
      · exact (mul_pow_eq_of_isNear hle h.units_lt hnear' hnear).symm
    have habs' : (d.units.natAbs : Int) * 10 ^ d'.scale = d'.units.natAbs * 10 ^ d.scale := by
      exact_mod_cast habs
    by_cases hnegative : d.units < 0
    · have hnegative' := hsigns.mp hnegative
      rw [Int.ofNat_natAbs_of_nonpos (by omega), Int.ofNat_natAbs_of_nonpos (by omega),
        Int.neg_mul, Int.neg_mul] at habs'
      exact Int.neg_inj.mp habs'
    · have hnegative' := mt hsigns.mpr hnegative
      rwa [Int.natAbs_of_nonneg (by omega), Int.natAbs_of_nonneg (by omega)] at habs'
  · intro hsame
    have hpos : ∀ places : Nat, 0 < 10 ^ places := fun places => Nat.pow_pos (by decide)
    have hsigns : d.units < 0 ↔ d'.units < 0 :=
      ⟨neg_of_mul_pow_eq hsame, neg_of_mul_pow_eq hsame.symm⟩
    have habs : d.units.natAbs * 10 ^ d'.scale = d'.units.natAbs * 10 ^ d.scale := by
      have hboth := congrArg Int.natAbs hsame
      rwa [Int.natAbs_mul, Int.natAbs_mul, Int.natAbs_pow, Int.natAbs_pow] at hboth
    rw [decide_eq_decide.mpr hsigns]
    apply ofUnits_congr _ (hpos _) (hpos _)
    calc d.units.natAbs * Nat.pow 2 1074 * 10 ^ d'.scale
        = d.units.natAbs * 10 ^ d'.scale * Nat.pow 2 1074 := Nat.mul_right_comm _ _ _
      _ = d'.units.natAbs * 10 ^ d.scale * Nat.pow 2 1074 := by rw [habs]
      _ = d'.units.natAbs * Nat.pow 2 1074 * 10 ^ d.scale := Nat.mul_right_comm _ _ _

/-- A short decimal is rounded to zero only if it is zero. -/
theorem value_eq_zero_of_isShort {d : Decimal} (h : d.IsShort)
    (hzero : d.toBinary64.magnitude = 0) : d.value = 0 := by
  obtain ⟨hnear, -⟩ := isNear_ofRatio (decide (d.units < 0)) h.units_lt h.scale_le
  rw [← toBinary64_of_isShort h] at hnear
  have hparts : (0 : ℚ) < 10 ^ d.scale := by positivity
  have hnone := le_zero_of_isNear_div hparts hnear (size_of_magnitude hzero)
  have hnat : d.units.natAbs ≤ 0 := by exact_mod_cast hnone
  have hunits : d.units = 0 := by omega
  rw [value, hunits, Int.cast_zero, zero_div]

/-- Short decimals are told apart as numbers. -/
theorem coincides_iff {d d' : Decimal} (h : d.IsShort) (h' : d'.IsShort) :
    d.toBinary64.Coincides d'.toBinary64 ↔ d.value = d'.value := by
  constructor
  · intro hcoincides
    rcases hcoincides with hsame | ⟨hzero, hzero'⟩
    · exact (toBinary64_eq_iff h h').mp hsame
    · rw [value_eq_zero_of_isShort h hzero, value_eq_zero_of_isShort h' hzero']
  · intro hvalue
    exact Or.inl ((toBinary64_eq_iff h h').mpr hvalue)

end Decimal

end ContentSearch.Number
