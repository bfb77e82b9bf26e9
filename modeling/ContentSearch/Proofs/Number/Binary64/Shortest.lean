import ContentSearch.Proofs.Number.Binary64.Rounding

/-!
# Shortest digits

The digits that a number is written with lie in its rounding interval (`holdsAt_shortest`). The
search for them ends because steps of seventeen digits are smaller than the interval is wide: one of
the two neighbours of the number on that grid is within the interval.
-/

namespace ContentSearch.Number.Binary64

variable {x : Binary64}

/-! ## Decimals in an interval -/

namespace Interval

variable {i : Interval}

/-- The interval holds a ratio however it is written. -/
theorem holds_congr {num den num' den' : Nat} (hden : 0 < den) (hden' : 0 < den')
    (h : num * den' = num' * den) : i.holds num den = i.holds num' den' := by
  have hle : ∀ border, border * den ≤ num ↔ border * den' ≤ num' := by
    intro border
    rw [← Nat.mul_le_mul_right_iff hden', h, Nat.mul_right_comm, Nat.mul_le_mul_right_iff hden]
  have hge : ∀ border, num ≤ border * den ↔ num' ≤ border * den' := by
    intro border
    rw [← Nat.mul_le_mul_right_iff hden', h, Nat.mul_right_comm, Nat.mul_le_mul_right_iff hden]
  rw [Bool.eq_iff_iff, holds_iff, holds_iff]
  simp only [← Nat.not_le, hle, hge]

/-- Whether the decimal `digits · 10 ^ exponent` lies in the interval. -/
def holdsAt (i : Interval) (digits : Nat) (exponent : Int) : Bool :=
  i.holds (digits * (gridStep exponent).1) (gridStep exponent).2

end Interval

/-- The quarter units in the number one. -/
def quartersOfOne : Nat := Nat.pow 2 1076

/-- The exponent is kept as a variable, as the power is too large to be worked out. -/
theorem quartersOfOne_eq {power : Nat} (h : power = 1076) : quartersOfOne = 2 ^ power := by
  unfold quartersOfOne
  generalize 1076 = exponent at h ⊢
  exact h ▸ rfl

theorem quartersOfOne_pos : 0 < quartersOfOne := by
  obtain ⟨power, hpower⟩ : ∃ power : Nat, power = 1076 := ⟨1076, rfl⟩
  rw [quartersOfOne_eq hpower]
  exact Nat.two_pow_pos power

/-- The step of a grid, with one of the two powers of ten equal to one. -/
theorem gridStep_eq (exponent : Int) :
    gridStep exponent = (10 ^ exponent.toNat * quartersOfOne, 10 ^ (-exponent).toNat) := by
  unfold gridStep quartersOfOne
  generalize Nat.pow 2 1076 = quarters
  split
  · rename_i hwhole
    have hzero : (-exponent).toNat = 0 := by omega
    rw [hzero]
    rfl
  · rename_i hfraction
    have hzero : exponent.toNat = 0 := by omega
    rw [hzero, Nat.pow_zero, Nat.one_mul]
    rfl

theorem gridStep_snd_pos (exponent : Int) : 0 < (gridStep exponent).2 := by
  rw [gridStep_eq]
  exact Nat.pow_pos (by decide)

/-- A step of the next grid is ten steps. -/
theorem gridStep_succ (exponent : Int) :
    10 * (gridStep exponent).1 * (gridStep (exponent + 1)).2
      = (gridStep (exponent + 1)).1 * (gridStep exponent).2 := by
  have hpowers : exponent.toNat + 1 + (-(exponent + 1)).toNat
      = (exponent + 1).toNat + (-exponent).toNat := by omega
  rw [gridStep_eq, gridStep_eq]
  calc 10 * (10 ^ exponent.toNat * quartersOfOne) * 10 ^ (-(exponent + 1)).toNat
      = 10 ^ (exponent.toNat + 1 + (-(exponent + 1)).toNat) * quartersOfOne := by ring
    _ = 10 ^ (exponent + 1).toNat * quartersOfOne * 10 ^ (-exponent).toNat := by
      rw [hpowers]
      ring

/-- A zero at the end of the digits counts for the exponent. -/
theorem Interval.holdsAt_mul_ten (i : Interval) (digits : Nat) (exponent : Int) :
    i.holdsAt (10 * digits) exponent = i.holdsAt digits (exponent + 1) := by
  apply holds_congr (gridStep_snd_pos _) (gridStep_snd_pos _)
  have hstep := gridStep_succ exponent
  calc 10 * digits * (gridStep exponent).1 * (gridStep (exponent + 1)).2
      = digits * (10 * (gridStep exponent).1 * (gridStep (exponent + 1)).2) := by ring
    _ = digits * (gridStep (exponent + 1)).1 * (gridStep exponent).2 := by rw [hstep]; ring

theorem Interval.holdsAt_mul_pow (i : Interval) (digits zeros : Nat) (exponent : Int) :
    i.holdsAt (digits * 10 ^ zeros) (exponent - zeros) = i.holdsAt digits exponent := by
  induction zeros with
  | zero => simp
  | succ zeros ih =>
    have hdigits : digits * 10 ^ (zeros + 1) = 10 * (digits * 10 ^ zeros) := by ring
    have hexponent : exponent - (zeros + 1 : Nat) + 1 = exponent - zeros := by omega
    rw [hdigits, holdsAt_mul_ten, hexponent, ih]

/-! ## Reading decimals of an interval -/

/-- The powers of ten around a number of as many digits. -/
theorem pow_length_toDigits {n : Nat} (hn : 0 < n) :
    10 ^ ((Nat.toDigits 10 n).length - 1) ≤ n ∧ n < 10 ^ (Nat.toDigits 10 n).length := by
  have hpos : 0 < (Nat.toDigits 10 n).length := Nat.length_toDigits_pos
  constructor
  · by_cases hone : (Nat.toDigits 10 n).length - 1 = 0
    · rw [hone]
      exact hn
    · apply Nat.le_of_not_lt
      intro hlt
      have := (Nat.length_toDigits_le_iff (by decide) (by omega)).mpr hlt
      omega
  · exact (Nat.length_toDigits_le_iff (by decide) hpos).mp (Nat.le_refl _)

/-- The interval of a number that is not zero lies above zero. -/
theorem two_le_low (hpos : 0 < x.significand) : 2 ≤ x.interval.low := by
  have hlow := low_eq x hpos
  have hstep : 1 ≤ 2 ^ x.spacing := Nat.two_pow_pos x.spacing
  split at hlow <;> nlinarith

theorem Interval.digits_pos (hpos : 0 < x.significand) {digits : Nat} {exponent : Int}
    (h : x.interval.holdsAt digits exponent = true) : 0 < digits := by
  apply Nat.pos_of_ne_zero
  rintro rfl
  have hlow := (holds_iff.mp h).1
  have hden := Nat.mul_pos (Nat.lt_of_lt_of_le Nat.two_pos (two_le_low hpos))
    (gridStep_snd_pos exponent)
  omega

/-- No number reaches `2 ^ 1024`. -/
theorem high_lt (hfinite : x.isFinite = true) {power : Nat} (hpower : power = 1024) :
    x.interval.high < 2 ^ power * quartersOfOne := by
  have hmagnitude := magnitude_lt_of_isFinite hfinite
  have hsignificand := significand_lt x
  have hspacing : x.spacing ≤ 2045 := by
    have hsum := magnitude_eq x
    by_contra hlarge
    have hleast := le_significand (x := x) (by omega)
    omega
  obtain ⟨unit, hunit⟩ : ∃ unit : Nat, unit = 1076 := ⟨1076, rfl⟩
  rw [high_eq, quartersOfOne_eq hunit, ← Nat.pow_add]
  calc (4 * x.significand + 2) * 2 ^ x.spacing
      < 2 ^ 55 * 2 ^ x.spacing := Nat.mul_lt_mul_of_pos_right (by omega) (Nat.two_pow_pos _)
    _ = 2 ^ (55 + x.spacing) := (Nat.pow_add 2 55 x.spacing).symm
    _ ≤ 2 ^ (power + unit) := Nat.pow_le_pow_right (by decide) (by omega)

/-- Eight is less than ten. -/
theorem two_pow_le_ten_pow {a b : Nat} (h : a ≤ 3 * b) : 2 ^ a ≤ 10 ^ b := by
  calc 2 ^ a ≤ 2 ^ (3 * b) := Nat.pow_le_pow_right (by decide) h
    _ = 8 ^ b := Nat.pow_mul 2 3 b
    _ ≤ 10 ^ b := Nat.pow_le_pow_left (by decide) b

/-- A decimal in the interval of a number has no more than 400 digits before its point. -/
theorem length_add_le (hfinite : x.isFinite = true) (hpos : 0 < x.significand) {digits : Nat}
    {exponent : Int} (h : x.interval.holdsAt digits exponent = true) :
    ((Nat.toDigits 10 digits).length : Int) + exponent ≤ 400 := by
  by_contra hlarge
  obtain ⟨power, hpower⟩ : ∃ power : Nat, power = 1024 := ⟨1024, rfl⟩
  have hcount := (pow_length_toDigits (Interval.digits_pos hpos h)).1
  have hlength : 0 < (Nat.toDigits 10 digits).length := Nat.length_toDigits_pos
  have hhigh := (Interval.holds_iff.mp h).2.1
  rw [gridStep_eq] at hhigh
  dsimp only at hhigh
  obtain ⟨excess, hexcess⟩ : ∃ excess, (Nat.toDigits 10 digits).length - 1 + exponent.toNat
      = excess + (-exponent).toNat :=
    ⟨(Nat.toDigits 10 digits).length - 1 + exponent.toNat - (-exponent).toNat, by omega⟩
  have hbound : 10 ^ excess * quartersOfOne * 10 ^ (-exponent).toNat
      < 10 ^ excess * quartersOfOne * 10 ^ (-exponent).toNat := by
    calc 10 ^ excess * quartersOfOne * 10 ^ (-exponent).toNat
        = 10 ^ (excess + (-exponent).toNat) * quartersOfOne := by ring
      _ = 10 ^ ((Nat.toDigits 10 digits).length - 1)
            * (10 ^ exponent.toNat * quartersOfOne) := by
          rw [← hexcess]
          ring
      _ ≤ digits * (10 ^ exponent.toNat * quartersOfOne) := Nat.mul_le_mul_right _ hcount
      _ ≤ x.interval.high * 10 ^ (-exponent).toNat := hhigh
      _ < 2 ^ power * quartersOfOne * 10 ^ (-exponent).toNat :=
          Nat.mul_lt_mul_of_pos_right (high_lt hfinite hpower) (Nat.pow_pos (by decide))
      _ ≤ 10 ^ excess * quartersOfOne * 10 ^ (-exponent).toNat :=
          Nat.mul_le_mul_right _ (Nat.mul_le_mul_right _ (two_pow_le_ten_pow (by omega)))
  exact Nat.lt_irrefl _ hbound

/-- A decimal in the interval of a number has no more than 400 zeros after its point. -/
theorem le_length_add (hpos : 0 < x.significand) {digits : Nat} {exponent : Int}
    (h : x.interval.holdsAt digits exponent = true) :
    -400 ≤ ((Nat.toDigits 10 digits).length : Int) + exponent := by
  by_contra hsmall
  obtain ⟨power, hpower⟩ : ∃ power : Nat, power = 1076 := ⟨1076, rfl⟩
  have hcount := (pow_length_toDigits (Interval.digits_pos hpos h)).2
  have hlow := (Interval.holds_iff.mp h).1
  rw [gridStep_eq] at hlow
  dsimp only at hlow
  obtain ⟨excess, hexcess⟩ : ∃ excess, (-exponent).toNat
      = (Nat.toDigits 10 digits).length + exponent.toNat + excess :=
    ⟨(-exponent).toNat - (Nat.toDigits 10 digits).length - exponent.toNat, by omega⟩
  have hbound : 10 ^ (-exponent).toNat < 10 ^ (-exponent).toNat := by
    calc 10 ^ (-exponent).toNat
        ≤ x.interval.low * 10 ^ (-exponent).toNat :=
          Nat.le_mul_of_pos_left _ (Nat.lt_of_lt_of_le Nat.two_pos (two_le_low hpos))
      _ ≤ digits * (10 ^ exponent.toNat * quartersOfOne) := hlow
      _ < 10 ^ (Nat.toDigits 10 digits).length * (10 ^ exponent.toNat * quartersOfOne) :=
          Nat.mul_lt_mul_of_pos_right hcount
            (Nat.mul_pos (Nat.pow_pos (by decide)) quartersOfOne_pos)
      _ ≤ 10 ^ (Nat.toDigits 10 digits).length * (10 ^ exponent.toNat * 10 ^ excess) := by
          rw [quartersOfOne_eq hpower]
          exact Nat.mul_le_mul_left _ (Nat.mul_le_mul_left _ (two_pow_le_ten_pow (by omega)))
      _ = 10 ^ (-exponent).toNat := by
          rw [hexcess]
          ring
  exact Nat.lt_irrefl _ hbound

theorem quartersOfOne_eq_four_mul : quartersOfOne = 4 * Nat.pow 2 1074 := by
  obtain ⟨power, hpower⟩ : ∃ power : Nat, power = 1074 := ⟨1074, rfl⟩
  have hsucc : power + 2 = 1076 := by omega
  rw [quartersOfOne_eq hsucc, ← hpower, Nat.pow_add, Nat.mul_comm]
  rfl

/-- A decimal in the interval of a number is read as this number. -/
theorem ofScientific_of_holdsAt (hfinite : x.isFinite = true) (hpos : 0 < x.significand)
    {digits : Nat} {exponent : Int} (h : x.interval.holdsAt digits exponent = true)
    (negative : Bool) :
    ofScientific negative digits exponent = ofMagnitude negative x.magnitude := by
  have hdigits := Interval.digits_pos hpos h
  have hupper := length_add_le hfinite hpos h
  have hlower := le_length_add hpos h
  have hholds : x.interval.holds (4 * (digits * 10 ^ exponent.toNat * Nat.pow 2 1074))
      (10 ^ (-exponent).toNat) = true := by
    have hfour := quartersOfOne_eq_four_mul
    unfold Interval.holdsAt at h
    rw [gridStep_eq] at h
    generalize Nat.pow 2 1074 = one at hfour ⊢
    have hquarters : 4 * (digits * 10 ^ exponent.toNat * one)
        = digits * (10 ^ exponent.toNat * (4 * one)) := by ring
    rw [hquarters, ← hfour]
    exact h
  have hrounded := ofUnits_of_holds hfinite hpos (Nat.pow_pos (by decide)) hholds negative
  unfold ofScientific ofRatio
  dsimp only
  rw [if_neg (by omega), if_neg (by omega), if_neg (by omega)]
  generalize Nat.pow 2 1074 = one at hrounded ⊢
  split
  · rename_i hwhole
    have hzero : (-exponent).toNat = 0 := by omega
    rw [hzero] at hrounded
    exact hrounded
  · rename_i hfraction
    have hzero : exponent.toNat = 0 := by omega
    rw [hzero, Nat.pow_zero, Nat.mul_one] at hrounded
    exact hrounded

/-! ## The search -/

/-- A neighbour that the search accepts lies in the interval. -/
theorem holdsAt_of_onGrid? {i : Interval} {exponent : Int} {digits : Nat}
    (h : onGrid? i exponent = some digits) : i.holdsAt digits exponent = true := by
  unfold onGrid? at h
  unfold Interval.holdsAt
  dsimp only at h
  split at h
  · rename_i hboth
    obtain ⟨hlower, hupper⟩ := Bool.and_eq_true_iff.mp hboth
    split at h <;> cases h <;> assumption
  · split at h
    · cases h
      assumption
    · split at h
      · cases h
        assumption
      · cases h

/-- The search accepts a grid with a neighbour in the interval. -/
theorem onGrid?_isSome {i : Interval} {exponent : Int} {below : Nat}
    (hbelow : below = i.value * (gridStep exponent).2 / (gridStep exponent).1)
    (h : i.holdsAt below exponent = true ∨ i.holdsAt (below + 1) exponent = true) :
    (onGrid? i exponent).isSome = true := by
  subst hbelow
  unfold Interval.holdsAt at h
  unfold onGrid?
  dsimp only
  split
  · rfl
  · split
    · rfl
    · rename_i hlower
      rw [if_pos (h.resolve_left hlower)]
      rfl

/-- To drop a zero changes no value. -/
theorem Interval.holdsAt_dropZero (i : Interval) (digits : Nat) (exponent : Int) :
    i.holdsAt (dropZero digits exponent).1 (dropZero digits exponent).2
      = i.holdsAt digits exponent := by
  unfold dropZero
  split
  · rename_i hzero
    have htens : digits = 10 * (digits / 10) := by omega
    conv_rhs => rw [htens]
    exact (i.holdsAt_mul_ten (digits / 10) exponent).symm
  · rfl

/-- The search yields a decimal of the interval if one of its grids has such a neighbour. -/
theorem holdsAt_shortestFrom {i : Interval} {point : Int} {fuel count last : Nat}
    (hlast : (onGrid? i (point - last)).isSome = true) (hcount : count ≤ last)
    (hfuel : last < count + fuel) :
    i.holdsAt (shortestFrom i point count fuel).1 (shortestFrom i point count fuel).2 = true := by
  induction fuel generalizing count with
  | zero => omega
  | succ fuel ih =>
    unfold shortestFrom
    split
    · rename_i digits hfound
      rw [i.holdsAt_dropZero]
      exact holdsAt_of_onGrid? hfound
    · rename_i hnone
      have hne : count ≠ last := by
        rintro rfl
        rw [hnone] at hlast
        cases hlast
      exact ih (by omega) (by omega)

/-- The exponents are kept as variables, as the powers are too large to be worked out. -/
theorem pointPosition_eq (x : Binary64) {shift one : Nat} (hshift : shift = 400)
    (hone : one = 1074) :
    x.pointPosition
      = ((Nat.toDigits 10 (x.units * 10 ^ shift / 2 ^ one)).length : Int) - 400 := by
  unfold pointPosition
  generalize (400 : Nat) = scale at hshift ⊢
  generalize (1074 : Nat) = unit at hone ⊢
  subst hshift hone
  rfl

/-- The grid of seventeen digits: the number has more than `10 ^ 16` of its steps. -/
theorem step_mul_le (hpos : 0 < x.significand) :
    (gridStep (x.pointPosition - 17)).1 * 10 ^ 16
      ≤ x.interval.value * (gridStep (x.pointPosition - 17)).2 := by
  obtain ⟨shift, hshift⟩ : ∃ shift : Nat, shift = 400 := ⟨400, rfl⟩
  obtain ⟨one, hone⟩ : ∃ one : Nat, one = 1074 := ⟨1074, rfl⟩
  have hquarters : quartersOfOne = 4 * 2 ^ one := by
    rw [quartersOfOne_eq_four_mul]
    generalize (1074 : Nat) = unit at hone ⊢
    exact hone ▸ rfl
  have hunits : 0 < x.units := Nat.mul_pos hpos (Nat.two_pow_pos _)
  have hposition := pointPosition_eq x hshift hone
  have hscaled : 0 < x.units * 10 ^ shift / 2 ^ one := by
    apply Nat.div_pos _ (Nat.two_pow_pos one)
    calc 2 ^ one ≤ 10 ^ shift := two_pow_le_ten_pow (by omega)
      _ ≤ x.units * 10 ^ shift := Nat.le_mul_of_pos_left _ hunits
  have hlength := (pow_length_toDigits hscaled).1
  have hlengthPos : 0 < (Nat.toDigits 10 (x.units * 10 ^ shift / 2 ^ one)).length :=
    Nat.length_toDigits_pos
  generalize (Nat.toDigits 10 (x.units * 10 ^ shift / 2 ^ one)).length = length
    at hposition hlength hlengthPos
  rw [Nat.le_div_iff_mul_le (Nat.two_pow_pos one)] at hlength
  rw [gridStep_eq, hposition, hquarters]
  have hexponents : ((length : Int) - 400 - 17).toNat + 16 + shift
      = length - 1 + (-((length : Int) - 400 - 17)).toNat := by omega
  generalize ((length : Int) - 400 - 17).toNat = m at hexponents
  generalize (-((length : Int) - 400 - 17)).toNat = n at hexponents
  show 10 ^ m * (4 * 2 ^ one) * 10 ^ 16 ≤ 4 * x.units * 10 ^ n
  apply Nat.le_of_mul_le_mul_right _ (Nat.pow_pos (n := shift) (by decide : 0 < 10))
  calc 10 ^ m * (4 * 2 ^ one) * 10 ^ 16 * 10 ^ shift
      = 10 ^ (m + 16 + shift) * (4 * 2 ^ one) := by ring
    _ = 4 * (10 ^ (length - 1) * 2 ^ one) * 10 ^ n := by
      rw [hexponents]
      ring
    _ ≤ 4 * (x.units * 10 ^ shift) * 10 ^ n :=
      Nat.mul_le_mul_right _ (Nat.mul_le_mul_left _ hlength)
    _ = 4 * x.units * 10 ^ n * 10 ^ shift := by ring

/-- What lies strictly between the borders is in the interval. -/
theorem Interval.holds_of_lt {i : Interval} {num den : Nat} (hlow : i.low * den < num)
    (hhigh : num < i.high * den) : i.holds num den = true :=
  holds_iff.mpr ⟨hlow.le, hhigh.le, fun _ => ⟨hlow, hhigh⟩⟩

/-- A neighbour on the grid of seventeen digits lies in the interval. -/
theorem onGrid?_seventeen (hpos : 0 < x.significand) :
    (onGrid? x.interval (x.pointPosition - 17)).isSome = true := by
  have hsteps := step_mul_le hpos
  have hden := gridStep_snd_pos (x.pointPosition - 17)
  have hsignificand := significand_lt x
  have hlow := congrArg (· * (gridStep (x.pointPosition - 17)).2) (low_eq x hpos)
  simp only [Nat.add_mul] at hlow
  have hvalue : x.interval.value = 4 * x.significand * 2 ^ x.spacing := by
    show 4 * (x.significand * 2 ^ x.spacing) = _
    ring
  have hstepPos : 0 < (gridStep (x.pointPosition - 17)).1 := by
    rw [gridStep_eq]
    exact Nat.mul_pos (Nat.pow_pos (by decide)) quartersOfOne_pos
  apply onGrid?_isSome rfl
  unfold Interval.holdsAt
  have hdivision := Nat.div_add_mod (x.interval.value * (gridStep (x.pointPosition - 17)).2)
    (gridStep (x.pointPosition - 17)).1
  have hrest := Nat.mod_lt (x.interval.value * (gridStep (x.pointPosition - 17)).2) hstepPos
  rw [hvalue] at hsteps hdivision hrest ⊢
  generalize (gridStep (x.pointPosition - 17)).1 = step at *
  generalize (gridStep (x.pointPosition - 17)).2 = den at *
  generalize 4 * x.significand * 2 ^ x.spacing * den / step = below at *
  generalize 4 * x.significand * 2 ^ x.spacing * den % step = rest at *
  have hhigh : x.interval.high * den = 4 * x.significand * 2 ^ x.spacing * den
      + 2 * 2 ^ x.spacing * den := by
    rw [high_eq]
    ring
  have hunit : 0 < 2 ^ x.spacing * den := Nat.mul_pos (Nat.two_pow_pos _) hden
  have hvalueSteps : 4 * x.significand * 2 ^ x.spacing * den
      = 4 * x.significand * (2 ^ x.spacing * den) := by ring
  have hnext : (below + 1) * step = step * below + step := by ring
  rw [Nat.mul_comm below step, hnext]
  split at hlow
  · rename_i hnarrow
    -- below a power of two the steps are twice as fine, so the upper neighbour is near
    rw [hnarrow.1] at hsteps hvalueSteps hdivision hlow hhigh
    right
    apply Interval.holds_of_lt <;> linarith
  · have hfine : step < 4 * (2 ^ x.spacing * den) := by nlinarith
    -- a step is less than the width, so one of the neighbours is nearer than half of it
    by_cases hnear : rest < 2 * (2 ^ x.spacing * den)
    · left
      apply Interval.holds_of_lt <;> linarith
    · right
      apply Interval.holds_of_lt <;> linarith

/-- The digits of a number lie in its rounding interval. -/
theorem holdsAt_shortest (hpos : 0 < x.significand) :
    x.interval.holdsAt x.shortest.1 x.shortest.2 = true := by
  have hlast : (onGrid? x.interval (x.pointPosition - (17 : Nat))).isSome = true :=
    onGrid?_seventeen hpos
  exact holdsAt_shortestFrom hlast (by decide) (by decide)

end ContentSearch.Number.Binary64
