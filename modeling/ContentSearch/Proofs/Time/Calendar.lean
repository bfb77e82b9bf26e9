import ContentSearch.Time.Instant

/-!
# Days and dates

The date of a day is a date of the calendar (`CivilDate.isReal_ofDayNumber`) and has the number of
the day (`CivilDate.dayNumber_ofDayNumber`). Within an era of 400 years, counted from March, a day
is told by its century, its cycle of four years and its day in the cycle.
-/

namespace ContentSearch.Time.CivilDate

/-! ## Years of an era -/

/-- The days of an era before one of its years. -/
def daysBefore (yearOfEra : Int) : Int :=
  365 * yearOfEra + yearOfEra / 4 - yearOfEra / 100

/-- A day of an era but its last one, by century, cycle and day in the cycle. The last cycle of a
century has no leap day. -/
structure IsInCycle (dayOfEra century cycle day : Int) : Prop where
  eq : dayOfEra = 36524 * century + 1461 * cycle + day
  century_nonneg : 0 ≤ century
  century_le : century ≤ 3
  cycle_nonneg : 0 ≤ cycle
  cycle_le : cycle ≤ 24
  day_nonneg : 0 ≤ day
  day_le : day ≤ 1460
  day_lt_of_last : cycle = 24 → day < 1460

theorem exists_isInCycle {dayOfEra : Int} (hfirst : 0 ≤ dayOfEra) (hlast : dayOfEra < 146096) :
    ∃ century cycle day, IsInCycle dayOfEra century cycle day := by
  refine ⟨dayOfEra / 36524, dayOfEra % 36524 / 1461, dayOfEra % 36524 % 1461, ?_⟩
  constructor <;> omega

/-- The leap days before a day are taken off, so that what is left divides into years of 365
days. -/
theorem IsInCycle.yearOfEra_eq {dayOfEra century cycle day : Int}
    (h : IsInCycle dayOfEra century cycle day) :
    (dayOfEra - dayOfEra / 1460 + dayOfEra / 36524 - dayOfEra / 146096) / 365
      = 100 * century + 4 * cycle + (if day = 1460 then 3 else day / 365) := by
  obtain ⟨rfl, _, _, _, _, _, _, _⟩ := h
  have hera : (36524 * century + 1461 * cycle + day) / 146096 = 0 := by omega
  have hcenturies : (36524 * century + 1461 * cycle + day) / 36524 = century := by omega
  -- the cycles are one day longer than what the leap days are counted by
  have hleap : (36524 * century + 1461 * cycle + day) / 1460
      = 25 * century + cycle + (if 1460 ≤ 24 * century + cycle + day then 1 else 0) := by
    split <;> omega
  rw [hera, hcenturies, hleap]
  split <;> split <;> omega

/-- The year of a day begins no more than 365 days before it, and 365 days only in leap years. -/
theorem yearOfEra_bounds {dayOfEra yearOfEra : Int} (hfirst : 0 ≤ dayOfEra)
    (hlast : dayOfEra < 146097)
    (hyear : yearOfEra
      = (dayOfEra - dayOfEra / 1460 + dayOfEra / 36524 - dayOfEra / 146096) / 365) :
    0 ≤ yearOfEra ∧ yearOfEra ≤ 399 ∧ daysBefore yearOfEra ≤ dayOfEra
      ∧ dayOfEra ≤ daysBefore yearOfEra + 365
      ∧ (dayOfEra = daysBefore yearOfEra + 365 →
        (yearOfEra + 1) % 4 = 0 ∧ ((yearOfEra + 1) % 100 ≠ 0 ∨ yearOfEra = 399)) := by
  unfold daysBefore
  by_cases hend : dayOfEra = 146096
  · subst hend
    obtain rfl : yearOfEra = 399 := hyear
    decide
  · obtain ⟨century, cycle, day, hcycle⟩ := exists_isInCycle hfirst (by omega)
    rw [hcycle.yearOfEra_eq] at hyear
    obtain ⟨rfl, _, _, _, _, _, _, _⟩ := hcycle
    generalize hturn : (if day = 1460 then 3 else day / 365) = turn at hyear
    have hturns : 0 ≤ turn ∧ turn ≤ 3 ∧ 365 * turn ≤ day ∧ day ≤ 365 * turn + 365
        ∧ (day = 365 * turn + 365 → day = 1460) := by
      split at hturn <;> omega
    have hcenturies : yearOfEra / 100 = century := by omega
    have hcycles : yearOfEra / 4 = 25 * century + cycle := by omega
    rw [hcenturies, hcycles]
    refine ⟨by omega, by omega, by omega, by omega, fun hleap => ?_⟩
    have hlastDay : day = 1460 ∧ turn = 3 := by omega
    omega

/-! ## Days of a year -/

/-- A date that the calendar has. -/
structure IsReal (d : CivilDate) : Prop where
  month_pos : 1 ≤ d.month
  month_le : d.month ≤ 12
  day_pos : 1 ≤ d.day
  day_le : d.day ≤ daysInMonth d.year d.month

/-- The date of a day of a year that is counted from March, in the month that begins at the day
`(153 * monthFromMarch + 2) / 5`. -/
def ofYearAndDay (year : Int) (dayOfYear : Nat) : CivilDate :=
  let monthFromMarch := (5 * dayOfYear + 2) / 153
  let day := dayOfYear - (153 * monthFromMarch + 2) / 5 + 1
  if monthFromMarch < 10 then ⟨year, monthFromMarch + 3, day⟩
  else ⟨year + 1, monthFromMarch - 9, day⟩

/-- The leap day is the last day of its year. -/
theorem isReal_ofYearAndDay {year : Int} {dayOfYear : Nat} (hday : dayOfYear ≤ 365)
    (hleap : dayOfYear = 365 → isLeapYear (year + 1) = true) :
    (ofYearAndDay year dayOfYear).IsReal := by
  unfold ofYearAndDay
  dsimp only
  split
  · refine ⟨by dsimp only; omega, by dsimp only; omega, by dsimp only; omega, ?_⟩
    unfold daysInMonth
    dsimp only
    rw [if_neg (by omega)]
    split <;> omega
  · refine ⟨by dsimp only; omega, by dsimp only; omega, by dsimp only; omega, ?_⟩
    obtain hmonth | hmonth : (5 * dayOfYear + 2) / 153 = 10 ∨ (5 * dayOfYear + 2) / 153 = 11 := by
      omega
    · rw [hmonth]
      show dayOfYear - 306 + 1 ≤ 31
      omega
    · rw [hmonth]
      show dayOfYear - 337 + 1 ≤ if isLeapYear (year + 1) then 29 else 28
      split
      · omega
      · rename_i hcommon
        have hne : dayOfYear ≠ 365 := fun hlast => hcommon (hleap hlast)
        omega

theorem dayNumber_ofYearAndDay {year : Int} {dayOfYear : Nat} (hday : dayOfYear ≤ 365) :
    (ofYearAndDay year dayOfYear).dayNumber
      = year / 400 * 146097 + (daysBefore (year % 400) + dayOfYear) - 719468 := by
  have hparts : ∀ month, month = (5 * dayOfYear + 2) / 153 →
      ((153 * month + 2) / 5 + (dayOfYear - (153 * month + 2) / 5 + 1) - 1) = dayOfYear := by
    rintro month rfl
    omega
  unfold ofYearAndDay
  dsimp only
  split
  · have hmonth : ((5 * dayOfYear + 2) / 153 + 3 + 9) % 12 = (5 * dayOfYear + 2) / 153 := by omega
    unfold dayNumber
    dsimp only
    rw [if_neg (by omega), hmonth, hparts _ rfl]
    unfold daysBefore
    omega
  · have hmonth : ((5 * dayOfYear + 2) / 153 - 9 + 9) % 12 = (5 * dayOfYear + 2) / 153 := by omega
    have hyear : year + 1 - 1 = year := Int.add_sub_cancel year 1
    unfold dayNumber
    dsimp only
    rw [if_pos (by omega), hmonth, hparts _ rfl, hyear]
    unfold daysBefore
    omega

/-! ## Days of the calendar -/

/-- A day is a day of a year from March, which has a leap day if the year after it has one. -/
theorem exists_ofDayNumber (days : Int) :
    ∃ (year : Int) (dayOfYear : Nat), ofDayNumber days = ofYearAndDay year dayOfYear
      ∧ dayOfYear ≤ 365 ∧ (dayOfYear = 365 → isLeapYear (year + 1) = true)
      ∧ year / 400 * 146097 + (daysBefore (year % 400) + dayOfYear) - 719468 = days := by
  obtain ⟨era, hera⟩ : ∃ era, era = (days + 719468) / 146097 := ⟨_, rfl⟩
  obtain ⟨dayOfEra, hdayOfEra⟩ : ∃ dayOfEra, dayOfEra = (days + 719468) % 146097 := ⟨_, rfl⟩
  obtain ⟨yearOfEra, hyearOfEra⟩ : ∃ yearOfEra, yearOfEra
      = (dayOfEra - dayOfEra / 1460 + dayOfEra / 36524 - dayOfEra / 146096) / 365 := ⟨_, rfl⟩
  obtain ⟨hfirst, hlast, hbegun, hend, hleap⟩ :=
    yearOfEra_bounds (by omega) (by omega) hyearOfEra
  refine ⟨yearOfEra + era * 400, (dayOfEra - daysBefore yearOfEra).toNat, ?_, by omega, ?_, ?_⟩
  · unfold ofDayNumber ofYearAndDay daysBefore
    dsimp only
    rw [← hera, ← hdayOfEra, ← hyearOfEra]
    split
    · rw [if_neg (by omega)]
    · rw [if_pos (by omega)]
  · intro hday
    obtain ⟨hfour, hcentury⟩ := hleap (by omega)
    have hfour' : (yearOfEra + era * 400 + 1) % 4 = 0 := by omega
    have hcentury' : (yearOfEra + era * 400 + 1) % 100 ≠ 0
        ∨ (yearOfEra + era * 400 + 1) % 400 = 0 := by omega
    rw [isLeapYear, Bool.and_eq_true, Bool.or_eq_true, beq_iff_eq, bne_iff_ne, beq_iff_eq]
    exact ⟨hfour', hcentury'⟩
  · have hyear : (yearOfEra + era * 400) / 400 = era := by omega
    have hrest : (yearOfEra + era * 400) % 400 = yearOfEra := by omega
    rw [hyear, hrest]
    omega

/-- A day has a date of the calendar. -/
theorem isReal_ofDayNumber (days : Int) : (ofDayNumber days).IsReal := by
  obtain ⟨year, dayOfYear, hdate, hday, hleap, -⟩ := exists_ofDayNumber days
  rw [hdate]
  exact isReal_ofYearAndDay hday hleap

/-- The date of a day has the number of the day. -/
theorem dayNumber_ofDayNumber (days : Int) : (ofDayNumber days).dayNumber = days := by
  obtain ⟨year, dayOfYear, hdate, hday, -, hnumber⟩ := exists_ofDayNumber days
  rw [hdate, dayNumber_ofYearAndDay hday, hnumber]

end ContentSearch.Time.CivilDate
