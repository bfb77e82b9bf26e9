import ContentSearch.Proofs.Number.Digits
import ContentSearch.Proofs.Text.Blank
import ContentSearch.Proofs.Time.Calendar
import Mathlib.Data.List.TakeWhile

/-!
# Reading instants back

The text of an instant keeps its milliseconds. It is read back as an instant of the same
milliseconds if its year has four digits (`Instant.ofText?_text`), and is refused otherwise, since
the year is then written with a sign (`Instant.ofText?_text_eq_none`).
-/

namespace ContentSearch.Time.Instant

open Number

/-! ## Fields -/

/-- A field has its width. -/
theorem length_padded {width n : Nat} (hwidth : 0 < width) (h : n < 10 ^ width) :
    (padded width n).length = width := by
  have hlength := (Nat.length_toDigits_le_iff (by decide) hwidth).mpr h
  unfold padded
  rw [List.length_append, List.length_replicate]
  omega

theorem isDigit_of_mem_padded {width n : Nat} {c : Char} (h : c ∈ padded width n) :
    c.isDigit = true := by
  unfold padded at h
  rcases List.mem_append.mp h with hc | hc
  · rw [List.eq_of_mem_replicate hc]
    rfl
  · exact Nat.isDigit_of_mem_toDigits (by decide) (by decide) hc

theorem ofDigitChars_padded (width n : Nat) : Nat.ofDigitChars 10 (padded width n) 0 = n := by
  unfold padded
  rw [Nat.ofDigitChars_append, Nat.ofDigitChars_replicate_zero, Nat.mul_zero,
    Nat.ofDigitChars_ten_toDigits]

/-- A field is read up to its width, whatever follows. -/
theorem digits?_padded {width n : Nat} (hwidth : 0 < width) (h : n < 10 ^ width)
    (rest : List Char) : digits? width width (padded width n ++ rest) = some (n, rest) := by
  have hlength := length_padded hwidth h
  have hrun : ((padded width n ++ rest).take width).takeWhile Char.isDigit = padded width n := by
    rw [List.take_left' hlength]
    exact List.takeWhile_eq_self_iff.mpr fun c hc => isDigit_of_mem_padded hc
  have hne : padded width n ≠ [] := List.ne_nil_of_length_pos (hlength.symm ▸ hwidth)
  unfold digits?
  dsimp only
  rw [hrun, if_pos ⟨Nat.le_of_eq hlength.symm, hne⟩, ofDigitChars_padded, List.drop_left' rfl]

/-- Three digits of fraction are milliseconds. -/
theorem fraction?_padded {n : Nat} (h : n < 1000) {c : Char} (hc : c.isDigit = false)
    (rest : List Char) :
    fraction? ('.' :: (padded 3 n ++ c :: rest)) = some (n * 1000000, c :: rest) := by
  have hlength : (padded 3 n).length = 3 := length_padded (by decide) h
  have hend : ∀ d ∈ (c :: rest).head?, d.isDigit = false := by simp [hc]
  have hdigits : ∀ d ∈ padded 3 n, d.isDigit = true := fun d hd => isDigit_of_mem_padded hd
  obtain ⟨htake, -⟩ := takeWhile_append_of_head hdigits hend
  have hkept : (padded 3 n).take 9 = padded 3 n := List.take_of_length_le (by omega)
  have hne : (padded 3 n).isEmpty = false := by
    rw [List.isEmpty_eq_false_iff]
    exact List.ne_nil_of_length_pos (by omega)
  have hdrop : (padded 3 n ++ c :: rest).drop 3 = c :: rest := List.drop_left' hlength
  simp only [fraction?, htake, hne, hkept, ofDigitChars_padded, hlength, hdrop]
  rfl

/-! ## Instants -/

/-- The date of an instant. -/
def date (t : Instant) : CivilDate :=
  CivilDate.ofDayNumber (t.seconds / 86400)

/-- The clock reading that is shown for an instant. A leap second is counted on from the second
before it, which makes it second 60 at the end of a minute, and else the second after. -/
def shownClock (t : Instant) : Clock :=
  let time := (t.seconds % 86400).toNat
  { hour := time / 3600
    minute := time / 60 % 60
    second := time % 60 + t.nanos / 1000000000
    nanos := t.nanos % 1000000000 / 1000000 * 1000000 }

theorem isCivil_shownClock {t : Instant} (hfirst : firstYear ≤ t.date.year)
    (hlast : t.date.year ≤ lastYear) : IsCivil t.date t.shownClock 0 := by
  have hdate := CivilDate.isReal_ofDayNumber (t.seconds / 86400)
  have hnanos := t.nanos_lt
  refine ⟨hdate.month_pos, hdate.month_le, hdate.day_pos, hdate.day_le, ?_, ?_, ?_, ?_, hfirst,
    hlast, by decide⟩
  all_goals unfold shownClock; dsimp only; omega

/-- The text keeps the milliseconds of an instant. -/
theorem millis_shownClock (t : Instant) :
    civilSeconds t.date t.shownClock 0 * 1000 + (t.shownClock.nanosOfSecond / 1000000 : Nat)
      = t.millis := by
  have hday : t.date.dayNumber = t.seconds / 86400 :=
    CivilDate.dayNumber_ofDayNumber (t.seconds / 86400)
  have hnanos := t.nanos_lt
  unfold civilSeconds Clock.secondOfMinute Clock.nanosOfSecond millis
  rw [hday]
  unfold shownClock
  dsimp only
  split <;> omega

/-- The text of an instant whose year has four digits. -/
theorem toList_text {t : Instant} (hfirst : 0 ≤ t.date.year) (hlast : t.date.year ≤ 9999) :
    t.text.toList = padded 4 t.date.year.toNat ++ '-' :: (padded 2 t.date.month ++ '-' ::
      (padded 2 t.date.day ++ 'T' :: (padded 2 t.shownClock.hour ++ ':' ::
      (padded 2 t.shownClock.minute ++ ':' :: (padded 2 t.shownClock.second ++ '.' ::
      (padded 3 (t.nanos % 1000000000 / 1000000) ++ ['Z'])))))) := by
  unfold text textWith yearText date shownClock
  unfold date at hfirst hlast
  dsimp only
  rw [String.toList_ofList, if_pos ⟨hfirst, hlast⟩]
  simp only [List.append_assoc, List.cons_append, List.nil_append]

/-- The milliseconds of an instant are read back from its text if its year has four digits. -/
theorem ofText?_text {t : Instant} (hfirst : 0 ≤ t.date.year) (hlast : t.date.year ≤ 9999) :
    ∃ t', ofText? t.text = some t' ∧ t'.millis = t.millis := by
  have hcivil : IsCivil t.date t.shownClock 0 := by
    apply isCivil_shownClock
    · unfold firstYear
      omega
    · unfold lastYear
      omega
  have hyear : t.date.year.toNat < 10 ^ 4 := by omega
  have hmonth : t.date.month < 10 ^ 2 := Nat.lt_of_le_of_lt hcivil.2.1 (by decide)
  have hday : t.date.day < 10 ^ 2 :=
    Nat.lt_of_le_of_lt (Nat.le_trans hcivil.2.2.2.1 (daysInMonth_le _ _)) (by decide)
  have hhour : t.shownClock.hour < 10 ^ 2 := Nat.lt_trans hcivil.2.2.2.2.1 (by decide)
  have hminute : t.shownClock.minute < 10 ^ 2 := Nat.lt_trans hcivil.2.2.2.2.2.1 (by decide)
  have hsecond : t.shownClock.second < 10 ^ 2 :=
    Nat.lt_of_le_of_lt hcivil.2.2.2.2.2.2.1 (by decide)
  have hfraction := fraction?_padded (n := t.nanos % 1000000000 / 1000000) (by omega)
    (by decide : 'Z'.isDigit = false) []
  have hdate : (⟨(t.date.year.toNat : Int), t.date.month, t.date.day⟩ : CivilDate) = t.date := by
    rw [Int.toNat_of_nonneg hfirst]
  have hchar : ∀ c rest, char? c (c :: rest) = some rest := fun c rest => if_pos rfl
  have hseparator : ∀ rest, separator? ('T' :: rest) = some rest := fun rest => rfl
  have hoffset : offset? (char? ':') ['Z'] = some (0, []) := rfl
  refine ⟨⟨_, _, hcivil.seconds_le, hcivil.nanos_lt⟩, ?_, millis_shownClock t⟩
  unfold ofText?
  rw [toList_text hfirst hlast]
  -- each part is read from what the part before it has left
  refine Option.bind_eq_some_iff.mpr ⟨_, digits?_padded (by decide) hyear _, ?_⟩
  refine Option.bind_eq_some_iff.mpr ⟨_, hchar '-' _, ?_⟩
  refine Option.bind_eq_some_iff.mpr ⟨_, digits?_padded Nat.two_pos hmonth _, ?_⟩
  refine Option.bind_eq_some_iff.mpr ⟨_, hchar '-' _, ?_⟩
  refine Option.bind_eq_some_iff.mpr ⟨_, digits?_padded Nat.two_pos hday _, ?_⟩
  refine Option.bind_eq_some_iff.mpr ⟨_, hseparator _, ?_⟩
  refine Option.bind_eq_some_iff.mpr ⟨_, digits?_padded Nat.two_pos hhour _, ?_⟩
  refine Option.bind_eq_some_iff.mpr ⟨_, hchar ':' _, ?_⟩
  refine Option.bind_eq_some_iff.mpr ⟨_, digits?_padded Nat.two_pos hminute _, ?_⟩
  refine Option.bind_eq_some_iff.mpr ⟨_, hchar ':' _, ?_⟩
  refine Option.bind_eq_some_iff.mpr ⟨_, digits?_padded Nat.two_pos hsecond _, ?_⟩
  refine Option.bind_eq_some_iff.mpr ⟨_, hfraction, ?_⟩
  refine Option.bind_eq_some_iff.mpr ⟨_, hoffset, ?_⟩
  rw [hdate]
  exact (if_pos List.isEmpty_nil).trans (dif_pos hcivil)

/-- An instant whose year has not four digits is not read back. -/
theorem ofText?_text_eq_none {t : Instant} (h : ¬(0 ≤ t.date.year ∧ t.date.year ≤ 9999)) :
    ofText? t.text = none := by
  have hsign : ∀ c : Char, c.isDigit = false → ∀ rest, digits? 4 4 (c :: rest) = none := by
    intro c hc rest
    unfold digits?
    simp [hc]
  have hyear : (if t.date.year < 0 then '-' else '+').isDigit = false := by
    split <;> rfl
  unfold ofText? text textWith yearText
  unfold date at h hyear
  dsimp only
  rw [String.toList_ofList, if_neg h]
  simp only [List.cons_append, hsign _ hyear]
  rfl

/-! ## No blanks -/

theorem isSolid_text (t : Instant) : Text.IsSolid t.text.toList := by
  have hpadded : ∀ width n, Text.IsSolid (padded width n) := fun width n =>
    Text.isSolid_of_isDigit fun c hc => isDigit_of_mem_padded hc
  have hyear : ∀ year, Text.IsSolid (yearText year) := by
    intro year
    have hminus : Text.isBlank '-' = false := by decide
    have hplus : Text.isBlank '+' = false := by decide
    unfold yearText
    split
    · exact hpadded 4 _
    · split
      · exact Text.isSolid_cons.mpr ⟨hminus, hpadded 4 _⟩
      · exact Text.isSolid_cons.mpr ⟨hplus, hpadded 4 _⟩
  have hmarks : Text.IsSolid ['-', ':', 'T', '.', 'Z'] := by decide
  simp only [Text.isSolid_cons] at hmarks
  unfold text textWith
  dsimp only
  rw [String.toList_ofList]
  simp [hpadded, hyear, hmarks]

end ContentSearch.Time.Instant
