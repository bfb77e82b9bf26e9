import ContentSearch.Number.Integer
import ContentSearch.Text.Blank

/-!
# Instants

A point in time in the proleptic Gregorian calendar and UTC, to the nanosecond. A leap second is
kept apart from the second after it: it is the second before it with a billion nanoseconds or
more. Instants are read from and written as RFC 3339 text. They lie within some 280000 years of
1970, so that their milliseconds fit into 64 bits.
-/

namespace ContentSearch.Time

/-! ## The calendar -/

/-- A day of the Gregorian calendar. -/
structure CivilDate where
  year : Int
  month : Nat
  day : Nat
  deriving DecidableEq

/-- Every fourth year, but of the centuries only every fourth. -/
def isLeapYear (year : Int) : Bool :=
  year % 4 == 0 && (year % 100 != 0 || year % 400 == 0)

/-- The length of a month. -/
def daysInMonth (year : Int) (month : Nat) : Nat :=
  if month = 2 then (if isLeapYear year then 29 else 28)
  else if month = 4 ∨ month = 6 ∨ month = 9 ∨ month = 11 then 30
  else 31

/-- The days from 1 January 1970 to a date. Years are counted from March, so that the leap day is
the last of its year. -/
def CivilDate.dayNumber (d : CivilDate) : Int :=
  let year := if d.month ≤ 2 then d.year - 1 else d.year
  let era := year / 400
  let yearOfEra := year % 400
  let monthFromMarch : Nat := (d.month + 9) % 12
  let dayOfYear : Int := ((153 * monthFromMarch + 2) / 5 + d.day - 1 : Nat)
  let dayOfEra := yearOfEra * 365 + yearOfEra / 4 - yearOfEra / 100 + dayOfYear
  era * 146097 + dayOfEra - 719468

/-- The date that lies this many days after 1 January 1970. -/
def CivilDate.ofDayNumber (days : Int) : CivilDate :=
  let shifted := days + 719468
  let era := shifted / 146097
  let dayOfEra := shifted % 146097
  let yearOfEra :=
    (dayOfEra - dayOfEra / 1460 + dayOfEra / 36524 - dayOfEra / 146096) / 365
  let dayOfYear := (dayOfEra - (365 * yearOfEra + yearOfEra / 4 - yearOfEra / 100)).toNat
  let monthFromMarch := (5 * dayOfYear + 2) / 153
  let month := if monthFromMarch < 10 then monthFromMarch + 3 else monthFromMarch - 9
  let year := yearOfEra + era * 400
  { year := if month ≤ 2 then year + 1 else year
    month
    day := dayOfYear - (153 * monthFromMarch + 2) / 5 + 1 }

/-! ## Instants -/

/-- Seconds since 1 January 1970 in UTC and nanoseconds, from a billion on in a leap second. -/
structure Instant where
  seconds : Int
  nanos : Nat
  seconds_le : seconds.natAbs ≤ 9000000000000
  nanos_lt : nanos < 2000000000
  deriving DecidableEq

namespace Instant

/-- Milliseconds since 1 January 1970, with the rest cut off. -/
def millis (t : Instant) : Int :=
  t.seconds * 1000 + (t.nanos / 1000000 : Nat)

/-- The first year that an instant made of milliseconds can lie in. -/
def firstYear : Int := -262143

/-- The last year that an instant made of milliseconds can lie in. -/
def lastYear : Int := 262142

/-- Days in a year of the range are days near enough to 1970. -/
theorem natAbs_seconds_le_of_year {seconds : Int}
    (h : firstYear ≤ (CivilDate.ofDayNumber (seconds / 86400)).year
      ∧ (CivilDate.ofDayNumber (seconds / 86400)).year ≤ lastYear) :
    seconds.natAbs ≤ 9000000000000 := by
  simp only [CivilDate.ofDayNumber, firstYear, lastYear] at h
  omega

/-- The instant at this many milliseconds, if its year is in range. -/
def ofMillis? (millis : Int) : Option Instant :=
  if h : firstYear ≤ (CivilDate.ofDayNumber (millis / 1000 / 86400)).year
      ∧ (CivilDate.ofDayNumber (millis / 1000 / 86400)).year ≤ lastYear then
    some
      { seconds := millis / 1000
        nanos := (millis % 1000).toNat * 1000000
        seconds_le := natAbs_seconds_le_of_year h
        nanos_lt := by omega }
  else none

/-! ## Text -/

/-- A number with zeros in front up to the given width. -/
def padded (width n : Nat) : List Char :=
  let digits := Nat.toDigits 10 n
  List.replicate (width - digits.length) '0' ++ digits

/-- Four digits, and a sign for years of more digits or before the year zero. -/
def yearText (year : Int) : List Char :=
  if 0 ≤ year ∧ year ≤ 9999 then padded 4 year.toNat
  else (if year < 0 then '-' else '+') :: padded 4 year.natAbs

/-- Date and time with the given fraction, in UTC. -/
def textWith (t : Instant) (fraction : List Char) : String :=
  let date := CivilDate.ofDayNumber (t.seconds / 86400)
  let time := (t.seconds % 86400).toNat
  let second := time % 60 + t.nanos / 1000000000
  String.ofList <|
    yearText date.year ++ ['-'] ++ padded 2 date.month ++ ['-'] ++ padded 2 date.day ++ ['T']
      ++ padded 2 (time / 3600) ++ [':'] ++ padded 2 (time / 60 % 60) ++ [':'] ++ padded 2 second
      ++ fraction ++ ['Z']

/-- Text with milliseconds, the rest cut off. -/
def text (t : Instant) : String :=
  t.textWith ('.' :: padded 3 (t.nanos % 1000000000 / 1000000))

/-- Text with no, three, six or nine digits of fraction, as few as keep the value. -/
def exactText (t : Instant) : String :=
  let nanos := t.nanos % 1000000000
  t.textWith <|
    if nanos = 0 then []
    else if nanos % 1000000 = 0 then '.' :: padded 3 (nanos / 1000000)
    else if nanos % 1000 = 0 then '.' :: padded 6 (nanos / 1000)
    else '.' :: padded 9 nanos

/-! ## Reading -/

/-- Reads `least` to `most` digits from the front. -/
def digits? (least most : Nat) (cs : List Char) : Option (Nat × List Char) :=
  let run := (cs.take most).takeWhile Char.isDigit
  if least ≤ run.length ∧ run ≠ [] then
    some (Nat.ofDigitChars 10 run 0, cs.drop run.length)
  else none

/-- Takes a character from the front. -/
def char? (c : Char) : List Char → Option (List Char)
  | d :: rest => if d = c then some rest else none
  | [] => none

/-- Date and time may be separated by a letter or a space. -/
def separator? : List Char → Option (List Char)
  | c :: rest => if c = 'T' ∨ c = 't' ∨ c = ' ' then some rest else none
  | [] => none

/-- An optional fraction of a second in nanoseconds; digits after the ninth are dropped. -/
def fraction? : List Char → Option (Nat × List Char)
  | '.' :: rest =>
    let run := rest.takeWhile Char.isDigit
    if run.isEmpty then none
    else
      let kept := run.take 9
      some (Nat.ofDigitChars 10 kept 0 * Nat.pow 10 (9 - kept.length), rest.drop run.length)
  | cs => some (0, cs)

/-- The sign of an offset: plus, hyphen or minus. -/
def offsetSign? : List Char → Option (Int × List Char)
  | '+' :: rest => some (1, rest)
  | '-' :: rest => some (-1, rest)
  | '−' :: rest => some (-1, rest)
  | _ => none

/-- An offset from UTC in seconds; `between` passes over what separates hours and minutes. -/
def offset? (between : List Char → Option (List Char)) : List Char → Option (Int × List Char)
  | [] => none
  | c :: rest =>
    if c = 'Z' ∨ c = 'z' then some (0, rest)
    else do
      let (sign, cs) ← offsetSign? (c :: rest)
      let (hours, cs) ← digits? 2 2 cs
      let cs ← between cs
      let (minutes, cs) ← digits? 2 2 cs
      if minutes < 60 then some (sign * ((hours * 60 + minutes) * 60 : Nat), cs) else none

/-- The clock reading of a day. -/
structure Clock where
  hour : Nat
  minute : Nat
  second : Nat
  nanos : Nat

/-- What a date, a clock reading and an offset must be to name an instant. Second 60 is a leap
second, in any minute. -/
def IsCivil (date : CivilDate) (clock : Clock) (offset : Int) : Prop :=
  1 ≤ date.month ∧ date.month ≤ 12 ∧ 1 ≤ date.day
    ∧ date.day ≤ daysInMonth date.year date.month
    ∧ clock.hour < 24 ∧ clock.minute < 60 ∧ clock.second ≤ 60 ∧ clock.nanos < 1000000000
    ∧ firstYear ≤ date.year ∧ date.year ≤ lastYear
    ∧ offset.natAbs < 86400

instance (date : CivilDate) (clock : Clock) (offset : Int) :
    Decidable (IsCivil date clock offset) :=
  inferInstanceAs (Decidable (_ ∧ _))

/-- A leap second counts as the second before it. -/
def Clock.secondOfMinute (clock : Clock) : Nat :=
  if clock.second = 60 then 59 else clock.second

/-- The nanoseconds of a clock reading, with a billion more in a leap second. -/
def Clock.nanosOfSecond (clock : Clock) : Nat :=
  clock.nanos + if clock.second = 60 then 1000000000 else 0

/-- The seconds from 1 January 1970 to a date and time at an offset. -/
def civilSeconds (date : CivilDate) (clock : Clock) (offset : Int) : Int :=
  date.dayNumber * 86400
    + (clock.hour * 3600 + clock.minute * 60 + clock.secondOfMinute : Nat) - offset

theorem natAbs_dayNumber_le {date : CivilDate} (hday : date.day ≤ 31)
    (hfirst : firstYear ≤ date.year) (hlast : date.year ≤ lastYear) :
    date.dayNumber.natAbs ≤ 100000000 := by
  have hmonth : (date.month + 9) % 12 ≤ 11 := by omega
  simp only [firstYear, lastYear] at hfirst hlast
  simp only [CivilDate.dayNumber]
  omega

theorem daysInMonth_le (year : Int) (month : Nat) : daysInMonth year month ≤ 31 := by
  unfold daysInMonth
  split
  · split <;> decide
  · split <;> decide

theorem IsCivil.seconds_le {date : CivilDate} {clock : Clock} {offset : Int}
    (h : IsCivil date clock offset) : (civilSeconds date clock offset).natAbs ≤ 9000000000000 := by
  obtain ⟨-, -, -, hday, hhour, hminute, hsecond, -, hfirst, hlast, hoffset⟩ := h
  have hnumber := natAbs_dayNumber_le (Nat.le_trans hday (daysInMonth_le _ _)) hfirst hlast
  have hclock : clock.secondOfMinute ≤ 60 := by
    unfold Clock.secondOfMinute
    split
    · decide
    · exact hsecond
  unfold civilSeconds
  omega

theorem IsCivil.nanos_lt {date : CivilDate} {clock : Clock} {offset : Int}
    (h : IsCivil date clock offset) : clock.nanosOfSecond < 2000000000 := by
  have hnanos := h.2.2.2.2.2.2.2.1
  unfold Clock.nanosOfSecond
  split <;> omega

/-- The instant of a date and time at an offset. -/
def ofCivil? (date : CivilDate) (clock : Clock) (offset : Int) : Option Instant :=
  if h : IsCivil date clock offset then
    some ⟨civilSeconds date clock offset, clock.nanosOfSecond, h.seconds_le, h.nanos_lt⟩
  else none

/-- An instant in RFC 3339 text. -/
def ofText? (s : String) : Option Instant := do
  let (year, cs) ← digits? 4 4 s.toList
  let cs ← char? '-' cs
  let (month, cs) ← digits? 2 2 cs
  let cs ← char? '-' cs
  let (day, cs) ← digits? 2 2 cs
  let cs ← separator? cs
  let (hour, cs) ← digits? 2 2 cs
  let cs ← char? ':' cs
  let (minute, cs) ← digits? 2 2 cs
  let cs ← char? ':' cs
  let (second, cs) ← digits? 2 2 cs
  let (nanos, cs) ← fraction? cs
  let (offset, cs) ← offset? (char? ':') cs
  if cs.isEmpty then ofCivil? ⟨year, month, day⟩ ⟨hour, minute, second, nanos⟩ offset else none

/-! ## Lenient reading -/

/-- Drops leading blanks. -/
def skipBlanks (cs : List Char) : List Char :=
  cs.dropWhile Text.isBlank

/-- One or two digits after blanks. -/
def field? (cs : List Char) : Option (Nat × List Char) :=
  digits? 1 2 (skipBlanks cs)

/-- Up to four digits, or any number of digits after a sign. -/
def year? (cs : List Char) : Option (Int × List Char) :=
  match skipBlanks cs with
  | '-' :: rest => (digits? 1 rest.length rest).map fun (n, cs) => (-(n : Int), cs)
  | '+' :: rest => (digits? 1 rest.length rest).map fun (n, cs) => ((n : Int), cs)
  | rest => (digits? 1 4 rest).map fun (n, cs) => ((n : Int), cs)

/-- `UTC` in any case, or an offset whose hours and minutes may be separated by colons and
blanks. -/
def zone? (cs : List Char) : Option (Int × List Char) :=
  if (cs.take 3).map Char.toLower = ['u', 't', 'c'] then some (0, cs.drop 3)
  else offset? (fun cs => some (cs.dropWhile fun c => c == ':' || Text.isBlank c)) cs

/-- An instant in text like RFC 3339 with shorter fields, signed years and blanks between the
parts: the form accepted in documents. -/
def ofLenientText? (s : String) : Option Instant := do
  let (year, cs) ← year? s.toList
  let cs ← char? '-' (skipBlanks cs)
  let (month, cs) ← field? cs
  let cs ← char? '-' (skipBlanks cs)
  let (day, cs) ← field? cs
  let cs ← separator? cs
  let (hour, cs) ← field? cs
  let cs ← char? ':' (skipBlanks cs)
  let (minute, cs) ← field? cs
  let cs ← char? ':' (skipBlanks cs)
  let (second, cs) ← field? cs
  let (nanos, cs) ← fraction? cs
  let (offset, cs) ← zone? (skipBlanks cs)
  if (skipBlanks cs).isEmpty then
    ofCivil? ⟨year, month, day⟩ ⟨hour, minute, second, nanos⟩ offset
  else none

end Instant

end ContentSearch.Time
