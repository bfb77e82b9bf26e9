import ContentSearch.Proofs.Index.Term
import ContentSearch.Proofs.Number.Binary64.Text
import ContentSearch.Proofs.Number.Decimal
import ContentSearch.Proofs.Time.Text
import ContentSearch.Query.Basic

/-!
# Reading displayed values back

A literal is written as the text of its value, in quotation marks, as a cast or bare. Cast back to
the type of the literal, the text gives a value with the term of the literal's value, but for two
kinds of values (`Literal.exists_cast_display_iff_of_typed`): instants outside the years 0 to 9999,
which are written with a sign that the reader of instants refuses, and NaNs other than the quiet
one, which are all written alike.
-/

namespace ContentSearch

open Number Time

/-! ## Ranks -/

namespace Term

theorem rank_lt (x : Binary64) : rank x < 2 ^ 64 := by
  have hmagnitude := Binary64.magnitude_lt x
  unfold rank
  split
  · decide
  · split <;> omega

/-- Words of 64 bits make different numbers. -/
theorem ofWord_inj {n m : Nat} (hn : n < 2 ^ 64) (hm : m < 2 ^ 64) :
    ofWord n = ofWord m ↔ n = m := by
  rw [ofWord, ofWord, String.ofList_inj]
  exact hexWord_inj hn hm

/-- Numbers of one rank are equal, but for the signs of zeros. -/
theorem eq_of_rank_eq {x y : Binary64} (hx : x.magnitude ≠ 0) (hy : y.magnitude ≠ 0)
    (h : rank x = rank y) : x = y := by
  have hxlt := x.magnitude_lt
  have hylt := y.magnitude_lt
  have hsign : x.isNegative = y.isNegative ∧ x.magnitude = y.magnitude := by
    unfold rank at h
    rw [if_neg hx, if_neg hy] at h
    split at h <;> split at h
    · simp_all
      omega
    · omega
    · omega
    · simp_all
  rw [← x.ofMagnitude_magnitude, ← y.ofMagnitude_magnitude, hsign.1, hsign.2]

/-- What is not a number is no zero. -/
theorem magnitude_ne_zero_of_isNaN {x : Binary64} (h : x.isNaN = true) : x.magnitude ≠ 0 := by
  intro hzero
  have hexponent : x.exponent = 0 := by rw [Binary64.exponent, hzero]
  rw [Binary64.isNaN, hexponent] at h
  cases h

/-- The NaNs have terms of their own. -/
theorem ofDouble_nan_eq_iff {x : Binary64} (h : x.isNaN = true) :
    ofDouble Binary64.nan = ofDouble x ↔ x = Binary64.nan := by
  have hnan : Binary64.nan.isNaN = true := by decide
  rw [ofDouble, ofDouble, ofWord_inj (rank_lt _) (rank_lt _)]
  constructor
  · intro hrank
    exact (eq_of_rank_eq (magnitude_ne_zero_of_isNaN hnan) (magnitude_ne_zero_of_isNaN h)
      hrank).symm
  · rintro rfl
    rfl

end Term

/-! ## Values by type -/

namespace Value

/-- What the text of a value keeps: the instants of years with four digits, and no NaN but the
quiet one. -/
def IsKept : Value → Prop
  | .date t => 0 ≤ t.date.year ∧ t.date.year ≤ 9999
  | .double x => x.isNaN = true → x = Binary64.nan
  | .text _ _ | .binary _ | .long _ | .decimal _ | .boolean _ => True

instance : ∀ v : Value, Decidable v.IsKept
  | .date _ => inferInstanceAs (Decidable (_ ∧ _))
  | .double _ => inferInstanceAs (Decidable (_ → _))
  | .text _ _ | .binary _ | .long _ | .decimal _ | .boolean _ => .isTrue trivial

/-- The text of an integer is read back. -/
theorem long?_longText (n : Int64) : long? (longText n) = some n := by
  have htext : (longText n).toList
      = (if n.toInt < 0 then ['-'] else []) ++ Nat.toDigits 10 n.toInt.natAbs := by
    unfold longText
    split
    · rw [String.toList_append, Nat.toList_repr]
      rfl
    · exact Nat.toList_repr
  rw [long?, htext, integer?_signed, Option.bind_some, int64?_toInt]

/-- The text of an integer has no blanks around it, so that trimming keeps it. -/
theorem isSolid_longText (n : Int64) : Text.IsSolid (longText n).toList := by
  have hdigits : Text.IsSolid (Nat.toDigits 10 n.toInt.natAbs) :=
    Text.isSolid_of_isDigit fun c hc => Nat.isDigit_of_mem_toDigits (by decide) (by decide) hc
  have hminus : Text.IsSolid "-".toList := by decide
  unfold longText
  split
  · rw [String.toList_append, Nat.toList_repr]
    exact Text.isSolid_append.mpr ⟨hminus, hdigits⟩
  · rw [Nat.toList_repr]
    exact hdigits

/-- A text is cast to its counterpart in another type, if there is one. -/
theorem cast_string_eq_ok_iff {s : String} {w : Value} {target : PropertyType}
    (h : target ≠ .string) :
    (string s).cast target = .ok w ↔ (string s).castTo? target = some w := by
  rw [cast, if_neg fun htype => h htype.symm]
  cases (string s).castTo? target <;> simp

/-- A text is shown as it is. -/
theorem cast_display_text (kind : TextKind) (s : String) :
    (string (Value.text kind s).display).cast (.text kind) = .ok (.text kind s) := by
  cases kind <;> rfl

theorem cast_display_long (n : Int64) :
    (string (Value.long n).display).cast .long = .ok (.long n) := by
  have hread : long? (Text.trim (longText n)) = some n := by
    rw [Text.trim_of_isSolid (isSolid_longText n), long?_longText]
  rw [cast_string_eq_ok_iff (by decide), castTo?, toLong?, display, hread, Option.map_some]

/-- Doubles are read back from what they are shown as, but for the bits of what is not a number. -/
theorem cast_display_double (x : Binary64) :
    (string (Value.double x).display).cast .double
      = .ok (.double (if x.isNaN then Binary64.nan else x)) := by
  have hread : Binary64.ofText? (Text.trim x.text)
      = some (if x.isNaN then Binary64.nan else x) := by
    rw [Text.trim_of_isSolid x.isSolid_text]
    split
    · rename_i hnan
      exact Binary64.ofText?_text_of_isNaN hnan
    · rename_i hnumber
      exact Binary64.ofText?_text (Bool.not_eq_true _ ▸ hnumber)
  rw [cast_string_eq_ok_iff (by decide), castTo?, toDouble?, display, hread, Option.map_some]

theorem cast_display_decimal (d : Decimal) :
    (string (Value.decimal d).display).cast .decimal = .ok (.decimal d) := by
  have hread : Decimal.ofText? (Text.trim d.text) = some d := by
    rw [Text.trim_of_isSolid d.isSolid_text, Decimal.ofText?_text]
  rw [cast_string_eq_ok_iff (by decide), castTo?, toDecimal?, display, hread, Option.map_some]

/-- A date is cast back as far as its text is read as one. -/
theorem cast_display_date {t : Instant} {w : Value} :
    (string (Value.date t).display).cast .date = .ok w
      ↔ ∃ t', Instant.ofText? t.text = some t' ∧ .date t' = w := by
  rw [cast_string_eq_ok_iff (by decide), castTo?, toDate?, display,
    Text.trim_of_isSolid t.isSolid_text, Option.map_eq_some_iff]

theorem cast_display_boolean (b : Bool) :
    (string (Value.boolean b).display).cast .boolean = .ok (.boolean b) := by
  cases b <;> rfl

/-- The text of a value, cast back to its type, gives a value of the same term exactly if the text
keeps the value. -/
theorem exists_cast_display_iff {v : Value} (h : v.type ≠ .binary) :
    (∃ w, (string v.display).cast v.type = .ok w ∧ Term.ofValue w = Term.ofValue v) ↔ v.IsKept := by
  cases v with
  | text kind s => exact iff_of_true ⟨_, cast_display_text kind s, rfl⟩ trivial
  | binary bytes => exact absurd rfl h
  | long n => exact iff_of_true ⟨_, cast_display_long n, rfl⟩ trivial
  | double x =>
    show (∃ w, (string (Value.double x).display).cast .double = _ ∧ _) ↔ (_ → _)
    rw [cast_display_double]
    by_cases hnan : x.isNaN = true
    · simp [hnan, Term.ofValue, Term.ofDouble_nan_eq_iff]
    · simp [hnan]
  | decimal d => exact iff_of_true ⟨_, cast_display_decimal d, rfl⟩ trivial
  | date t =>
    constructor
    · rintro ⟨w, hcast, -⟩
      by_contra hyear
      obtain ⟨t', hread, -⟩ := cast_display_date.mp hcast
      rw [Instant.ofText?_text_eq_none hyear] at hread
      cases hread
    · rintro ⟨hfirst, hlast⟩
      obtain ⟨t', hread, hmillis⟩ := Instant.ofText?_text hfirst hlast
      refine ⟨.date t', cast_display_date.mpr ⟨t', hread, rfl⟩, ?_⟩
      rw [Term.ofValue, Term.ofValue, hmillis]
  | boolean b => exact iff_of_true ⟨_, cast_display_boolean b, rfl⟩ trivial

end Value

/-! ## Literals -/

namespace Literal

/-- The value of a typed literal has the type. -/
theorem type_of_typed {v : Value} {type : PropertyType} {literal : Literal}
    (h : typed v type = .ok literal) : literal.value.type = type := by
  unfold typed at h
  cases hcast : v.cast type with
  | error e =>
    rw [hcast] at h
    cases h
  | ok w =>
    rw [hcast] at h
    cases h
    exact Value.type_cast hcast

/-- A literal is read back from the displayed text of its value, as a value of the same term,
exactly if the text keeps the value. -/
theorem exists_cast_display_iff_of_typed {v : Value} {type : PropertyType} {literal : Literal}
    (htype : type ≠ .binary) (h : typed v type = .ok literal) :
    (∃ w, (Value.string literal.value.display).cast type = .ok w
        ∧ Term.ofValue w = Term.ofValue literal.value)
      ↔ literal.value.IsKept := by
  obtain rfl := type_of_typed h
  exact Value.exists_cast_display_iff htype

/-- The leap day of the year 2000, made from its milliseconds, is read back. -/
theorem exists_cast_display_leapDay :
    ∃ literal : Literal, typed (.long 951782400123) .date = .ok literal
      ∧ ∃ w, (Value.string literal.value.display).cast .date = .ok w
        ∧ Term.ofValue w = Term.ofValue literal.value := by
  have htyped : typed (.long 951782400123) .date
      = .ok ⟨.date ⟨951782400, 123000000, by decide, by decide⟩, .date⟩ := by rfl
  exact ⟨_, htyped, (exists_cast_display_iff_of_typed (by decide) htyped).mpr (by decide)⟩

/-- The first instant of the year 10000, made from its milliseconds, is not read back. -/
theorem not_exists_cast_display_year10000 :
    ¬∀ (v : Value) (type : PropertyType) (literal : Literal), type ≠ .binary →
      typed v type = .ok literal →
      ∃ w, (Value.string literal.value.display).cast type = .ok w
        ∧ Term.ofValue w = Term.ofValue literal.value := by
  have htyped : typed (.long 253402300800000) .date
      = .ok ⟨.date ⟨253402300800, 0, by decide, by decide⟩, .date⟩ := by rfl
  intro h
  have hread := h _ _ _ (by decide) htyped
  exact absurd ((Value.exists_cast_display_iff (by decide)).mp hread) (by decide)

end Literal

end ContentSearch
