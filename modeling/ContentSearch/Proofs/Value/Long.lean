import ContentSearch.Proofs.Number.Binary64.Value
import ContentSearch.Proofs.Number.Decimal.Value
import ContentSearch.Proofs.Value.Display

/-!
# Casts from and to integers

A 64-bit integer is cast to text, decimals and instants so that it can be cast back. Cast to a
double it is rounded, and comes back exactly if the double has room for it, which is when at most 53
bits are left without the zeros at the end. The other way, a double or a decimal is cast to an
integer exactly if its value is one in the range of 64 bits, and this value is the result.
-/

namespace ContentSearch

open Number Time

/-! ## Ranges -/

namespace Number

/-- An integer in range is the value of one 64-bit integer. -/
theorem int64?_eq_some_iff {n : Int} {m : Int64} : int64? n = some m ↔ n = m.toInt := by
  constructor
  · intro h
    exact (toInt_of_int64? h).symm
  · intro h
    rw [h, int64?_toInt]

end Number

theorem Time.Instant.millis_of_ofMillis? {n : Int} {t : Instant}
    (h : Instant.ofMillis? n = some t) :
    t.millis = n := by
  unfold Instant.ofMillis? at h
  split at h
  · rw [← Option.some.inj h]
    show n / 1000 * 1000 + ((n % 1000).toNat * 1000000 / 1000000 : Nat) = n
    omega
  · cases h

namespace Value

/-! ## Casts from integers -/

variable {n : Int64} {w : Value}

theorem natAbs_toInt_lt (n : Int64) : n.toInt.natAbs < 2 ^ 200 := by
  have hlow := n.le_toInt
  have hhigh := n.toInt_lt
  have hroom : (2 : Nat) ^ 64 ≤ 2 ^ 200 := Nat.pow_le_pow_right (by decide) (by decide)
  omega

/-- A value of another type is cast to its counterpart, if there is one. -/
theorem cast_eq_ok_iff {v : Value} {target : PropertyType} (h : v.type ≠ target) :
    v.cast target = .ok w ↔ v.castTo? target = some w := by
  rw [cast, if_neg h]
  cases v.castTo? target with
  | none => simp
  | some u => simp

/-- The types that an integer can be cast to, with what it is cast to. -/
inductive IsCastOfLong (n : Int64) : PropertyType → Value → Prop
  | string : IsCastOfLong n .string (.string (longText n))
  | long : IsCastOfLong n .long (.long n)
  | double : IsCastOfLong n .double (.double (Binary64.ofInt n.toInt))
  | decimal : IsCastOfLong n .decimal (.decimal (Decimal.ofLong n))
  | date {t : Instant} (ht : Instant.ofMillis? n.toInt = some t) : IsCastOfLong n .date (.date t)

theorem isCastOfLong_of_cast {target : PropertyType} (h : (long n).cast target = .ok w) :
    IsCastOfLong n target w := by
  by_cases htype : target = .long
  · subst htype
    obtain rfl := Except.ok.inj h
    exact .long
  · rw [cast_eq_ok_iff fun hsame => htype hsame.symm] at h
    cases target with
    | text kind =>
      cases kind with
      | string =>
        obtain rfl := Option.some.inj h
        exact .string
      | _ => cases h
    | long => exact absurd rfl htype
    | double =>
      obtain rfl := Option.some.inj h
      exact .double
    | decimal =>
      obtain rfl := Option.some.inj h
      exact .decimal
    | date =>
      obtain ⟨t, ht, rfl⟩ := Option.map_eq_some_iff.mp h
      exact .date ht
    | binary | boolean => cases h

/-! ## Casts to integers -/

/-- A double is cast to the integer that is its value. -/
theorem cast_double_long_iff {x : Binary64} :
    (double x).cast .long = .ok w
      ↔ ∃ n : Int64, w = .long n ∧ x.isFinite = true ∧ x.value = n.toInt := by
  rw [cast_eq_ok_iff (by simp [type])]
  show (x.toInt?.bind int64?).map Value.long = some w ↔ _
  rw [Option.map_eq_some_iff]
  simp only [Option.bind_eq_some_iff, int64?_eq_some_iff, Binary64.toInt?_eq_some_iff]
  constructor
  · intro ⟨n, ⟨k, hvalue, hk⟩, hw⟩
    subst hk
    exact ⟨n, hw.symm, hvalue⟩
  · intro ⟨n, hw, hvalue⟩
    exact ⟨n, ⟨n.toInt, hvalue, rfl⟩, hw.symm⟩

/-- A decimal is cast to the integer that is its value. -/
theorem cast_decimal_long_iff {d : Decimal} :
    (decimal d).cast .long = .ok w ↔ ∃ n : Int64, w = .long n ∧ d.value = n.toInt := by
  rw [cast_eq_ok_iff (by simp [type])]
  show (d.toInt?.bind int64?).map Value.long = some w ↔ _
  rw [Option.map_eq_some_iff]
  simp only [Option.bind_eq_some_iff, int64?_eq_some_iff, Decimal.toInt?_eq_some_iff]
  constructor
  · intro ⟨n, ⟨k, hvalue, hk⟩, hw⟩
    subst hk
    exact ⟨n, hw.symm, hvalue⟩
  · intro ⟨n, hw, hvalue⟩
    exact ⟨n, ⟨n.toInt, hvalue, rfl⟩, hw.symm⟩

/-! ## There and back -/

/-- The double of an integer is cast back to the integer exactly if there is room for it. -/
theorem cast_back_of_double :
    (double (Binary64.ofInt n.toInt)).cast .long = .ok (long n)
      ↔ Binary64.FitsSignificand n.toInt.natAbs := by
  -- the double is cast back to whichever integer is its value, which need not be the one before
  rw [cast_double_long_iff, ← Binary64.toInt?_ofInt_iff (natAbs_toInt_lt n),
    Binary64.toInt?_eq_some_iff]
  constructor
  · intro ⟨m, hm, hvalue⟩
    obtain rfl := Value.long.inj hm
    exact hvalue
  · intro hvalue
    exact ⟨n, rfl, hvalue⟩

/-- An integer that is cast to another type is cast back to the same integer, unless it is cast to a
double that has no room for it. -/
theorem IsCastOfLong.cast_back {target : PropertyType} (h : IsCastOfLong n target w) :
    w.cast .long = .ok (Value.long n)
      ↔ (target = .double → Binary64.FitsSignificand n.toInt.natAbs) := by
  cases h with
  | string => exact iff_of_true (cast_display_long n) (fun hdouble => by cases hdouble)
  | long => exact iff_of_true (cast_self (Value.long n)) (fun hdouble => by cases hdouble)
  | double =>
    rw [cast_back_of_double]
    constructor
    · intro hfits _
      exact hfits
    · intro hfits
      exact hfits rfl
  | decimal =>
    refine iff_of_true ?_ (fun hdouble => by cases hdouble)
    refine cast_decimal_long_iff.mpr ⟨n, rfl, ?_⟩
    rw [Decimal.value_eq_intCast_iff]
    exact (Int.mul_one _).symm
  | @date t ht =>
    refine iff_of_true ?_ (fun hdouble => by cases hdouble)
    have hread : int64? t.millis = some n := by
      rw [Time.Instant.millis_of_ofMillis? ht, int64?_toInt]
    rw [cast_eq_ok_iff (by simp [type])]
    show (int64? t.millis).map Value.long = some (Value.long n)
    rw [hread, Option.map_some]

/-- Casts from and to integers. What an integer is cast to is cast back to the same integer, but for
the doubles of integers with more than 53 bits before the zeros at their end. A double or a decimal
is cast to an integer exactly if its value is one in the range of 64 bits, and then to this value.
-/
theorem cast_long_exact (n : Int64) (target : PropertyType) (x : Binary64) (d : Decimal)
    (w : Value) :
    ((long n).cast target = .ok w →
        (w.cast .long = .ok (long n)
          ↔ (target = .double → Binary64.FitsSignificand n.toInt.natAbs)))
      ∧ ((double x).cast .long = .ok w
        ↔ ∃ n : Int64, w = .long n ∧ x.isFinite = true ∧ x.value = n.toInt)
      ∧ ((decimal d).cast .long = .ok w ↔ ∃ n : Int64, w = .long n ∧ d.value = n.toInt) := by
  refine ⟨?_, cast_double_long_iff, cast_decimal_long_iff⟩
  intro h
  exact (isCastOfLong_of_cast h).cast_back

/-- Twice a number of 53 bits comes back, and a double and a decimal with zeros behind its point are
cast to their values. -/
theorem cast_long_exact_evenLong :
    (∃ w, (long 9007199254740994).cast .double = .ok w
        ∧ w.cast .long = .ok (long 9007199254740994))
      ∧ Binary64.value ⟨0xc008000000000000⟩ = ((-3 : Int64).toInt : ℚ)
      ∧ Decimal.value ⟨1200, 2, by decide, by decide⟩ = ((12 : Int64).toInt : ℚ) := by
  have hexact := cast_long_exact 9007199254740994 .double ⟨0xc008000000000000⟩
    ⟨1200, 2, by decide, by decide⟩
  have hfits : Binary64.FitsSignificand (9007199254740994 : Int64).toInt.natAbs :=
    ⟨4503599627370497, 1, by decide +kernel, by decide⟩
  have hthree : (double ⟨0xc008000000000000⟩).cast .long = .ok (long (-3)) := by decide +kernel
  have htwelve : (decimal ⟨1200, 2, by decide, by decide⟩).cast .long = .ok (long 12) := by
    decide +kernel
  refine ⟨⟨_, rfl, ((hexact _).1 rfl).mpr fun _ => hfits⟩, ?_, ?_⟩
  · obtain ⟨n, hn, -, hvalue⟩ := (hexact _).2.1.mp hthree
    rwa [← Value.long.inj hn] at hvalue
  · obtain ⟨n, hn, hvalue⟩ := (hexact _).2.2.mp htwelve
    rwa [← Value.long.inj hn] at hvalue

/-- The first integer that a double has no room for does not come back. -/
theorem not_cast_long_back :
    ¬∀ (n : Int64) (target : PropertyType) (w : Value), (long n).cast target = .ok w →
      w.cast .long = .ok (long n) := by
  intro h
  have hback := h 9007199254740993 .double _ rfl
  exact absurd hback (by decide +kernel)

end Value

end ContentSearch
