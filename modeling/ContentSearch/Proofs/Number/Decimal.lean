import ContentSearch.Number.Decimal
import ContentSearch.Proofs.Number.Digits
import ContentSearch.Proofs.Text.Blank

/-!
# Reading decimals back

The text of a decimal has all digits of its scale, so that it is read back with its scale and not
just as its number (`Decimal.read?_text`). All that is read on the way fits into the units, since
more digits never make a number smaller.
-/

namespace ContentSearch.Number

namespace Decimal

variable {excess : Excess}

theorem readFrom_cons (r : Reading) (c : Char) (rest : List Char) :
    readFrom excess r (c :: rest)
      = if c = '_' ∧ r.seenDigit ∧ r.scale < 28 then readFrom excess r rest
        else if c = '.' ∧ !r.seenPoint then readFrom excess { r with seenPoint := true } rest
        else if c.isDigit ∧ r.scale < 28 ∧
            r.units * 10 + (c.toNat - 0x30) < 0x1000000000000000000000000 then
          readFrom excess
            { r with
              units := r.units * 10 + (c.toNat - 0x30)
              scale := if r.seenPoint then r.scale + 1 else 0
              seenDigit := true } rest
        else match excess with
          | .round => if r.seenPoint then roundOff r c else none
          | .refuse => none := by
  rfl

/-- A digit that fits is taken in. -/
theorem readFrom_digit {units scale : Nat} {c : Char} (hc : c.isDigit = true) (hscale : scale < 28)
    (hunits : units * 10 + (c.toNat - 0x30) < 0x1000000000000000000000000)
    (seenPoint seenDigit : Bool) (rest : List Char) :
    readFrom excess ⟨units, scale, seenPoint, seenDigit⟩ (c :: rest)
      = readFrom excess
        ⟨units * 10 + (c.toNat - 0x30), if seenPoint then scale + 1 else 0, seenPoint, true⟩
        rest := by
  rw [readFrom_cons, if_neg fun h => ne_of_isDigit hc rfl h.1,
    if_neg fun h => ne_of_isDigit hc rfl h.1, if_pos ⟨hc, hscale, hunits⟩]

/-- Digits that fit are taken in, one after the other. Before the point they leave the scale at
zero, and behind it each of them adds to the scale. -/
theorem readFrom_digits {digits : List Char} (hdigits : ∀ c ∈ digits, c.isDigit = true)
    {units scale : Nat} {seenPoint seenDigit : Bool}
    (hscale : if seenPoint then scale + digits.length ≤ 28 else scale = 0)
    (hunits : Nat.ofDigitChars 10 digits units < 0x1000000000000000000000000) (rest : List Char) :
    readFrom excess ⟨units, scale, seenPoint, seenDigit⟩ (digits ++ rest)
      = readFrom excess
        ⟨Nat.ofDigitChars 10 digits units, if seenPoint then scale + digits.length else 0,
          seenPoint, seenDigit || !digits.isEmpty⟩ rest := by
  induction digits generalizing units scale seenDigit with
  | nil => cases seenPoint <;> simp_all
  | cons c digits ih =>
    rw [List.forall_mem_cons] at hdigits
    have hstep : Nat.ofDigitChars 10 (c :: digits) units
        = Nat.ofDigitChars 10 digits (units * 10 + (c.toNat - 0x30)) := by
      rw [Nat.ofDigitChars_cons, Nat.mul_comm 10 units]
      rfl
    rw [hstep] at hunits ⊢
    have hnext : units * 10 + (c.toNat - 0x30) < 0x1000000000000000000000000 :=
      Nat.lt_of_le_of_lt (le_ofDigitChars digits _) hunits
    cases seenPoint with
    | false =>
      obtain rfl : scale = 0 := hscale
      rw [List.cons_append, readFrom_digit hdigits.1 (by decide) hnext]
      exact (ih hdigits.2 rfl hunits).trans (by simp)
    | true =>
      have hroom : scale + (digits.length + 1) ≤ 28 := hscale
      have hbelow : scale + 1 + digits.length ≤ 28 := by omega
      rw [List.cons_append, readFrom_digit hdigits.1 (by omega) hnext]
      refine (ih hdigits.2 hbelow hunits).trans ?_
      simp [Nat.add_comm, Nat.add_left_comm]

/-- The text of a decimal: its sign, at least one digit, and as many digits behind a point as the
scale says. -/
theorem exists_text (d : Decimal) :
    ∃ whole fraction : List Char,
      d.text.toList = (if d.units < 0 then ['-'] else [])
          ++ (whole ++ if d.scale = 0 then [] else '.' :: fraction)
        ∧ whole ≠ [] ∧ fraction.length = d.scale
        ∧ (∀ c ∈ whole ++ fraction, c.isDigit = true)
        ∧ Nat.ofDigitChars 10 (whole ++ fraction) 0 = d.units.natAbs := by
  let digits := Nat.toDigits 10 d.units.natAbs
  let padded := List.replicate (d.scale + 1 - digits.length) '0' ++ digits
  have hlength : d.scale + 1 ≤ padded.length := by
    rw [List.length_append, List.length_replicate]
    omega
  refine ⟨padded.take (padded.length - d.scale), padded.drop (padded.length - d.scale), ?_, ?_, ?_,
    ?_, ?_⟩
  · rw [text, String.toList_ofList, List.append_assoc]
  · apply List.ne_nil_of_length_pos
    rw [List.length_take]
    omega
  · rw [List.length_drop]
    omega
  · intro c hc
    rw [List.take_append_drop, List.mem_append] at hc
    rcases hc with hc | hc
    · obtain rfl := List.eq_of_mem_replicate hc
      rfl
    · exact Nat.isDigit_of_mem_toDigits (by decide) (by decide) hc
  · rw [List.take_append_drop, Nat.ofDigitChars_append, Nat.ofDigitChars_replicate_zero,
      Nat.mul_zero, Nat.ofDigitChars_ten_toDigits]

/-- The digits of a decimal are all taken in. -/
theorem readFrom_unsigned (excess : Excess) {d : Decimal} {whole fraction : List Char}
    (hwhole : whole ≠ [])
    (hfraction : fraction.length = d.scale) (hdigits : ∀ c ∈ whole ++ fraction, c.isDigit = true)
    (hvalue : Nat.ofDigitChars 10 (whole ++ fraction) 0 = d.units.natAbs) :
    ∃ seenPoint, readFrom excess ⟨0, 0, false, false⟩
        (whole ++ if d.scale = 0 then [] else '.' :: fraction)
      = some ⟨d.units.natAbs, d.scale, seenPoint, true⟩ := by
  rw [List.forall_mem_append] at hdigits
  rw [Nat.ofDigitChars_append] at hvalue
  have hunits := d.units_lt
  rw [← hvalue] at hunits
  have hbefore : Nat.ofDigitChars 10 whole 0 < 0x1000000000000000000000000 :=
    Nat.lt_of_le_of_lt (le_ofDigitChars fraction _) hunits
  have hseen : (false || !whole.isEmpty) = true := by simp [hwhole]
  rw [readFrom_digits hdigits.1 (by simp) hbefore, hseen]
  by_cases hscale : d.scale = 0
  · obtain rfl : fraction = [] := List.length_eq_zero_iff.mp (hfraction.trans hscale)
    refine ⟨false, ?_⟩
    rw [if_pos hscale, hscale, ← hvalue]
    rfl
  · -- behind the point each digit counts for the scale
    refine ⟨true, ?_⟩
    have hroom : if true then 0 + fraction.length ≤ 28 else 0 = 0 := by
      have := d.scale_le
      rw [if_pos rfl]
      omega
    have hpoint : ∀ units rest, readFrom excess ⟨units, 0, false, true⟩ ('.' :: rest)
        = readFrom excess ⟨units, 0, true, true⟩ rest := fun _ _ => rfl
    have hfractionRead :
        readFrom excess ⟨Nat.ofDigitChars 10 whole 0, 0, true, true⟩ (fraction ++ [])
        = readFrom excess ⟨Nat.ofDigitChars 10 fraction (Nat.ofDigitChars 10 whole 0),
          0 + fraction.length, true, true⟩ [] :=
      readFrom_digits hdigits.2 hroom hunits []
    rw [List.append_nil, hvalue] at hfractionRead
    have hread : (if false = true then 0 + whole.length else 0) = 0 := rfl
    rw [if_neg hscale, hread, hpoint, hfractionRead, ← hfraction]
    simp [readFrom]

/-- A decimal is read back from its text, whatever is done with digits that do not fit. -/
theorem read?_text (d : Decimal) : read? excess d.text.toList = some d := by
  obtain ⟨whole, fraction, htext, hwhole, hfraction, hdigits, hvalue⟩ := exists_text d
  obtain ⟨seenPoint, hbody⟩ :=
    readFrom_unsigned excess hwhole hfraction hdigits hvalue
  have hparts : ∀ units : Int, units = d.units → ofParts? units d.scale = some d := by
    rintro units rfl
    exact dif_pos ⟨d.units_lt, d.scale_le⟩
  unfold read?
  by_cases hneg : d.units < 0
  · rw [htext, if_pos hneg, List.singleton_append]
    simp only [hbody, Option.bind_some, if_true]
    exact hparts _ (by omega)
  · -- what begins with a digit has no sign
    rw [htext, if_neg hneg, List.nil_append]
    cases whole with
    | nil => exact absurd rfl hwhole
    | cons c rest =>
      have hc := hdigits c List.mem_cons_self
      split
      rename_i negative body hsign
      split at hsign
      · rename_i hcs
        exact absurd (List.cons.inj hcs).1 (ne_of_isDigit hc rfl)
      · rename_i hcs
        exact absurd (List.cons.inj hcs).1 (ne_of_isDigit hc rfl)
      · obtain ⟨rfl, rfl⟩ := Prod.mk.inj hsign
        simp only [hbody, Option.bind_some, if_true, Bool.false_eq_true, if_false]
        exact hparts _ (by omega)

theorem isSolid_text (d : Decimal) : Text.IsSolid d.text.toList := by
  obtain ⟨whole, fraction, htext, -, -, hdigits, -⟩ := exists_text d
  have hsolid := Text.isSolid_append.mp (Text.isSolid_of_isDigit hdigits)
  have hminus : Text.isBlank '-' = false := by decide
  have hpoint : Text.isBlank '.' = false := by decide
  rw [htext]
  split <;> split <;> simp [hminus, hpoint, hsolid]

theorem ofText?_text (d : Decimal) : ofText? d.text = some d :=
  read?_text d

theorem ofNotation?_text (d : Decimal) : ofNotation? d.text = some d := by
  simp only [ofNotation?, read?_text]

end Decimal

end ContentSearch.Number
