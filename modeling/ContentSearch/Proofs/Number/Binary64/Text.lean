import ContentSearch.Number.Binary64.Reading
import ContentSearch.Proofs.Number.Binary64.Shortest
import ContentSearch.Proofs.Number.Digits
import ContentSearch.Proofs.Text.Blank

/-!
# Reading floating-point numbers back

The text of a number is read as the same number, with its sign, unless it is a NaN
(`Binary64.ofText?_text`). All NaNs share one text, which is read as the quiet one.
-/

namespace ContentSearch.Number.Binary64

variable {x : Binary64}

/-! ## Decimal notation -/

/-- A number with a point between its digits. -/
theorem scientific?_point {whole places rest : List Char} (hne : whole ≠ [])
    (hwhole : ∀ c ∈ whole, c.isDigit = true) (hplaces : ∀ c ∈ places, c.isDigit = true)
    (hrest : ∀ c ∈ rest.head?, c.isDigit = false) :
    scientific? (whole ++ '.' :: (places ++ rest))
      = (exponent? places.length rest).map fun e =>
        ⟨Nat.ofDigitChars 10 (whole ++ places) 0, e⟩ := by
  have hpoint : ∀ c ∈ ('.' :: (places ++ rest)).head?, c.isDigit = false := by simp
  obtain ⟨htake, hdrop⟩ := takeWhile_append_of_head hwhole hpoint
  obtain ⟨htake', hdrop'⟩ := takeWhile_append_of_head hplaces hrest
  have hempty : whole.isEmpty = false := by simpa using hne
  unfold scientific?
  simp only [htake, hdrop, htake', hdrop', hempty, Bool.false_and, Bool.false_eq_true, if_false]

/-- A number with an exponent right after its digits. -/
theorem scientific?_exponent {whole rest : List Char} (hne : whole ≠ [])
    (hwhole : ∀ c ∈ whole, c.isDigit = true) :
    scientific? (whole ++ 'e' :: rest)
      = (exponent? 0 ('e' :: rest)).map fun e => ⟨Nat.ofDigitChars 10 whole 0, e⟩ := by
  have hmark : ∀ c ∈ ('e' :: rest).head?, c.isDigit = false := by simp
  obtain ⟨htake, hdrop⟩ := takeWhile_append_of_head hwhole hmark
  have hempty : whole.isEmpty = false := by simpa using hne
  unfold scientific?
  simp [htake, hdrop, hempty]

theorem toList_toString_int (n : Int) :
    (toString n).toList = (if n < 0 then ['-'] else []) ++ Nat.toDigits 10 n.natAbs := by
  cases n with
  | ofNat n =>
    have hsign : ¬Int.ofNat n < 0 := Int.not_lt.mpr (Int.natCast_nonneg n)
    rw [if_neg hsign]
    exact Nat.toList_repr
  | negSucc n =>
    rw [if_pos (Int.negSucc_lt_zero n)]
    show ("-" ++ Nat.repr (n + 1)).toList = _
    rw [String.toList_append, Nat.toList_repr]
    rfl

theorem exponent?_toString (places : Nat) (n : Int) :
    exponent? places ('e' :: (toString n).toList) = some (n - places) := by
  rw [toList_toString_int, exponent?, if_pos (Or.inl rfl), integer?_signed]
  rfl

/-- Digits around a point are read as these digits, perhaps with zeros added, at the same place. -/
theorem scientific?_positional {ds : List Char} (hne : ds ≠ [])
    (hdigits : ∀ c ∈ ds, c.isDigit = true) (exponent : Int) :
    ∃ zeros : Nat, scientific? (positional ds (ds.length + exponent))
      = some ⟨Nat.ofDigitChars 10 ds 0 * 10 ^ zeros, exponent - zeros⟩ := by
  have hzeros : ∀ n, ∀ c ∈ List.replicate n '0', c.isDigit = true := fun n c hc => by
    rw [List.eq_of_mem_replicate hc]
    rfl
  have hpos : 0 < ds.length := List.length_pos_iff.mpr hne
  have hend : ∀ c ∈ ([] : List Char).head?, c.isDigit = false := by simp
  unfold positional
  split
  · -- zeros between the point and the digits
    have hplaces := List.forall_mem_append.mpr
      ⟨hzeros (-((ds.length : Int) + exponent)).toNat, hdigits⟩
    have hread := scientific?_point (List.cons_ne_nil '0' []) (by simp) hplaces hend
    rw [List.append_nil] at hread
    refine ⟨0, ?_⟩
    refine hread.trans ?_
    rw [exponent?, Option.map_some, List.singleton_append, Nat.ofDigitChars_cons,
      Nat.ofDigitChars_append, Nat.mul_zero, Nat.ofDigitChars_replicate_zero, List.length_append,
      List.length_replicate]
    congr 2
    · simp
    · omega
  · split
    · -- zeros between the digits and the point
      have hwhole := List.forall_mem_append.mpr
        ⟨hdigits, hzeros (((ds.length : Int) + exponent).toNat - ds.length)⟩
      have hread :=
        scientific?_point (List.append_ne_nil_of_left_ne_nil hne _) hwhole (hzeros 1) hend
      refine ⟨((ds.length : Int) + exponent).toNat - ds.length + 1, ?_⟩
      rw [List.append_nil] at hread
      refine hread.trans ?_
      rw [exponent?, Option.map_some, Nat.ofDigitChars_append, Nat.ofDigitChars_append,
        Nat.ofDigitChars_replicate_zero, Nat.ofDigitChars_replicate_zero, List.length_replicate]
      congr 2
      · ring
      · omega
    · -- a point between the digits
      have hparts := hdigits
      rw [← List.take_append_drop ((ds.length : Int) + exponent).toNat ds,
        List.forall_mem_append] at hparts
      have hfront : ds.take ((ds.length : Int) + exponent).toNat ≠ [] := by
        apply List.ne_nil_of_length_pos
        rw [List.length_take]
        omega
      have hread := scientific?_point hfront hparts.1 hparts.2 hend
      refine ⟨0, ?_⟩
      rw [List.append_nil] at hread
      rw [List.append_assoc, List.singleton_append, hread, exponent?, Option.map_some,
        List.take_append_drop, List.length_drop]
      congr 2
      · simp
      · omega

/-- Digits with an exponent are read as these digits at the same place. -/
theorem scientific?_scientific {ds : List Char} (hne : ds ≠ [])
    (hdigits : ∀ c ∈ ds, c.isDigit = true) (exponent : Int) :
    scientific? (scientific ds (ds.length + exponent))
      = some ⟨Nat.ofDigitChars 10 ds 0, exponent⟩ := by
  match ds with
  | [] => exact absurd rfl hne
  | [d] =>
    show scientific? ([d] ++ 'e' :: (toString _).toList) = _
    rw [scientific?_exponent hne hdigits, exponent?_toString, Option.map_some]
    congr 2
    simp
  | d :: e :: rest =>
    rw [List.forall_mem_cons] at hdigits
    have hmark : ∀ c ∈ ('e' :: (toString ((d :: e :: rest).length + exponent - 1)).toList).head?,
        c.isDigit = false := by simp
    have hread := scientific?_point (List.cons_ne_nil d [])
      (List.forall_mem_cons.mpr ⟨hdigits.1, by simp⟩) hdigits.2 hmark
    rw [exponent?_toString] at hread
    show scientific? ([d] ++ '.' :: (e :: (rest ++ ['e'] ++ _))) = _
    rw [List.append_assoc]
    refine hread.trans ?_
    simp only [Option.map_some, List.length_cons, List.singleton_append]
    congr 2
    omega

/-- A layout of digits is read as these digits, perhaps with zeros added, at the same place. -/
theorem scientific?_layout {ds : List Char} (hne : ds ≠ [])
    (hdigits : ∀ c ∈ ds, c.isDigit = true) (lowest exponent : Int) :
    ∃ zeros : Nat, scientific? (layout lowest ds (ds.length + exponent))
      = some ⟨Nat.ofDigitChars 10 ds 0 * 10 ^ zeros, exponent - zeros⟩ := by
  unfold layout
  split
  · exact scientific?_positional hne hdigits exponent
  · refine ⟨0, ?_⟩
    rw [scientific?_scientific hne hdigits]
    simp

/-! ## Signs and names -/

/-- Decimal text begins with a digit or the point. -/
theorem exists_cons_of_scientific? {cs : List Char} {s : Scientific} (h : scientific? cs = some s) :
    ∃ c rest, cs = c :: rest ∧ (c.isDigit = true ∨ c = '.') := by
  cases cs with
  | nil => cases h
  | cons c rest =>
    refine ⟨c, rest, rfl, ?_⟩
    by_contra hnot
    rw [not_or, Bool.not_eq_true] at hnot
    obtain ⟨hdigit, hpoint⟩ := hnot
    have hwhole : (c :: rest).takeWhile Char.isDigit = [] := by simp [hdigit]
    have hdrop : (c :: rest).dropWhile Char.isDigit = c :: rest := by simp [hdigit]
    unfold scientific? at h
    simp only [hwhole, hdrop] at h
    split at h
    · rename_i hcs
      exact hpoint (List.cons.inj hcs).1
    · cases h

/-- No name begins like decimal text. -/
theorem toLower_eq_self {c : Char} (h : c.isDigit = true ∨ c = '.') : c.toLower = c := by
  rcases h with h | rfl
  · simp only [Char.isDigit, Bool.and_eq_true, decide_eq_true_eq, UInt32.le_iff_toNat_le] at h
    unfold Char.toLower
    rw [dif_neg]
    intro hupper
    simp only [ge_iff_le, UInt32.le_iff_toNat_le] at hupper
    exact absurd (Nat.le_trans hupper.1 h.2) (by decide)
  · rfl

theorem unsigned?_of_scientific? {cs : List Char} {s : Scientific} (h : scientific? cs = some s)
    (negative : Bool) :
    unsigned? negative cs = some (ofScientific negative s.digits s.exponent) := by
  obtain ⟨c, rest, rfl, hc⟩ := exists_cons_of_scientific? h
  have hne : ∀ d, d.isDigit = false → d ≠ '.' → c.toLower ≠ d := by
    rintro d hdigit hpoint rfl
    rw [toLower_eq_self hc] at hdigit hpoint
    rw [hdigit] at hc
    exact hc.elim Bool.noConfusion hpoint
  have hi := hne 'i' rfl (by decide)
  have hn := hne 'n' rfl (by decide)
  unfold unsigned?
  rw [List.map_cons, if_neg, if_neg, h]
  · rfl
  · exact fun hname => hn (List.cons.inj hname).1
  · rintro (hname | hname)
    · exact hi (List.cons.inj hname).1
    · exact hi (List.cons.inj hname).1

/-- Decimal text with an optional minus sign is read with this sign. -/
theorem ofText?_of_scientific? {cs : List Char} {s : Scientific} (h : scientific? cs = some s)
    (negative : Bool) :
    ofText? (String.ofList ((if negative then ['-'] else []) ++ cs))
      = some (ofScientific negative s.digits s.exponent) := by
  have hread := unsigned?_of_scientific? h negative
  unfold ofText?
  rw [String.toList_ofList]
  cases negative with
  | true => exact hread
  | false =>
    obtain ⟨c, rest, rfl, hc⟩ := exists_cons_of_scientific? h
    simp only [Bool.false_eq_true, if_false, List.nil_append]
    split
    · rename_i hsign
      obtain ⟨rfl, -⟩ := List.cons.inj hsign
      exact absurd hc (by decide)
    · rename_i hsign
      obtain ⟨rfl, -⟩ := List.cons.inj hsign
      exact absurd hc (by decide)
    · exact hread

/-! ## Texts of numbers -/

/-- A number without a significand is zero. -/
theorem magnitude_eq_zero (h : x.units = 0) : x.magnitude = 0 := by
  have hsignificand : x.significand = 0 := by
    by_contra hne
    exact absurd h (Nat.mul_ne_zero hne (Nat.two_pow_pos x.spacing).ne')
  have hspacing : x.spacing = 0 := by
    by_contra hne
    have := le_significand (Nat.pos_of_ne_zero hne)
    omega
  rw [magnitude_eq, hsignificand, hspacing]

theorem finiteText_eq (h : x.units ≠ 0) (lowest : Int) :
    x.finiteText lowest = layout lowest (Nat.toDigits 10 x.shortest.1)
      ((Nat.toDigits 10 x.shortest.1).length + x.shortest.2) := by
  -- the pair is taken apart by a lemma, since to compare its parts is to run the search
  have hpair : x.shortest = (x.shortest.1, x.shortest.2) := Prod.mk.eta.symm
  generalize x.shortest.1 = digits at hpair ⊢
  generalize x.shortest.2 = exponent at hpair ⊢
  unfold finiteText
  rw [if_neg h, hpair]

theorem ofScientific_zero (negative : Bool) (exponent : Int) :
    ofScientific negative 0 exponent = zero negative := by
  unfold ofScientific
  rw [if_pos rfl]

/-- The text of a finite number is read as a decimal that rounds to the number. -/
theorem scientific?_finiteText (hfinite : x.isFinite = true) (lowest : Int) :
    ∃ s, scientific? (x.finiteText lowest) = some s
      ∧ ∀ negative,
        ofScientific negative s.digits s.exponent = ofMagnitude negative x.magnitude := by
  by_cases hzero : x.units = 0
  · refine ⟨⟨0, -1⟩, ?_, fun negative => ?_⟩
    · rw [finiteText, if_pos hzero]
      rfl
    · rw [ofScientific_zero, magnitude_eq_zero hzero, zero]
  · have hpos : 0 < x.significand :=
      Nat.pos_of_ne_zero fun hnone => hzero (by rw [units_eq, hnone, Nat.zero_mul])
    have hdigits : ∀ c ∈ Nat.toDigits 10 x.shortest.1, c.isDigit = true := fun c hc =>
      Nat.isDigit_of_mem_toDigits (by decide) (by decide) hc
    obtain ⟨zeros, hread⟩ :=
      scientific?_layout Nat.toDigits_ne_nil hdigits lowest x.shortest.2
    rw [finiteText_eq hzero]
    refine ⟨_, hread, fun negative => ?_⟩
    apply ofScientific_of_holdsAt hfinite hpos
    rw [Nat.ofDigitChars_ten_toDigits, Interval.holdsAt_mul_pow]
    exact holdsAt_shortest hpos

/-- The fields of an infinite number. -/
theorem eq_infinity (hinfinite : x.isFinite = false) (hnumber : x.isNaN = false) :
    x = infinity x.isNegative := by
  have hmagnitude := magnitude_lt x
  have hfields : x.exponent = 2047 ∧ x.fraction = 0 := by
    have hexponent : ¬x.exponent < 2047 := of_decide_eq_false hinfinite
    have hleast : x.exponent = 2047 := by
      unfold exponent at hexponent ⊢
      omega
    refine ⟨hleast, ?_⟩
    unfold isNaN at hnumber
    rw [hleast] at hnumber
    simpa using hnumber
  have hvalue : x.magnitude = 2047 * 0x10000000000000 := by
    have hdivision := Nat.div_add_mod x.magnitude 0x10000000000000
    obtain ⟨hexponent, hfraction⟩ := hfields
    unfold exponent at hexponent
    unfold fraction at hfraction
    omega
  conv_lhs => rw [← ofMagnitude_magnitude x, hvalue]
  rfl

/-- A number is read back from its text. -/
theorem ofText?_text (hnumber : x.isNaN = false) : ofText? x.text = some x := by
  have hsign : ∀ body : String, (if x.isNegative then "-" ++ body else body)
      = String.ofList ((if x.isNegative then ['-'] else []) ++ body.toList) := by
    intro body
    rw [← String.toList_inj, String.toList_ofList]
    split
    · rw [String.toList_append]
      rfl
    · rfl
  unfold text
  rw [hnumber, if_neg Bool.false_ne_true]
  dsimp only
  cases hfinite : x.isFinite with
  | true =>
    obtain ⟨s, hread, hvalue⟩ := scientific?_finiteText hfinite (-4)
    rw [if_pos rfl, hsign, String.toList_ofList, ofText?_of_scientific? hread, hvalue,
      ofMagnitude_magnitude]
  | false =>
    rw [if_neg Bool.false_ne_true]
    conv_rhs => rw [eq_infinity hfinite hnumber]
    cases x.isNegative <;> rfl

/-- The text of a NaN is read as the quiet NaN. -/
theorem ofText?_text_of_isNaN (h : x.isNaN = true) : ofText? x.text = some nan := by
  rw [text, if_pos h]
  rfl

/-! ## No blanks -/

theorem isSolid_zeros (n : Nat) : Text.IsSolid (List.replicate n '0') :=
  Text.isSolid_of_isDigit fun c hc => by
    rw [List.eq_of_mem_replicate hc]
    rfl

theorem isSolid_layout {ds : List Char} (h : Text.IsSolid ds) (lowest point : Int) :
    Text.IsSolid (layout lowest ds point) := by
  have htake : ∀ n, Text.IsSolid (ds.take n) := fun n c hc => h c (List.mem_of_mem_take hc)
  have hdrop : ∀ n, Text.IsSolid (ds.drop n) := fun n c hc => h c (List.mem_of_mem_drop hc)
  have hpoint : Text.isBlank '.' = false := by decide
  have hmark : Text.isBlank 'e' = false := by decide
  have hzero : Text.isBlank '0' = false := by decide
  unfold layout
  split
  · unfold positional
    split
    · simp [hzero, hpoint, isSolid_zeros, h]
    · split
      · simp [hzero, hpoint, isSolid_zeros, h]
      · simp [hpoint, htake, hdrop]
  · have hexponent : Text.IsSolid (toString (point - 1)).toList := by
      rw [toList_toString_int]
      have hminus : Text.isBlank '-' = false := by decide
      have hdigits : Text.IsSolid (Nat.toDigits 10 (point - 1).natAbs) :=
        Text.isSolid_of_isDigit fun c hc =>
          Nat.isDigit_of_mem_toDigits (by decide) (by decide) hc
      split <;> simp [hminus, hdigits]
    unfold scientific
    dsimp only
    split <;> simp_all

theorem isSolid_text (x : Binary64) : Text.IsSolid x.text.toList := by
  have hfinite : Text.IsSolid (x.finiteText (-4)) := by
    by_cases hzero : x.units = 0
    · rw [finiteText, if_pos hzero]
      decide
    · rw [finiteText_eq hzero]
      exact isSolid_layout (Text.isSolid_of_isDigit fun c hc =>
        Nat.isDigit_of_mem_toDigits (by decide) (by decide) hc) _ _
  have hbody : Text.IsSolid
      (if x.isFinite then String.ofList (x.finiteText (-4)) else "Infinity").toList := by
    split
    · rw [String.toList_ofList]
      exact hfinite
    · decide
  have hminus : Text.IsSolid "-".toList := by decide
  unfold text
  split
  · decide
  · dsimp only
    split
    · rw [String.toList_append]
      exact Text.isSolid_append.mpr ⟨hminus, hbody⟩
    · exact hbody

end ContentSearch.Number.Binary64
