import ContentSearch.Index.FieldIndex
import ContentSearch.Proofs.Number.Decimal.Short
import ContentSearch.Proofs.Text.Utf8
import ContentSearch.Proofs.Value.Display

/-!
# Values that have one term

The term of a value is what the index knows of it. Texts, integers and truth values have terms of
their own. Numbers lose the sign of a zero, decimals are rounded to doubles, instants are cut off to
milliseconds, and bytes lose whatever is no text in them (`Value.term_eq_iff`). Short decimals are
still told apart as numbers, and well-formed bytes as they are.
-/

namespace ContentSearch

open Number

/-! ## Terms of numbers -/

namespace Term

theorem rank_of_magnitude_eq_zero {x : Binary64} (h : x.magnitude = 0) :
    rank x = 0x8000000000000000 :=
  if_pos h

/-- Only zeros have the rank of zeros. -/
theorem magnitude_eq_zero_of_rank {x : Binary64} (h : rank x = 0x8000000000000000) :
    x.magnitude = 0 := by
  have hmagnitude := x.magnitude_lt
  by_contra hne
  rw [rank, if_neg hne] at h
  split at h <;> omega

theorem ofDouble_eq_iff {x y : Binary64} : ofDouble x = ofDouble y ↔ x.Coincides y := by
  rw [ofDouble, ofDouble, ofWord_inj (rank_lt x) (rank_lt y)]
  constructor
  · intro h
    -- the rank of the zeros lies between the ranks of all other numbers
    by_cases hx : x.magnitude = 0
    · rw [rank_of_magnitude_eq_zero hx] at h
      exact Or.inr ⟨hx, magnitude_eq_zero_of_rank h.symm⟩
    · have hy : y.magnitude ≠ 0 := by
        intro hy
        rw [rank_of_magnitude_eq_zero hy] at h
        exact hx (magnitude_eq_zero_of_rank h)
      exact Or.inl (eq_of_rank_eq hx hy h)
  · intro h
    rcases h with hsame | ⟨hx, hy⟩
    · rw [hsame]
    · rw [rank_of_magnitude_eq_zero hx, rank_of_magnitude_eq_zero hy]

theorem ofLong_eq_iff {n m : Int64} : ofLong n = ofLong m ↔ n = m := by
  have hn := n.le_toInt
  have hn' := n.toInt_lt
  have hm := m.le_toInt
  have hm' := m.toInt_lt
  rw [ofLong, ofLong, ofWord_inj (by omega) (by omega), ← Int64.toInt_inj]
  omega

theorem ofInstant_eq_iff {s t : Time.Instant} :
    ofValue (.date s) = ofValue (.date t) ↔ s.millis = t.millis := by
  have hs := s.natAbs_millis_lt
  have ht := t.natAbs_millis_lt
  rw [ofValue, ofValue, ofLong_eq_iff, ← Int64.toInt_inj,
    Int64.toInt_ofInt_of_le (by omega) (by omega), Int64.toInt_ofInt_of_le (by omega) (by omega)]

theorem booleanText_eq_iff {a b : Bool} : Value.booleanText a = Value.booleanText b ↔ a = b := by
  cases a <;> cases b <;> decide

end Term

/-! ## Values of one type -/

namespace Value

/-- The first value is taken for the second one. Texts are compared with regard to case or without,
decimals as the doubles that they are rounded to, instants by milliseconds, and bytes as the text
that can be read in them. -/
def IsTakenFor (caseSensitive : Bool) : Value → Value → Prop
  | .text _ s, .text _ t =>
    FieldIndex.lookupKey caseSensitive s = FieldIndex.lookupKey caseSensitive t
  | .binary bytes, .binary bytes' =>
    Text.Utf8.decodeLenient bytes = Text.Utf8.decodeLenient bytes'
  | .long n, .long m => n = m
  | .double x, .double y => x.Coincides y
  | .decimal d, .decimal d' => d.toBinary64.Coincides d'.toBinary64
  | .date s, .date t => s.millis = t.millis
  | .boolean a, .boolean b => a = b
  | _, _ => False

variable {v w : Value}

/-- Values of one type have one term exactly if one is taken for the other. -/
theorem term_eq_iff (h : v.type = w.type) :
    Term.ofValue v = Term.ofValue w ↔ v.IsTakenFor true w := by
  cases w with
  | text kind t =>
    cases v with
    | text kind' s => exact Iff.rfl
    | _ => cases h
  | binary bytes' =>
    cases v with
    | binary bytes => exact Iff.rfl
    | _ => cases h
  | long m =>
    cases v with
    | long n => exact Term.ofLong_eq_iff
    | _ => cases h
  | double y =>
    cases v with
    | double x => exact Term.ofDouble_eq_iff
    | _ => cases h
  | decimal d' =>
    cases v with
    | decimal d => exact Term.ofDouble_eq_iff
    | _ => cases h
  | date t =>
    cases v with
    | date s => exact Term.ofInstant_eq_iff
    | _ => cases h
  | boolean b =>
    cases v with
    | boolean a => exact Term.booleanText_eq_iff
    | _ => cases h

/-- Case matters for all values but texts. -/
theorem isTakenFor_iff_true (htext : w.type.isText = false) (caseSensitive : Bool) :
    v.IsTakenFor caseSensitive w ↔ v.IsTakenFor true w := by
  cases w with
  | text kind t => cases htext
  | _ => cases v <;> exact Iff.rfl

/-- A value of the type of a column is looked up by its term, texts without regard to case by the
lower case of it. -/
theorem lookupKey_term_eq_iff (h : v.type = w.type) (caseSensitive : Bool) :
    FieldIndex.lookupKey (caseSensitive || !w.type.isText) (Term.ofValue v)
        = FieldIndex.lookupKey (caseSensitive || !w.type.isText) (Term.ofValue w)
      ↔ v.IsTakenFor caseSensitive w := by
  cases htext : w.type.isText with
  | false =>
    rw [Bool.not_false, Bool.or_true, isTakenFor_iff_true htext]
    exact term_eq_iff h
  | true =>
    -- only here case can be left out of account, and the term is the text itself
    rw [Bool.not_true, Bool.or_false]
    cases w with
    | text kind t =>
      cases v with
      | text kind' s => exact Iff.rfl
      | _ => cases h
    | _ => cases htext

/-- Texts, integers and truth values have terms of their own. -/
theorem isTakenFor_iff_eq (h : v.type = w.type)
    (hexact : v.type.isText = true ∨ v.type = .long ∨ v.type = .boolean) :
    v.IsTakenFor true w ↔ v = w := by
  cases v with
  | text kind s =>
    cases w with
    | text kind' t =>
      obtain rfl := PropertyType.text.inj h
      show s = t ↔ _
      rw [text.injEq, and_iff_right rfl]
    | _ => cases h
  | long n =>
    cases w with
    | long m =>
      show n = m ↔ _
      rw [long.injEq]
    | _ => cases h
  | boolean a =>
    cases w with
    | boolean b =>
      show a = b ↔ _
      rw [boolean.injEq]
    | _ => cases h
  | binary _ | double _ | decimal _ | date _ => simp [type, PropertyType.isText] at hexact

end Value

/-! ## What terms tell -/

namespace Term

/-- What the terms of two values of one type tell of the values. -/
structure TellsValues : Prop where
  /-- They are the same if and only if one value is taken for the other, -/
  eq_iff : ∀ {v w : Value}, v.type = w.type → (ofValue v = ofValue w ↔ v.IsTakenFor true w)
  /-- for texts, integers and truth values if and only if the values are equal, -/
  eq_iff_eq : ∀ {v w : Value}, v.type = w.type →
    v.type.isText = true ∨ v.type = .long ∨ v.type = .boolean → (ofValue v = ofValue w ↔ v = w)
  /-- for short decimals if and only if they are equal as numbers, -/
  decimal_eq_iff : ∀ {d d' : Decimal}, d.IsShort → d'.IsShort →
    (ofValue (.decimal d) = ofValue (.decimal d') ↔ d.value = d'.value)
  /-- and for well-formed bytes if and only if these are equal. -/
  binary_eq_iff : ∀ {bytes bytes' : List UInt8}, Text.Utf8.IsWellFormed bytes →
    Text.Utf8.IsWellFormed bytes' →
    (ofValue (.binary bytes) = ofValue (.binary bytes') ↔ bytes = bytes')

theorem tellsValues : TellsValues := by
  refine ⟨fun htype => Value.term_eq_iff htype, fun htype hexact => ?_, fun {d d'} h h' => ?_,
    fun {bytes bytes'} h h' => Text.Utf8.decodeLenient_inj h h'⟩
  · rw [Value.term_eq_iff htype, Value.isTakenFor_iff_eq htype hexact]
  · rw [ofValue, ofValue, ofDouble_eq_iff, Decimal.coincides_iff h h']

end Term

end ContentSearch
