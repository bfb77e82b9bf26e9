import ContentSearch.Proofs.Index.Spelling
import ContentSearch.Proofs.Number.Binary64.Order
import ContentSearch.Proofs.Value.Display

/-!
# Terms in the order of numbers

The terms of integers and of numbers are texts whose order is the order of the numbers, over all
words of 64 bits (`Term.keepsOrder`). Numbers are told apart as far as their values go, and each is
read back from its term, a negative zero as the positive one.
-/

namespace ContentSearch.Term

open Number

variable {x y : Binary64}

/-! ## Ranks -/

theorem rank_lt_iff : rank x < rank y ↔ x.signedMagnitude < y.signedMagnitude := by
  have hx := x.magnitude_lt
  have hy := y.magnitude_lt
  unfold rank Binary64.signedMagnitude
  cases x.isNegative <;> cases y.isNegative <;> simp only [Bool.false_eq_true, if_false, if_true]
    <;> split <;> split <;> omega

theorem rank_eq_iff : rank x = rank y ↔ x.signedMagnitude = y.signedMagnitude := by
  rw [le_antisymm_iff, le_antisymm_iff, ← not_lt, ← not_lt, ← not_lt, ← not_lt, rank_lt_iff,
    rank_lt_iff]

/-- Each rank leads back to its number, that of the zeros to the positive one. -/
theorem ofRank_rank (x : Binary64) :
    ofRank (rank x) = if x = Binary64.zero true then Binary64.zero false else x := by
  have hmagnitude := x.magnitude_lt
  have hx := x.ofMagnitude_magnitude
  by_cases hzero : x.magnitude = 0
  · -- there are two of them
    have hrank : ofRank (rank x) = Binary64.zero false := by
      rw [rank, if_pos hzero]
      rfl
    rw [hzero] at hx
    rw [hrank]
    split
    · rfl
    · rename_i hne
      cases hsign : x.isNegative with
      | false => rw [← hx, hsign, Binary64.zero]
      | true => exact absurd (by rw [← hx, hsign, Binary64.zero]) hne
  · have hne : x ≠ Binary64.zero true := by
      rintro rfl
      exact hzero (by decide)
    rw [if_neg hne, rank, if_neg hzero, ofRank]
    cases hsign : x.isNegative with
    | false =>
      have hback : 0x8000000000000000 + x.magnitude - 0x8000000000000000 = x.magnitude := by omega
      rw [if_neg Bool.false_ne_true, if_pos (by omega), hback, ← hsign, hx]
    | true =>
      have hback : 0x7fffffffffffffff - (0x7fffffffffffffff - x.magnitude) = x.magnitude := by
        omega
      rw [if_pos rfl, if_neg (by omega), hback, ← hsign, hx]

/-! ## Terms of numbers -/

theorem ofDouble_lt_iff (hx : x.isNaN = false) (hy : y.isNaN = false) :
    ofDouble x < ofDouble y ↔ x.place < y.place := by
  rw [ofDouble, ofDouble, ofWord_lt_iff (rank_lt x) (rank_lt y), rank_lt_iff,
    Binary64.place_lt_iff hx hy]

theorem ofDouble_eq_iff_place (hx : x.isNaN = false) (hy : y.isNaN = false) :
    ofDouble x = ofDouble y ↔ x.place = y.place := by
  rw [ofDouble, ofDouble, ofWord_inj (rank_lt x) (rank_lt y), rank_eq_iff,
    Binary64.place_eq_iff hx hy]

theorem toDouble?_ofDouble (x : Binary64) :
    toDouble? (ofDouble x)
      = some (if x = Binary64.zero true then Binary64.zero false else x) := by
  rw [toDouble?, ofDouble, toWord?_ofWord (rank_lt x), Option.map_some, ofRank_rank]

/-! ## The order of terms -/

/-- Integers are in the order of their terms, and so are all numbers that are no NaN. Numbers of one
value, and no others, have one term, and each is read back from its term, a negative zero as the
positive one. -/
theorem keepsOrder (n m : Int64) (hx : x.isNaN = false) (hy : y.isNaN = false) :
    (n < m ↔ ofLong n < ofLong m)
      ∧ (x.place < y.place ↔ ofDouble x < ofDouble y)
      ∧ (x.place = y.place ↔ ofDouble x = ofDouble y)
      ∧ toDouble? (ofDouble x)
        = some (if x = Binary64.zero true then Binary64.zero false else x) := by
  refine ⟨?_, (ofDouble_lt_iff hx hy).symm, (ofDouble_eq_iff_place hx hy).symm,
    toDouble?_ofDouble x⟩
  rw [ofLong_lt_iff, Int64.lt_iff_toInt_lt]

/-- The negative zero stands before the least positive number, as its term does. -/
theorem keepsOrder_leastPositive :
    (Binary64.zero true).isNaN = false ∧ (Binary64.mk 1).isNaN = false
      ∧ ofLong (-1) < ofLong 0
      ∧ (Binary64.zero true).place < (Binary64.mk 1).place
      ∧ ofDouble (Binary64.zero true) < ofDouble (Binary64.mk 1)
      ∧ toDouble? (ofDouble (Binary64.zero true)) = some (Binary64.zero false) := by
  have hzero : (Binary64.zero true).isNaN = false := by decide
  have hleast : (Binary64.mk 1).isNaN = false := by decide
  obtain ⟨hlong, hdouble, -, hback⟩ := keepsOrder (-1) 0 hzero hleast
  have hterms : ofDouble (Binary64.zero true) < ofDouble (Binary64.mk 1) := by decide
  exact ⟨hzero, hleast, hlong.mp (by decide), hdouble.mpr hterms, hterms, hback⟩

end ContentSearch.Term
