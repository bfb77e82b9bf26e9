import ContentSearch.Index.Term
import ContentSearch.Proofs.Number.Hex

/-!
# The order of terms

Integers, instants and truth values are in the order of their terms.
-/

namespace ContentSearch

/-- The milliseconds of an instant fit into 64 bits. -/
theorem Time.Instant.natAbs_millis_lt (t : Instant) : t.millis.natAbs < 9223372036854775808 := by
  have hseconds := t.seconds_le
  have hnanos := t.nanos_lt
  unfold millis
  omega

namespace Term

open Number

theorem ofWord_lt_iff {n m : Nat} (hn : n < 2 ^ 64) (hm : m < 2 ^ 64) :
    ofWord n < ofWord m ↔ n < m := by
  rw [ofWord, ofWord, String.lt_iff, String.toList_ofList, String.toList_ofList]
  exact hexWord_lt_iff hn hm

theorem ofLong_lt_iff {n m : Int64} : ofLong n < ofLong m ↔ n.toInt < m.toInt := by
  have hn := n.le_toInt
  have hn' := n.toInt_lt
  have hm := m.le_toInt
  have hm' := m.toInt_lt
  -- both numbers are moved up by the same amount, to where there is no sign
  rw [ofLong, ofLong, ofWord_lt_iff (by omega) (by omega)]
  omega

theorem ofInstant_lt_iff {s t : Time.Instant} :
    ofValue (.date s) < ofValue (.date t) ↔ s.millis < t.millis := by
  have hs := s.natAbs_millis_lt
  have ht := t.natAbs_millis_lt
  rw [ofValue, ofValue, ofLong_lt_iff, Int64.toInt_ofInt_of_le (by omega) (by omega),
    Int64.toInt_ofInt_of_le (by omega) (by omega)]

theorem booleanText_lt_iff {a b : Bool} :
    Value.booleanText a < Value.booleanText b ↔ a < b := by
  cases a <;> cases b <;> decide

end Term

end ContentSearch
