import ContentSearch.Proofs.Index.Term
import ContentSearch.Proofs.Number.Spelling
import Mathlib.Data.String.Basic

/-!
# Spellings of terms

The reader of terms takes all spellings of a word, of which the term is the plain one: digits may be
capital letters, and the first of them may be a plus sign. What it makes of a text is known by the
plain spelling of the text (`Term.toWord?_eq_some_iff`).
-/

namespace ContentSearch.Term

open Number

/-- The text in small letters, with a zero in place of a plus sign in front. -/
def plainSpelling (s : String) : String :=
  String.ofList (plainDigits s.toList)

theorem plainSpelling_eq_ofWord_iff {s : String} {n : Nat} :
    plainSpelling s = ofWord n ↔ plainDigits s.toList = hexWord 16 n := by
  rw [plainSpelling, ofWord, String.ofList_inj]

/-! ## Bytes -/

theorem utf8Len_le (cs : List Char) : String.utf8Len cs ≤ 4 * cs.length := by
  induction cs with
  | nil => exact Nat.le_refl 0
  | cons c rest ih =>
    have hc := c.utf8Size_le_four
    rw [String.utf8Len_cons, List.length_cons]
    omega

theorem utf8Len_of_ascii {cs : List Char} (h : ∀ c ∈ cs, c.toNat < 128) :
    String.utf8Len cs = cs.length := by
  induction cs with
  | nil => rfl
  | cons c rest ih =>
    rw [List.forall_mem_cons] at h
    have hc : c.utf8Size = 1 := Char.utf8Size_eq_one_iff.mpr (Nat.le_of_lt_succ h.1)
    rw [String.utf8Len_cons, ih h.2, hc, List.length_cons]

theorem utf8ByteSize_eq (s : String) : s.utf8ByteSize = String.utf8Len s.toList := by
  rw [← String.utf8ByteSize_ofList, String.ofList_toList]

/-! ## Words -/

/-- A word is read from its spellings. -/
theorem toWord?_eq_some_iff {s : String} {n : Nat} :
    toWord? s = some n ↔ n < 2 ^ 64 ∧ plainSpelling s = ofWord n := by
  rw [plainSpelling_eq_ofWord_iff, toWord?, utf8ByteSize_eq]
  constructor
  · intro h
    split at h
    · rename_i hsize
      have hlength := utf8Len_le s.toList
      obtain ⟨hn, hplain⟩ := (hexNumber?_eq_some_iff (by omega)).mp h
      -- the bytes are the characters
      have hsixteen : s.toList.length = 16 := by
        rw [← utf8Len_of_ascii (toNat_lt_of_plainDigits hplain), hsize]
      rw [hsixteen] at hn hplain
      exact ⟨hn, hplain⟩
    · cases h
  · rintro ⟨hn, hplain⟩
    have hsixteen : s.toList.length = 16 := by
      rw [← length_plainDigits, hplain, length_hexWord]
    rw [utf8Len_of_ascii (toNat_lt_of_plainDigits hplain), if_pos hsixteen,
      hexNumber?_eq_some_iff (by omega), hsixteen]
    exact ⟨hn, hplain⟩

theorem plainSpelling_ofWord (n : Nat) : plainSpelling (ofWord n) = ofWord n := by
  rw [plainSpelling_eq_ofWord_iff, ofWord, String.toList_ofList, plainDigits_hexWord]

/-- A word is read back from its term. -/
theorem toWord?_ofWord {n : Nat} (h : n < 2 ^ 64) : toWord? (ofWord n) = some n :=
  toWord?_eq_some_iff.mpr ⟨h, plainSpelling_ofWord n⟩

/-! ## Integers -/

theorem plainSpelling_ofLong (n : Int64) : plainSpelling (ofLong n) = ofLong n :=
  plainSpelling_ofWord _

theorem toLong?_eq (s : String) :
    toLong? s = (toWord? s).map fun m : Nat => Int64.ofInt ((m : Int) - 0x8000000000000000) := by
  unfold toLong?
  cases toWord? s <;> rfl

theorem toLong?_eq_some_iff {s : String} {n : Int64} :
    toLong? s = some n ↔ plainSpelling s = ofLong n := by
  have hn := n.le_toInt
  have hn' := n.toInt_lt
  rw [toLong?_eq, Option.map_eq_some_iff]
  constructor
  · rintro ⟨m, hm, rfl⟩
    obtain ⟨hmlt, hplain⟩ := toWord?_eq_some_iff.mp hm
    have hback : ((m : Int) - 0x8000000000000000 + 0x8000000000000000).toNat = m := by omega
    rw [hplain, ofLong, Int64.toInt_ofInt_of_le (by omega) (by omega), hback]
  · intro hplain
    refine ⟨(n.toInt + 0x8000000000000000).toNat, toWord?_eq_some_iff.mpr ⟨by omega, hplain⟩, ?_⟩
    have hback : ((n.toInt + 0x8000000000000000).toNat : Int) - 0x8000000000000000 = n.toInt := by
      omega
    rw [hback, Int64.ofInt_toInt]

/-- An integer is read from all spellings of its term, and from no other text. The texts that it is
read from and that are plain spellings are its term alone. -/
theorem toLong?_iff_plainSpelling (s : String) (n : Int64) :
    (toLong? s = some n ↔ plainSpelling s = ofLong n)
      ∧ (s = ofLong n ↔ toLong? s = some n ∧ plainSpelling s = s) := by
  refine ⟨toLong?_eq_some_iff, ?_⟩
  rw [toLong?_eq_some_iff]
  constructor
  · rintro rfl
    exact ⟨plainSpelling_ofLong n, plainSpelling_ofLong n⟩
  · rintro ⟨hplain, hself⟩
    exact hself.symm.trans hplain

/-- Texts with a capital digit or with a plus sign are no terms, and integers are read from them. -/
theorem toLong?_of_otherSpelling :
    ¬(toLong? "800000000000000A" = some 10 ↔ "800000000000000A" = ofLong 10)
      ∧ ¬(toLong? "+00000000000000a" = some (-9223372036854775798)
        ↔ "+00000000000000a" = ofLong (-9223372036854775798)) := by
  have hcapital : toLong? "800000000000000A" = some 10 := by decide
  have hplus : toLong? "+00000000000000a" = some (-9223372036854775798) := by decide
  refine ⟨fun h => ?_, fun h => ?_⟩
  · exact absurd (h.mp hcapital) (by decide)
  · exact absurd (h.mp hplus) (by decide)

end ContentSearch.Term
