import ContentSearch.Number.Hex
import Mathlib.Algebra.Group.Nat.Defs

/-!
# The order of words

Words of one width are in the order of their numbers when they are compared as texts, because they
are compared digit by digit from the front.
-/

namespace ContentSearch.Number

/-! ## Digits -/

theorem hexDigit_lt_iff {a b : Nat} (ha : a < 16) (hb : b < 16) :
    hexDigit a < hexDigit b ↔ a < b := by
  have hall : ∀ i j : Fin 16, hexDigit i < hexDigit j ↔ i < j := by decide
  exact hall ⟨a, ha⟩ ⟨b, hb⟩

theorem hexDigit_inj {a b : Nat} (ha : a < 16) (hb : b < 16) :
    hexDigit a = hexDigit b ↔ a = b := by
  have hall : ∀ i j : Fin 16, hexDigit i = hexDigit j ↔ i = j := by decide
  exact (hall ⟨a, ha⟩ ⟨b, hb⟩).trans (Iff.of_eq (Fin.mk.injEq a ha b hb))

/-! ## Words -/

/-- Lists that begin with parts of one length are compared by these parts first. -/
theorem append_lt_append_iff {front₁ front₂ back₁ back₂ : List Char}
    (h : front₁.length = front₂.length) :
    front₁ ++ back₁ < front₂ ++ back₂ ↔ front₁ < front₂ ∨ front₁ = front₂ ∧ back₁ < back₂ := by
  induction front₁ generalizing front₂ with
  | nil =>
    obtain rfl := List.length_eq_zero_iff.mp h.symm
    simp
  | cons c rest ih =>
    cases front₂ with
    | nil => cases h
    | cons d others =>
      have hlength : rest.length = others.length := Nat.succ.inj h
      simp only [List.cons_append, List.cons_lt_cons_iff, ih hlength, List.cons.injEq]
      constructor
      · rintro (hlt | ⟨rfl, hlt | ⟨rfl, hlt⟩⟩)
        · exact Or.inl (Or.inl hlt)
        · exact Or.inl (Or.inr ⟨rfl, hlt⟩)
        · exact Or.inr ⟨⟨rfl, rfl⟩, hlt⟩
      · rintro ((hlt | ⟨rfl, hlt⟩) | ⟨⟨rfl, rfl⟩, hlt⟩)
        · exact Or.inl hlt
        · exact Or.inr ⟨rfl, Or.inl hlt⟩
        · exact Or.inr ⟨rfl, Or.inr ⟨rfl, hlt⟩⟩

theorem hexWord_inj {width n m : Nat} (hn : n < 16 ^ width) (hm : m < 16 ^ width) :
    hexWord width n = hexWord width m ↔ n = m := by
  induction width generalizing n m with
  | zero => simp_all [hexWord]
  | succ width ih =>
    rw [Nat.pow_succ] at hn hm
    constructor
    · -- the quotients agree by induction, the remainders by their digits
      intro h
      obtain ⟨hfront, hlast⟩ := List.append_inj' h rfl
      have hquotient : n / 16 = m / 16 := (ih (by omega) (by omega)).mp hfront
      have hrest : n % 16 = m % 16 :=
        (hexDigit_inj (by omega) (by omega)).mp (List.cons.inj hlast).1
      omega
    · rintro rfl
      rfl

theorem hexWord_lt_iff {width n m : Nat} (hn : n < 16 ^ width) (hm : m < 16 ^ width) :
    hexWord width n < hexWord width m ↔ n < m := by
  induction width generalizing n m with
  | zero => simp_all [hexWord]
  | succ width ih =>
    rw [Nat.pow_succ] at hn hm
    have hn' : n / 16 < 16 ^ width := by omega
    have hm' : m / 16 < 16 ^ width := by omega
    have hn16 : n % 16 < 16 := Nat.mod_lt n (by omega)
    have hm16 : m % 16 < 16 := Nat.mod_lt m (by omega)
    have hlength : (hexWord width (n / 16)).length = (hexWord width (m / 16)).length := by
      rw [length_hexWord, length_hexWord]
    rw [hexWord, hexWord, append_lt_append_iff hlength, ih hn' hm', hexWord_inj hn' hm',
      List.cons_lt_cons_iff, hexDigit_lt_iff hn16 hm16]
    simp only [List.not_lt_nil, and_false, or_false]
    -- the last digit decides where the digits before it agree
    omega

end ContentSearch.Number
