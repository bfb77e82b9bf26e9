import ContentSearch.Proofs.Number.Digits
import ContentSearch.Proofs.Text.Casing
import Mathlib.Data.List.Induction

/-!
# Spellings of words

A number is read from digits of either case, and after a plus sign as well as without one. What it
is read from is thus known by its plain spelling, in small digits and with a zero in place of the
sign: it is read from a text if and only if its word of the same length is the plain spelling of the
text (`hexNumber?_eq_some_iff`).
-/

namespace ContentSearch.Number

/-! ## Digits of either case -/

theorem toNat_hexDigit {d : Nat} (hd : d < 16) :
    d < 10 ∧ (hexDigit d).toNat = d + 0x30 ∨ 10 ≤ d ∧ (hexDigit d).toNat = d + 0x57 := by
  have hall : ∀ i : Fin 16, i.val < 10 ∧ (hexDigit i.val).toNat = i.val + 0x30
      ∨ 10 ≤ i.val ∧ (hexDigit i.val).toNat = i.val + 0x57 := by decide
  exact hall ⟨d, hd⟩

/-- The codes of the digits, of the small letters and of the capital ones. -/
theorem hexValue?_cases {c : Char} {d : Nat} :
    hexValue? c = some d ↔ (0x30 ≤ c.toNat ∧ c.toNat ≤ 0x39) ∧ c.toNat = d + 0x30
      ∨ (0x61 ≤ c.toNat ∧ c.toNat ≤ 0x66) ∧ c.toNat = d + 0x57
      ∨ (0x41 ≤ c.toNat ∧ c.toNat ≤ 0x46) ∧ c.toNat = d + 0x37 := by
  have hdigit : c.isDigit = true ↔ 0x30 ≤ c.toNat ∧ c.toNat ≤ 0x39 := Char.isDigit_iff_toNat
  have hsmall : ('a' ≤ c ∧ c ≤ 'f') ↔ 0x61 ≤ c.toNat ∧ c.toNat ≤ 0x66 := Iff.rfl
  have hcapital : ('A' ≤ c ∧ c ≤ 'F') ↔ 0x41 ≤ c.toNat ∧ c.toNat ≤ 0x46 := Iff.rfl
  unfold hexValue?
  simp only [hdigit, hsmall, hcapital]
  split
  · rw [Option.some.injEq]
    omega
  · split
    · rw [Option.some.injEq]
      omega
    · split
      · rw [Option.some.injEq]
        omega
      · exact iff_of_false nofun (by omega)

/-- A digit has its value in either case. -/
theorem hexValue?_eq_some_iff {c : Char} {d : Nat} :
    hexValue? c = some d ↔ d < 16 ∧ c.toLower = hexDigit d := by
  have hlower := Text.toLower_cases c
  rw [hexValue?_cases]
  constructor
  · intro h
    have hd : d < 16 := by omega
    have hdigit := toNat_hexDigit hd
    exact ⟨hd, Char.toNat_inj.mp (by omega)⟩
  · rintro ⟨hd, h⟩
    have hdigit := toNat_hexDigit hd
    rw [h] at hlower
    omega

/-! ## Runs of digits -/

/-- What is true of all small digits is true of the digits of a word. -/
theorem forall_mem_hexWord {P : Char → Prop} (h : ∀ i : Fin 16, P (hexDigit i.val))
    (width n : Nat) : ∀ c ∈ hexWord width n, P c := by
  induction width generalizing n with
  | zero => exact List.forall_mem_nil P
  | succ width ih =>
    rw [hexWord, List.forall_mem_append, List.forall_mem_singleton]
    exact ⟨ih (n / 16), h ⟨n % 16, Nat.mod_lt n (by decide)⟩⟩

theorem map_toLower_hexWord (width n : Nat) :
    (hexWord width n).map Char.toLower = hexWord width n := by
  have hsmall := forall_mem_hexWord (P := fun c => c.toLower = c) (by decide) width n
  rw [List.map_congr_left hsmall, List.map_id']

/-- A number is read from the digits of its word, each of them in either case. -/
theorem hexFrom?_eq_some_iff {cs : List Char} {n : Nat} :
    hexFrom? 0 cs = some n
      ↔ n < 16 ^ cs.length ∧ cs.map Char.toLower = hexWord cs.length n := by
  -- digits are added at the end, both in reading and in writing
  induction cs using List.reverseRecOn generalizing n with
  | nil =>
    simp only [hexFrom?, List.length_nil, List.map_nil, hexWord, and_true, Option.some.injEq]
    omega
  | append_singleton front c ih =>
    have hlast : ∀ m, hexFrom? m [c] = some n ↔ ∃ d, hexValue? c = some d ∧ m * 16 + d = n := by
      intro m
      simp only [hexFrom?, Option.bind_eq_some_iff, Option.some.injEq]
    simp only [hexFrom?_append, Option.bind_eq_some_iff, ih, hlast, hexValue?_eq_some_iff,
      List.length_append, List.length_singleton, List.map_append, List.map_singleton, hexWord,
      Nat.pow_succ]
    constructor
    · rintro ⟨m, ⟨hm, hfront⟩, d, ⟨hd, hc⟩, rfl⟩
      have hquotient : (m * 16 + d) / 16 = m := by omega
      have hrest : (m * 16 + d) % 16 = d := by omega
      rw [hquotient, hrest, hfront, hc]
      exact ⟨by omega, rfl⟩
    · rintro ⟨hn, hspelled⟩
      obtain ⟨hfront, hc⟩ := List.append_inj' hspelled rfl
      exact ⟨n / 16, ⟨by omega, hfront⟩, n % 16, ⟨by omega, (List.cons.inj hc).1⟩, by omega⟩

/-- A word is read back as its number. -/
theorem hexFrom?_hexWord {width n : Nat} (h : n < 16 ^ width) :
    hexFrom? 0 (hexWord width n) = some n := by
  rw [hexFrom?_eq_some_iff, length_hexWord]
  exact ⟨h, map_toLower_hexWord width n⟩

/-! ## Plain spellings -/

/-- A plus sign in front counts as a zero. -/
def withoutPlus : List Char → List Char
  | '+' :: rest => '0' :: rest
  | cs => cs

theorem length_withoutPlus (cs : List Char) : (withoutPlus cs).length = cs.length := by
  unfold withoutPlus
  split <;> rfl

theorem withoutPlus_of_ne {c : Char} (h : c ≠ '+') (cs : List Char) :
    withoutPlus (c :: cs) = c :: cs := by
  unfold withoutPlus
  split
  · rename_i heq
    exact absurd (List.cons.inj heq).1 h
  · rfl

/-- The characters of the plain spelling of a number: small digits without a sign. -/
def plainDigits (cs : List Char) : List Char :=
  (withoutPlus cs).map Char.toLower

theorem length_plainDigits (cs : List Char) : (plainDigits cs).length = cs.length := by
  rw [plainDigits, List.length_map, length_withoutPlus]

theorem hexNumber?_eq {cs : List Char} (hlength : 1 < cs.length) :
    hexNumber? cs = hexFrom? 0 (withoutPlus cs) := by
  match cs, hlength with
  | c :: c' :: rest, _ =>
    by_cases hc : c = '+'
    · subst hc
      rfl
    · rw [withoutPlus_of_ne hc]
      unfold hexNumber?
      split <;> simp_all

/-- A number is read from the spellings of its word of the same length. -/
theorem hexNumber?_eq_some_iff {cs : List Char} (hlength : 1 < cs.length) {n : Nat} :
    hexNumber? cs = some n
      ↔ n < 16 ^ cs.length ∧ plainDigits cs = hexWord cs.length n := by
  rw [hexNumber?_eq hlength, hexFrom?_eq_some_iff, length_withoutPlus, plainDigits]

/-- A word is its own plain spelling. -/
theorem plainDigits_hexWord (width n : Nat) :
    plainDigits (hexWord width n) = hexWord width n := by
  have hplus := forall_mem_hexWord (P := (· ≠ '+')) (by decide) width n
  have hsame : withoutPlus (hexWord width n) = hexWord width n := by
    cases hcs : hexWord width n with
    | nil => rfl
    | cons c rest => exact withoutPlus_of_ne (hplus c (hcs ▸ List.mem_cons_self)) rest
  rw [plainDigits, hsame, map_toLower_hexWord]

/-- All spellings of a word are of ASCII. -/
theorem toNat_lt_of_plainDigits {cs : List Char} {width n : Nat}
    (h : plainDigits cs = hexWord width n) : ∀ c ∈ cs, c.toNat < 128 := by
  have hall : ∀ c ∈ withoutPlus cs, c.toNat < 128 := by
    intro c hc
    have hlower : c.toLower ∈ plainDigits cs := List.mem_map_of_mem hc
    rw [h] at hlower
    have hcode : c.toLower.toNat < 128 :=
      forall_mem_hexWord (P := fun d => d.toNat < 128) (by decide) width n _ hlower
    have hcase := Text.toLower_cases c
    omega
  unfold withoutPlus at hall
  split at hall
  · rw [List.forall_mem_cons] at hall ⊢
    exact ⟨by decide, hall.2⟩
  · exact hall

end ContentSearch.Number
