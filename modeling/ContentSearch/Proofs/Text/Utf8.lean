import ContentSearch.Text.Utf8
import Mathlib.Algebra.Group.Nat.Defs

/-!
# Reading the bytes of a text

The bytes of a text are read as the text itself, strictly and leniently, so that no two texts have
the same bytes. A sequence is followed with what is left of the code point: after the first byte the
bits so far are the code point without its last groups of six bits, and each further byte adds one
group.
-/

namespace ContentSearch.Text.Utf8

/-- The bytes of a text. -/
def encode (s : String) : List UInt8 :=
  s.toList.flatMap String.utf8EncodeChar

/-- Bytes are well-formed if they are the bytes of a text. -/
def IsWellFormed (bytes : List UInt8) : Prop :=
  ∃ s, encode s = bytes

/-! ## Sequences -/

/-- The bytes after the first one: a group of six bits each, for the last groups of a code point. -/
def tail : Nat → Nat → List UInt8
  | 0, _ => []
  | n + 1, code => UInt8.ofNat (code / 64 ^ n % 64 + 0x80) :: tail n code

theorem toNat_ofNat {n : Nat} (h : n < 256) : (UInt8.ofNat n).toNat = n := by
  rw [UInt8.toNat_ofNat']
  exact Nat.mod_eq_of_lt h

/-- With its last groups still to come, a code point is read to its end. -/
theorem readFrom_tail {n code low high : Nat} (hlow : low ≤ code / 64 ^ n % 64 + 0x80)
    (hhigh : code / 64 ^ n % 64 + 0x80 ≤ high) (rest : List UInt8) :
    readFrom (some ⟨code / 64 ^ (n + 1), n + 1, low, high⟩) (tail (n + 1) code ++ rest)
      = some (Char.ofNat code) :: readFrom none rest := by
  -- on the number of groups after the next byte, whose range is the only one that varies
  induction n generalizing low high with
  | zero =>
    have hgroup : (UInt8.ofNat (code / 64 ^ 0 % 64 + 0x80)).toNat = code / 64 ^ 0 % 64 + 0x80 :=
      toNat_ofNat (by omega)
    have hcode : code / 64 ^ 1 * 64 + (code / 64 ^ 0 % 64 + 0x80 - 0x80) = code := by omega
    rw [tail, List.cons_append, readFrom, hgroup, if_pos ⟨hlow, hhigh⟩, if_pos (Nat.le_refl 1),
      hcode, tail, List.nil_append]
  | succ n ih =>
    have hgroup : (UInt8.ofNat (code / 64 ^ (n + 1) % 64 + 0x80)).toNat
        = code / 64 ^ (n + 1) % 64 + 0x80 := toNat_ofNat (by omega)
    -- the group joins the bits before it
    have hbits : code / 64 ^ (n + 1 + 1) * 64 + (code / 64 ^ (n + 1) % 64 + 0x80 - 0x80)
        = code / 64 ^ (n + 1) := by
      rw [Nat.pow_succ _ (n + 1), ← Nat.div_div_eq_div_mul]
      omega
    have hleft : ¬n + 1 + 1 ≤ 1 := by omega
    rw [tail, List.cons_append, readFrom, hgroup, if_pos ⟨hlow, hhigh⟩, if_neg hleft, hbits]
    exact ih (by omega) (by omega)

/-- A first byte, with the last groups after it. -/
theorem readFrom_lead {n code first bits low high : Nat} (hfirst : first < 256)
    (hlead : lead first = .more ⟨bits, n + 1, low, high⟩) (hbits : bits = code / 64 ^ (n + 1))
    (hlow : low ≤ code / 64 ^ n % 64 + 0x80) (hhigh : code / 64 ^ n % 64 + 0x80 ≤ high)
    (rest : List UInt8) :
    readFrom none (UInt8.ofNat first :: tail (n + 1) code ++ rest)
      = some (Char.ofNat code) :: readFrom none rest := by
  rw [List.cons_append, readFrom, toNat_ofNat hfirst, hlead, hbits]
  exact readFrom_tail hlow hhigh rest

theorem lead_two {b : Nat} (h : 0xc2 ≤ b) (h' : b < 0xe0) :
    lead b = .more ⟨b - 0xc0, 1, 0x80, 0xbf⟩ := by
  rw [lead, if_neg (by omega), if_neg (by omega), if_pos h']

theorem lead_three {b : Nat} (h : 0xe0 ≤ b) (h' : b < 0xf0) :
    lead b = .more ⟨b - 0xe0, 2, if b = 0xe0 then 0xa0 else 0x80,
      if b = 0xed then 0x9f else 0xbf⟩ := by
  rw [lead, if_neg (by omega), if_neg (by omega), if_neg (by omega), if_pos h']

theorem lead_four {b : Nat} (h : 0xf0 ≤ b) (h' : b < 0xf5) :
    lead b = .more ⟨b - 0xf0, 3, if b = 0xf0 then 0x90 else 0x80,
      if b = 0xf4 then 0x8f else 0xbf⟩ := by
  rw [lead, if_neg (by omega), if_neg (by omega), if_neg (by omega), if_neg (by omega), if_pos h']

/-! ## Characters -/

/-- A character has up to three groups after its first byte. -/
theorem utf8EncodeChar_eq (c : Char) :
    String.utf8EncodeChar c =
      if c.toNat ≤ 0x7f then [UInt8.ofNat c.toNat]
      else if c.toNat ≤ 0x7ff then UInt8.ofNat (c.toNat / 64 % 32 + 0xc0) :: tail 1 c.toNat
      else if c.toNat ≤ 0xffff then UInt8.ofNat (c.toNat / 4096 % 16 + 0xe0) :: tail 2 c.toNat
      else UInt8.ofNat (c.toNat / 262144 % 8 + 0xf0) :: tail 3 c.toNat := by
  simp only [tail, Nat.reducePow, Nat.div_one]
  rfl

/-- The bytes of a character are read as the character. -/
theorem readFrom_utf8EncodeChar (c : Char) (rest : List UInt8) :
    readFrom none (String.utf8EncodeChar c ++ rest) = some c :: readFrom none rest := by
  have hread : some c :: readFrom none rest = some (Char.ofNat c.toNat) :: readFrom none rest := by
    rw [Char.ofNat_toNat]
  -- surrogates are no characters
  have hvalid : c.toNat < 0xd800 ∨ (0xdfff < c.toNat ∧ c.toNat < 0x110000) := c.valid
  rw [hread, utf8EncodeChar_eq]
  generalize c.toNat = code at hvalid
  split
  · rw [List.singleton_append, readFrom, toNat_ofNat (by omega), lead, if_pos (by omega)]
  · split
    · have hlead := @lead_two (code / 64 % 32 + 0xc0) (by omega) (by omega)
      exact readFrom_lead (by omega) hlead (by omega) (by omega) (by omega) rest
    -- the range of the second byte is narrower where it shuts out overlong forms and surrogates
    · split
      · have hlead := @lead_three (code / 4096 % 16 + 0xe0) (by omega) (by omega)
        apply readFrom_lead (by omega) hlead (by omega)
        · split <;> omega
        · split <;> omega
      · have hlead := @lead_four (code / 262144 % 8 + 0xf0) (by omega) (by omega)
        apply readFrom_lead (by omega) hlead (by omega)
        · split <;> omega
        · split <;> omega

/-! ## Texts -/

theorem readFrom_encode (s : String) : readFrom none (encode s) = s.toList.map some := by
  unfold encode
  induction s.toList with
  | nil => rfl
  | cons c cs ih => rw [List.flatMap_cons, readFrom_utf8EncodeChar, ih, List.map_cons]

theorem decodeLenient_encode (s : String) : decodeLenient (encode s) = s := by
  rw [decodeLenient, readFrom_encode, List.map_map]
  show String.ofList (s.toList.map id) = s
  rw [List.map_id, String.ofList_toList]

/-- A list without faults is the list of what is in it. -/
theorem map_some_of_mapM {α : Type} {read : List (Option α)} {as : List α}
    (h : read.mapM id = some as) : read = as.map some := by
  induction read generalizing as with
  | nil =>
    obtain rfl := Option.some.inj h
    rfl
  | cons a? rest ih =>
    rw [List.mapM_cons, Option.bind_eq_bind, Option.bind_eq_some_iff] at h
    obtain ⟨a, ha, h⟩ := h
    obtain ⟨others, hothers, h⟩ := Option.bind_eq_some_iff.mp h
    obtain rfl := Option.some.inj h
    have ha : a? = some a := ha
    rw [ha, ih hothers, List.map_cons]

/-- What is read strictly is read leniently as the same text. -/
theorem decodeLenient_of_decode? {bytes : List UInt8} {s : String} (h : decode? bytes = some s) :
    decodeLenient bytes = s := by
  obtain ⟨cs, hcs, rfl⟩ := Option.map_eq_some_iff.mp h
  rw [decodeLenient, map_some_of_mapM hcs, List.map_map]
  show String.ofList (cs.map id) = String.ofList cs
  rw [List.map_id]

/-- Well-formed bytes are told apart by their texts. -/
theorem decodeLenient_inj {bytes bytes' : List UInt8} (h : IsWellFormed bytes)
    (h' : IsWellFormed bytes') : decodeLenient bytes = decodeLenient bytes' ↔ bytes = bytes' := by
  obtain ⟨s, rfl⟩ := h
  obtain ⟨s', rfl⟩ := h'
  rw [decodeLenient_encode, decodeLenient_encode]
  constructor
  · intro hsame
    rw [hsame]
  · intro hsame
    rw [← decodeLenient_encode s, hsame, decodeLenient_encode]

end ContentSearch.Text.Utf8
