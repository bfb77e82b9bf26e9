/-!
# UTF-8

Reading bytes as text, byte by byte. A sequence that breaks off is one fault, and the byte that
breaks it is read anew. Reading strictly refuses any fault, reading leniently puts the replacement
character in its place.
-/

namespace ContentSearch.Text.Utf8

/-- A sequence that was begun: the bits so far, the number of bytes still to come, and the range
that the next byte must lie in. -/
structure Pending where
  bits : Nat
  left : Nat
  low : Nat
  high : Nat

/-- What the first byte of a sequence says. -/
inductive Lead
  | char (code : Nat)
  | more (pending : Pending)
  | invalid

/-- Reads the first byte of a sequence. Overlong forms, surrogates and code points past the last
are ruled out by the range of the second byte. -/
def lead (b : Nat) : Lead :=
  if b < 0x80 then .char b
  else if b < 0xc2 then .invalid
  else if b < 0xe0 then .more ⟨b - 0xc0, 1, 0x80, 0xbf⟩
  else if b < 0xf0 then
    .more ⟨b - 0xe0, 2, if b = 0xe0 then 0xa0 else 0x80, if b = 0xed then 0x9f else 0xbf⟩
  else if b < 0xf5 then
    .more ⟨b - 0xf0, 3, if b = 0xf0 then 0x90 else 0x80, if b = 0xf4 then 0x8f else 0xbf⟩
  else .invalid

/-- The characters of a byte sequence, `none` for each fault. -/
def readFrom : Option Pending → List UInt8 → List (Option Char)
  | none, [] => []
  | some _, [] => [none]
  | none, b :: rest =>
    match lead b.toNat with
    | .char code => some (Char.ofNat code) :: readFrom none rest
    | .more p => readFrom (some p) rest
    | .invalid => none :: readFrom none rest
  | some p, b :: rest =>
    if p.low ≤ b.toNat ∧ b.toNat ≤ p.high then
      let bits := p.bits * 64 + (b.toNat - 0x80)
      if p.left ≤ 1 then some (Char.ofNat bits) :: readFrom none rest
      else readFrom (some ⟨bits, p.left - 1, 0x80, 0xbf⟩) rest
    else
      none :: match lead b.toNat with
        | .char code => some (Char.ofNat code) :: readFrom none rest
        | .more p => readFrom (some p) rest
        | .invalid => none :: readFrom none rest

/-- The text of well-formed bytes. -/
def decode? (bytes : List UInt8) : Option String :=
  ((readFrom none bytes).mapM id).map String.ofList

/-- The text of any bytes, with the replacement character for each fault. -/
def decodeLenient (bytes : List UInt8) : String :=
  String.ofList ((readFrom none bytes).map fun c => c.getD '\ufffd')

/-- A text without the mark of its encoding, which may stand before it once. -/
def withoutMark (s : String) : String :=
  match s.toList with
  | '\ufeff' :: cs => String.ofList cs
  | _ => s

end ContentSearch.Text.Utf8
