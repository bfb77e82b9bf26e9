/-!
# Blank characters

The characters with the Unicode property `White_Space`, and trimming them from the ends of a text.
-/

namespace ContentSearch.Text

/-- The Unicode property `White_Space`. -/
def isBlank (c : Char) : Bool :=
  let code := c.toNat
  (Nat.ble 9 code && Nat.ble code 13) || code == 0x20 || code == 0x85 || code == 0xa0
    || code == 0x1680 || (Nat.ble 0x2000 code && Nat.ble code 0x200a)
    || code == 0x2028 || code == 0x2029 || code == 0x202f || code == 0x205f || code == 0x3000

/-- Drops blanks from both ends. -/
def trimChars (cs : List Char) : List Char :=
  ((cs.dropWhile isBlank).reverse.dropWhile isBlank).reverse

/-- Drops blanks from both ends. -/
def trim (s : String) : String :=
  String.ofList (trimChars s.toList)

end ContentSearch.Text
