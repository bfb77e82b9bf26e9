import ContentSearch.Json
import ContentSearch.Number.Binary64.Shortest
import ContentSearch.Number.Hex

/-!
# Printing JSON

The text of a JSON value, on one line or with one member a line.
-/

namespace ContentSearch.Json

open Number

/-- The integer in decimal. -/
def intText (n : Int) : String :=
  if n < 0 then "-" ++ Nat.repr n.natAbs else Nat.repr n.natAbs

/-- A number in the fewest digits; from `10 ^ (-5)` up to `10 ^ 16` it is positional. What is no
finite number has no JSON form and is null. -/
def realText (x : Binary64) : String :=
  if x.isFinite then
    (if x.isNegative then "-" else "") ++ String.ofList (x.finiteText (-5))
  else "null"

/-- A character of a string. -/
def escape (c : Char) : List Char :=
  if c = '\x22' then ['\\', '\x22']
  else if c = '\\' then ['\\', '\\']
  else if c = '\x08' then ['\\', 'b']
  else if c = '\x0c' then ['\\', 'f']
  else if c = '\n' then ['\\', 'n']
  else if c = '\r' then ['\\', 'r']
  else if c = '\t' then ['\\', 't']
  else if c.toNat < 0x20 then ['\\', 'u'] ++ hexWord 4 c.toNat
  else [c]

/-- A string in quotation marks. -/
def stringText (s : String) : String :=
  "\x22" ++ String.ofList (s.toList.flatMap escape) ++ "\x22"

/-- How lists and objects are laid out: what stands before each part and before the closing
bracket at a depth, and between a name and its value. -/
structure Layout where
  lineBreak : Nat → String
  afterColon : String

/-- Everything on one line. -/
def Layout.compact : Layout :=
  ⟨fun _ => "", ""⟩

/-- One part a line, indented by two blanks for each level. -/
def Layout.pretty : Layout :=
  ⟨fun depth => "\n" ++ String.ofList (List.replicate (2 * depth) ' '), " "⟩

/-- Parts between brackets. -/
def bracketed (layout : Layout) (depth : Nat) (opening closing : String)
    (parts : List String) : String :=
  if parts.isEmpty then opening ++ closing
  else
    opening ++ String.intercalate "," (parts.map (layout.lineBreak (depth + 1) ++ ·))
      ++ layout.lineBreak depth ++ closing

mutual

/-- The text of a value at a depth. -/
def print (layout : Layout) (depth : Nat) : Json → String
  | .null => "null"
  | .bool b => if b then "true" else "false"
  | .int n => intText n
  | .real x => realText x
  | .text s => stringText s
  | .list items => bracketed layout depth "[" "]" (printItems layout (depth + 1) items)
  | .object members =>
    bracketed layout depth "\x7b" "\x7d" (printMembers layout (depth + 1) members)

/-- The texts of the items of a list. -/
def printItems (layout : Layout) (depth : Nat) : List Json → List String
  | [] => []
  | j :: rest => print layout depth j :: printItems layout depth rest

/-- The texts of the members of an object. -/
def printMembers (layout : Layout) (depth : Nat) : List (String × Json) → List String
  | [] => []
  | (name, v) :: rest =>
    (stringText name ++ ":" ++ layout.afterColon ++ print layout depth v)
      :: printMembers layout depth rest

end

/-- The text of a value on one line. -/
def compact (j : Json) : String :=
  print .compact 0 j

/-- The text of a value on indented lines. -/
def pretty (j : Json) : String :=
  print .pretty 0 j

end ContentSearch.Json
