import ContentSearch.Number.Hex
import ContentSearch.Yaml.Source
import ContentSearch.Yaml.Token

/-!
# Anchors, tags and directives

The words that stand before a value or a document: an anchor names a value, an alias stands for the
value of that name, a tag says of what kind a value is, and a directive concerns a whole document.
-/

namespace ContentSearch.Yaml

/-! ## Anchors -/

/-- Whether a character can stand in the name of an anchor. -/
def isAnchorChar (c : Char) : Bool :=
  !(isGap c || isFlowMark c || c == '\ufeff')

/-- Reads a name behind the mark of an anchor or an alias. -/
def anchorName? (s : Source) : Option (String × Source) :=
  match s.takeWhile fun p => isAnchorChar p.char with
  | [] => none
  | name => some (String.ofList (name.map (·.char)), s.drop name.length)

/-! ## Tags -/

/-- Whether a character can stand in an address. -/
def isAddressChar (c : Char) : Bool :=
  c.isAlphanum || "-#;/?:@&=+$,_.!~*\x27()[]%".contains c

/-- Whether a character can stand behind the handle of a tag. -/
def isTagChar (c : Char) : Bool :=
  isAddressChar c && !isFlowMark c && c != '!'

/-- Reads characters of a class. A percent sign and two digits stand for a character. -/
def address? (isPart : Char → Bool) : Source → Option (List Char × Source)
  | [] => some ([], [])
  | p :: s =>
    if !isPart p.char then some ([], p :: s)
    else if p.char = '%' then
      match s with
      | a :: b :: s => do
        let high ← Number.hexValue? a.char
        let low ← Number.hexValue? b.char
        let (cs, rest) ← address? isPart s
        some (Char.ofNat (high * 16 + low) :: cs, rest)
      | _ => none
    else (address? isPart s).map fun (cs, rest) => (p.char :: cs, rest)

/-- Reads the handle of a tag: a name between exclamation marks, of which the second may be
missing. -/
def handle (s : Source) : List Char × Source :=
  let name := s.tail.takeWhile fun p => isNameChar p.char
  let rest : Source := s.tail.drop name.length
  let begun := '!' :: name.map (·.char)
  if rest.char = '!' then (begun ++ ['!'], rest.tail) else (begun, rest)

/-- Whether a handle is complete, with both exclamation marks. -/
def isHandle (handle : List Char) : Bool :=
  2 ≤ handle.length && handle.head? == some '!' && handle.getLast? == some '!'

/-- Reads a tag. An address in angle brackets has no handle; a name behind a single exclamation
mark has that mark as its handle. -/
def tag? (s : Source) : Option (Token × Source) :=
  if s.next = '<' then do
    let (address, rest) ← address? isAddressChar (s.drop 2)
    if rest.char = '>' then some (.tag "" (String.ofList address), rest.tail) else none
  else do
    let (handle, rest) := handle s
    let (suffix, rest) ← address? isTagChar rest
    if isHandle handle then
      if suffix.isEmpty then none
      else some (.tag (String.ofList handle) (String.ofList suffix), rest)
    else
      match handle.tail ++ suffix with
      | [] => some (.tag "" "!", rest)
      | name => some (.tag "!" (String.ofList name), rest)

/-! ## Directives -/

/-- Reads the digits of a version, nine at most. -/
def versionPart? (s : Source) : Option Source :=
  match s.takeWhile fun p => p.char.isDigit with
  | [] => none
  | digits => if digits.length ≤ 9 then some (s.drop digits.length) else none

/-- Reads the version behind the name of its directive. -/
def version? (s : Source) : Option (Token × Source) := do
  let rest ← versionPart? s.skipBlanks
  if rest.char = '.' then
    let rest ← versionPart? rest.tail
    some (.versionDirective, rest)
  else none

/-- Reads the beginning of tags that a handle stands for. -/
def tagBeginning? (s : Source) : Option (List Char × Source) :=
  if s.char = '!' then
    (address? isAddressChar s.tail).map fun (cs, rest) => ('!' :: cs, rest)
  else if isTagChar s.char then address? isAddressChar s
  else none

/-- Reads a handle and the beginning of tags that it stands for. -/
def tagMeaning? (s : Source) : Option (Token × Source) := do
  let s := s.skipBlanks
  if s.char = '!' then
    let (handle, rest) := handle s
    if handle = ['!'] ∨ isHandle handle = true then
      let (beginning, rest) ← tagBeginning? rest.skipBlanks
      if isGap rest.char then
        some (.tagDirective (String.ofList handle) (String.ofList beginning), rest)
      else none
    else none
  else none

/-- Reads a directive behind its mark up to the end of its line. One that is not known says
nothing. -/
def directive? (s : Source) : Option (Token × Source) := do
  let name := (s.takeWhile fun p => isNameChar p.char).map (·.char)
  let rest : Source := s.drop name.length
  if name.isEmpty || !isGap rest.char then none
  else
    let (token, rest) ←
      if name = "YAML".toList then version? rest
      else if name = "TAG".toList then tagMeaning? rest
      else some (.tagDirective "" "", rest.skipLine)
    let rest ← behind? rest
    if isLineEnd rest.char then
      some (token, if rest.char = '\n' then rest.tail else rest)
    else none

end ContentSearch.Yaml
