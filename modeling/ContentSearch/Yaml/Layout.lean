import ContentSearch.Yaml.Plain
import ContentSearch.Yaml.Property
import ContentSearch.Yaml.Quoted
import ContentSearch.Yaml.Written

/-!
# Layout

Cutting a text into tokens. In block style the columns of items and keys tell where lists and
mappings begin and end. What a key is shows only at the colon behind it, so the place where one may
have begun is remembered until then.
-/

namespace ContentSearch.Yaml

/-- An indentation that was given up for a deeper one. -/
structure Indent where
  outer : Int
  /-- Whether the deeper one belongs to a list or a mapping; else it is one column deeper, for what
  stands behind a key or an item. -/
  isBlock : Bool

/-- The place where a key may have begun. -/
structure KeyStart where
  /-- The number of tokens before it. -/
  position : Nat
  line : Nat
  column : Nat
  /-- Whether nothing but a key can stand there. -/
  isRequired : Bool

/-- An open bracket: of a list or of a mapping. What is in brackets may be a key itself. -/
structure FlowLevel where
  isList : Bool
  key? : Option KeyStart

/-- How far a text is cut into tokens. -/
structure Layout where
  source : Source
  tokens : Array Token
  /-- Whether a key may begin at hand. -/
  keyAllowed : Bool
  key? : Option KeyStart
  /-- The open brackets, the last one first. -/
  levels : List FlowLevel
  /-- The column of the innermost list or mapping in block style. -/
  indent : Int
  outer : List Indent
  /-- The place behind a key in quotes or brackets, where a colon needs no blank behind it. -/
  adjacent? : Option (Nat × Nat)

namespace Layout

/-- The beginning of a text. -/
def start (s : Source) : Layout :=
  ⟨s, #[], true, none, [], -1, [], none⟩

/-- The place at hand. -/
def head (l : Layout) : Placed :=
  l.source.head

/-- Whether brackets are open. -/
def inFlow (l : Layout) : Bool :=
  !l.levels.isEmpty

/-- Adds a token that ends before `rest`. -/
def push (l : Layout) (token : Token) (rest : Source) : Layout :=
  { l with tokens := l.tokens.push token, source := rest }

/-! ## Indentation -/

/-- Whether the innermost indentation belongs to a list or a mapping. -/
def inBlock (l : Layout) : Bool :=
  (l.outer.head?.map (·.isBlock)).getD false

/-- Gives up the indentations that are deeper than a column. -/
def closeTo (column indent : Int) (tokens : Array Token) :
    List Indent → Int × List Indent × Array Token
  | [] => (indent, [], tokens)
  | i :: outer =>
    if column < indent then
      closeTo column i.outer (if i.isBlock then tokens.push .blockEnd else tokens) outer
    else (indent, i :: outer, tokens)

/-- Ends the lists and mappings in block style that are indented further than a column. -/
def closeBlocks (l : Layout) (column : Int) : Layout :=
  if l.inFlow then l
  else
    let (indent, outer, tokens) := closeTo column l.indent l.tokens l.outer
    { l with indent, outer, tokens }

/-- Begins a list or a mapping in block style at a column, unless there is one already. Its token
goes before the tokens from `position` on. -/
def openBlock (l : Layout) (column position : Nat) (token : Token) : Layout :=
  if l.inFlow then l
  else
    let l :=
      match l.outer with
      | i :: outer =>
        if !i.isBlock && l.indent ≤ (column : Int) then { l with indent := i.outer, outer } else l
      | [] => l
    if l.indent < (column : Int) then
      { l with
        outer := ⟨l.indent, true⟩ :: l.outer
        indent := column
        tokens := l.tokens.insertIdxIfInBounds position token }
    else l

/-- Asks for one more column of indentation. -/
def deepen (l : Layout) : Layout :=
  if !l.inFlow && l.inBlock then
    { l with outer := ⟨l.indent, false⟩ :: l.outer, indent := l.indent + 1 }
  else l

/-- The indentation of the innermost list or mapping, and those further out. -/
def innermost (indent : Int) : List Indent → Int × List Indent
  | [] => (indent, [])
  | i :: outer => if i.isBlock then (indent, i :: outer) else innermost i.outer outer

/-- Takes back what was asked for beyond the innermost list or mapping. -/
def restore (l : Layout) : Layout :=
  let (indent, outer) := innermost l.indent l.outer
  { l with indent, outer }

/-! ## Keys -/

/-- Remembers that a key may begin at hand. -/
def rememberKey (l : Layout) : Layout :=
  if l.keyAllowed then
    let isRequired := !l.inFlow && l.indent == l.head.column && l.inBlock
    { l with key? := some ⟨l.tokens.size, l.head.line, l.head.column, isRequired⟩ }
  else l

/-- What began is no key. -/
def dropKey? (l : Layout) : Option Layout :=
  match l.key? with
  | some key => if key.isRequired then none else some { l with key? := none }
  | none => some l

/-- In block style a key ends on its line and within 1024 characters. -/
def dropStaleKey? (l : Layout) : Option Layout :=
  match l.key? with
  | some key =>
    if !l.inFlow && (key.line < l.head.line || key.column + 1024 < l.head.column) then l.dropKey?
    else some l
  | none => some l

/-! ## Brackets -/

/-- The most brackets that can be open at a time. -/
def maxDepth : Nat := 255

/-- Begins a list or a mapping in brackets. -/
def openFlow? (l : Layout) (isList : Bool) : Option Layout := do
  let l := l.rememberKey.deepen
  let rest ← behind? l.source.tail
  if l.levels.length < maxDepth then
    let token := if isList then Token.flowListStart else .flowMappingStart
    some ({ l with
      levels := ⟨isList, l.key?⟩ :: l.levels
      key? := none
      keyAllowed := true }.push token rest)
  else none

/-- Ends a list or a mapping in brackets. -/
def closeFlow? (l : Layout) (token : Token) : Option Layout := do
  let l ← l.dropKey?
  let rest ← behind? l.source.tail
  let l :=
    match l.levels with
    | level :: levels => { l with levels, key? := level.key? }
    | [] => l
  let adjacent? :=
    if l.inFlow then some (rest.head.line, rest.head.column) else l.adjacent?
  some ({ l with keyAllowed := false, adjacent? }.push token rest)

/-- Reads a comma in brackets. -/
def comma? (l : Layout) : Option Layout := do
  let l ← l.dropKey?
  let rest ← behind? l.source.tail
  some ({ l with keyAllowed := true }.push .comma rest)

/-! ## Items, keys and values -/

/-- Whether a character at hand is followed by a gap. -/
def standsAlone (l : Layout) : Bool :=
  isGap l.source.next

/-- Reads the mark of an item. Tabs cannot stand between the marks of two items. -/
def item? (l : Layout) : Option Layout := do
  let gap ← gap? false false l.source.tail
  let rest := gap.rest
  if l.inFlow || !l.keyAllowed || (gap.hasTab && rest.char == '-' && isGap rest.next) then none
  else
    let l := l.openBlock l.head.column l.tokens.size .blockListStart
    let l := if rest.char == '\n' || isFlowMark rest.char then l.deepen else l
    let l ← l.dropKey?
    some ({ l with keyAllowed := true }.push .item rest)

/-- Reads the mark before a key. It is followed by a blank, and by no tab before the key. -/
def keyMark? (l : Layout) : Option Layout := do
  if !l.inFlow && !l.keyAllowed then none
  else
    let l := l.openBlock l.head.column l.tokens.size .blockMappingStart
    let l ← l.dropKey?
    let rest := skipLines false l.source.tail
    if l.source.next = '\t' ∨ l.source.next = endMark ∨ rest.char = '\t' then none
    else some ({ l with keyAllowed := !l.inFlow }.push .key rest)

/-- Takes in the mark of a value behind a key that began at `key`. -/
def valueOf? (l : Layout) (key : KeyStart) (rest : Source) : Option Layout :=
  let isPair := (l.levels.head?.map (·.isList)).getD false
  if isPair && key.line < l.head.line then none
  else
    let l := { l with tokens := l.tokens.insertIdxIfInBounds key.position .key }
    let l := (l.openBlock key.column key.position .blockMappingStart).deepen
    some ({ l with key? := none, keyAllowed := false }.push .value rest)

/-- Reads the mark of a value. A tab that is the only blank behind it cannot be followed by an item
or by a word that begins with a letter or a digit. -/
def value? (l : Layout) : Option Layout := do
  let rest ←
    if l.source.next = '\t' then
      (gap? false false l.source.tail).bind fun gap =>
        if !gap.hasSpace && isNameChar gap.rest.char then none else some gap.rest
    else some l.source.tail
  match l.key? with
  | some key => l.valueOf? key rest
  | none =>
    if l.inFlow then some ({ l with keyAllowed := false }.push .value rest)
    else if l.keyAllowed then
      let l := (l.openBlock l.head.column l.tokens.size .blockMappingStart).deepen
      some (l.push .value rest)
    else none

/-- Whether the colon at hand is the mark of a value. -/
def atValue (l : Layout) : Bool :=
  l.standsAlone
    || (l.inFlow && (isFlowMark l.source.next
      || l.adjacent? == some (l.head.line, l.head.column)))

/-! ## Scalars and what stands before them -/

/-- Reads an anchor or an alias. -/
def name? (l : Layout) (token : String → Token) : Option Layout :=
  let l := l.rememberKey
  (anchorName? l.source.tail).map fun (name, rest) =>
    { l with keyAllowed := false }.push (token name) rest

/-- Reads a tag. It is followed by a gap or, in flow style, by a comma or a bracket. -/
def tagMark? (l : Layout) : Option Layout := do
  let l := l.rememberKey
  let (token, rest) ← tag? l.source
  if isGap rest.char || (l.inFlow && isFlowMark rest.char) then
    some ({ l with keyAllowed := false }.push token rest)
  else none

/-- Reads a written scalar. -/
def writtenScalar? (l : Layout) (joins : Bool) : Option Layout :=
  let l := l.rememberKey.restore
  (written? joins l.indent l.source.tail).map fun (text, rest) =>
    { l with keyAllowed := true }.push (.scalar false text) rest

/-- Reads a quoted scalar and the gap behind it. -/
def quotedScalar? (l : Layout) : Option Layout := do
  let l := l.rememberKey
  let (text, rest) ← quoted? l.inFlow l.indent l.source
  let (rest, passed) ← skipGaps? l.indent false false false rest
  some ({ l with
    keyAllowed := !l.inFlow && passed
    adjacent? := some (rest.head.line, rest.head.column) }.push (.scalar false text) rest)

/-- Reads a plain scalar. A key may follow on a line of its own. -/
def plainScalar? (l : Layout) : Option Layout :=
  let l := l.rememberKey.restore
  (plain? l.inFlow (l.indent + 1) l.source).map fun (text, rest) =>
    { l with keyAllowed := rest.head.leads }.push (.scalar true text) rest

/-! ## Documents -/

/-- Reads a directive. -/
def directiveLine? (l : Layout) : Option Layout := do
  let l ← (l.closeBlocks (-1)).dropKey?
  let (token, rest) ← directive? l.source.tail
  some ({ l with keyAllowed := false }.push token rest)

/-- Reads the mark before a document. -/
def documentStart? (l : Layout) : Option Layout := do
  let l ← (l.closeBlocks (-1)).dropKey?
  some ({ l with keyAllowed := false }.push .documentStart (l.source.drop 3))

/-- Reads the mark behind a document. Nothing else stands on its line. -/
def documentEnd? (l : Layout) : Option Layout := do
  let l ← (l.closeBlocks (-1)).dropKey?
  let rest ← behind? (l.source.drop 3)
  if isLineEnd rest.char then some ({ l with keyAllowed := false }.push .documentEnd rest)
  else none

/-! ## Tokens -/

/-- Reads the token at hand. -/
def token? (l : Layout) : Option Layout :=
  if l.head.column == 0 && l.source.char == '%' then l.directiveLine?
  else if l.source.atMark '-' then l.documentStart?
  else if l.source.atMark '.' then l.documentEnd?
  else if (l.head.column : Int) < l.indent then none
  else
    match l.source.char with
    | '[' => l.openFlow? true
    | '\x7b' => l.openFlow? false
    | ']' => l.closeFlow? .flowListEnd
    | '\x7d' => l.closeFlow? .flowMappingEnd
    | ',' => l.comma?
    | '-' => if l.standsAlone then l.item? else l.plainScalar?
    | '?' => if l.standsAlone then l.keyMark? else l.plainScalar?
    | ':' => if l.atValue then l.value? else l.plainScalar?
    | '*' => l.name? .alias
    | '&' => l.name? .anchor
    | '!' => l.tagMark?
    | '|' => if l.inFlow then l.plainScalar? else l.writtenScalar? false
    | '>' => if l.inFlow then l.plainScalar? else l.writtenScalar? true
    | '\x27' | '\x22' => l.quotedScalar?
    | '%' | '@' | '\x60' => none
    | _ => l.plainScalar?

/-- Goes on to the next token, and ends the lists and mappings that end before it. A key may follow
at the beginning of a line. -/
def advance? (l : Layout) : Option Layout := do
  let (rest, passed) ← skipGaps? l.indent false false false l.source
  let l := { l with source := rest, keyAllowed := l.keyAllowed || (!l.inFlow && passed) }
  let l ← l.dropStaleKey?
  some (l.closeBlocks l.head.column)

/-- The tokens at the end of a text. -/
def finish? (l : Layout) : Option (List Token) := do
  let l ← (l.closeBlocks (-1)).dropKey?
  some (l.tokens.push .textEnd).toList

/-- The tokens of a text, of which `fuel` are still to be read at most. -/
def tokens? (fuel : Nat) (l : Layout) : Option (List Token) :=
  match fuel with
  | 0 => none
  | fuel + 1 =>
    match l.advance? with
    | none => none
    | some l => if l.source.char = endMark then l.finish? else l.token?.bind (tokens? fuel)

end Layout

/-- The tokens of a text. Each of them takes at least one character. -/
def Token.ofText? (s : String) : Option (List Token) :=
  let source := Source.ofText s
  (Layout.start source).tokens? source.length

end ContentSearch.Yaml
