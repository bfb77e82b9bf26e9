import ContentSearch.OrderedMap
import ContentSearch.Yaml.Node
import ContentSearch.Yaml.Token

/-!
# Documents

Reading a value from tokens. An alias stands for the value that its anchor was put on last, and for
nothing while that value is being read.
-/

namespace ContentSearch.Yaml

/-- The rest of the tokens, and what was said about tags and anchors before them. -/
structure Progress where
  tokens : List Token
  /-- The beginnings of tags that handles stand for. -/
  handles : List (String × String)
  /-- The anchors by their names, the last one first; each has a number. -/
  anchors : List (String × Nat)
  /-- The values of anchors by their numbers. -/
  values : List (Nat × Node)

/-- A reader of tokens. -/
abbrev Reader := StateT Progress Option

namespace Reader

/-! ## Tokens -/

/-- The token at hand. -/
def peek : Reader Token :=
  return (← get).tokens.headD .textEnd

/-- Goes on to the next token. -/
def skip : Reader Unit :=
  modify fun p => { p with tokens := p.tokens.tail }

/-- Takes a token that has to be at hand. -/
def expect (token : Token) : Reader Unit := do
  if (← peek) = token then skip else failure

/-- Takes a token if it is at hand. -/
def take (token : Token) : Reader Bool := do
  if (← peek) = token then
    skip
    return true
  else return false

/-! ## Anchors and tags -/

/-- The value that an alias stands for. -/
def aliased (name : String) : Reader Node := do
  match OrderedMap.findEntry name (← get).anchors with
  | none => failure
  | some number =>
    return ((← get).values.lookup number).getD .unreadable

/-- Remembers an anchor, whose value is still to come. -/
def addAnchor (name : String) : Reader Nat := do
  let number := (← get).anchors.length
  modify fun p => { p with anchors := (name, number) :: p.anchors }
  return number

/-- Remembers the value of an anchor. -/
def setValue (number? : Option Nat) (v : Node) : Reader Unit :=
  match number? with
  | some number => modify fun p => { p with values := (number, v) :: p.values }
  | none => return ()

/-- Whether a handle needs a directive: one that has a name between exclamation marks. -/
def needsMeaning (handle : String) : Bool :=
  2 ≤ handle.length && handle.startsWith "!" && handle.endsWith "!"

/-- The tag of a handle and a suffix. -/
def resolve (handle suffix : String) : Reader Tag := do
  match OrderedMap.findEntry handle (← get).handles with
  | some beginning => return ⟨beginning, suffix⟩
  | none =>
    if handle = "!!" then return ⟨Tag.known, suffix⟩
    else if needsMeaning handle then failure
    else return ⟨handle, suffix⟩

/-- Reads the anchor and the tag before a value, in either order. -/
def properties : Reader (Option Nat × Option Tag) := do
  match ← peek with
  | .anchor name =>
    skip
    let number ← addAnchor name
    match ← peek with
    | .tag handle suffix =>
      skip
      return (some number, some (← resolve handle suffix))
    | _ => return (some number, none)
  | .tag handle suffix =>
    skip
    let tag ← resolve handle suffix
    match ← peek with
    | .anchor name =>
      skip
      return (some (← addAnchor name), some tag)
    | _ => return (none, some tag)
  | _ => return (none, none)

end Reader

/-! ## Values -/

namespace Node

open Reader

mutual

/-- Reads a value. Lists and mappings in block style are allowed if `isBlock` holds, and items that
are not indented further than the key before them if `atKey` holds. -/
def read (fuel : Nat) (isBlock atKey : Bool) : Reader Node :=
  match fuel with
  | 0 => failure
  | fuel + 1 => do
    match ← peek with
    | .alias name =>
      skip
      aliased name
    | _ =>
      let (anchor?, tag?) ← properties
      let v ← readBare fuel isBlock atKey (anchor?.isSome || tag?.isSome) tag?
      setValue anchor? v
      return v

/-- Reads a value behind its anchor and its tag. If there are any, it may be missing. -/
def readBare (fuel : Nat) (isBlock atKey mayMiss : Bool) (tag? : Option Tag) : Reader Node :=
  match fuel with
  | 0 => failure
  | fuel + 1 => do
    match ← peek with
    | .scalar isPlain s =>
      skip
      return .scalar (.ofToken isPlain tag? s)
    | .flowListStart =>
      skip
      return .list (← readFlowItems fuel true)
    | .flowMappingStart =>
      skip
      return .mapping (members (← readFlowMembers fuel true))
    | .item =>
      if atKey then return .list (← readItems fuel)
      else if mayMiss then return .scalar (.ofToken true tag? "")
      else failure
    | .blockListStart =>
      if isBlock then
        skip
        let items ← readItems fuel
        expect .blockEnd
        return .list items
      else failure
    | .blockMappingStart =>
      if isBlock then
        skip
        return .mapping (members (← readMembers fuel))
      else failure
    | _ => if mayMiss then return .scalar (.ofToken true tag? "") else failure

/-- Reads items in block style. -/
def readItems (fuel : Nat) : Reader (List Node) :=
  match fuel with
  | 0 => failure
  | fuel + 1 => do
    if ← take .item then
      let v ←
        match ← peek with
        | .item | .key | .value | .blockEnd => pure missing
        | _ => read fuel true false
      return v :: (← readItems fuel)
    else return []

/-- Reads keys and values in block style. -/
def readMembers (fuel : Nat) : Reader (List Node) :=
  match fuel with
  | 0 => failure
  | fuel + 1 => do
    match ← peek with
    | .blockEnd =>
      skip
      return []
    | .key =>
      skip
      let key ← readOrMiss fuel
      let v ← readValue fuel
      return key :: v :: (← readMembers fuel)
    | .value =>
      let v ← readValue fuel
      return missing :: v :: (← readMembers fuel)
    | _ => failure

/-- Reads a value in block style behind the mark of a value, if there is the mark. -/
def readValue (fuel : Nat) : Reader Node :=
  match fuel with
  | 0 => failure
  | fuel + 1 => do
    if ← take .value then readOrMiss fuel else return missing

/-- Reads a key or a value in block style, which may be missing. -/
def readOrMiss (fuel : Nat) : Reader Node :=
  match fuel with
  | 0 => failure
  | fuel + 1 => do
    match ← peek with
    | .key | .value | .blockEnd => return missing
    | _ => read fuel true true

/-- Reads items in brackets. -/
def readFlowItems (fuel : Nat) (isFirst : Bool) : Reader (List Node) :=
  match fuel with
  | 0 => failure
  | fuel + 1 => do
    if ← take .flowListEnd then return []
    else
      if !isFirst then expect .comma
      match ← peek with
      | .flowListEnd =>
        skip
        return []
      | .key =>
        skip
        let key ← readInFlow fuel
        let v ← readFlowValue fuel
        return .mapping (members [key, v]) :: (← readFlowItems fuel false)
      | _ =>
        let v ← read fuel false false
        return v :: (← readFlowItems fuel false)

/-- Reads keys and values in brackets. -/
def readFlowMembers (fuel : Nat) (isFirst : Bool) : Reader (List Node) :=
  match fuel with
  | 0 => failure
  | fuel + 1 => do
    if ← take .flowMappingEnd then return []
    else
      if !isFirst then expect .comma
      match ← peek with
      | .flowMappingEnd =>
        skip
        return []
      | .key =>
        skip
        let key ← readInFlow fuel
        let v ← readFlowValue fuel
        return key :: v :: (← readFlowMembers fuel false)
      | .value =>
        let v ← readFlowValue fuel
        return missing :: v :: (← readFlowMembers fuel false)
      | _ =>
        let key ← read fuel false false
        return key :: missing :: (← readFlowMembers fuel false)

/-- Reads a value in brackets behind the mark of a value, if there is the mark. -/
def readFlowValue (fuel : Nat) : Reader Node :=
  match fuel with
  | 0 => failure
  | fuel + 1 => do
    if ← take .value then readInFlow fuel else return missing

/-- Reads a key or a value in brackets, which may be missing. -/
def readInFlow (fuel : Nat) : Reader Node :=
  match fuel with
  | 0 => failure
  | fuel + 1 => do
    match ← peek with
    | .value | .comma | .flowListEnd | .flowMappingEnd => return missing
    | _ => read fuel false false

end

end Node

/-! ## Documents -/

namespace Document

open Reader

/-- Reads the directives before a document. There is one for the version at most. -/
def readDirectives (hasVersion : Bool) : List Token → Reader Unit
  | .versionDirective :: rest => do
    if hasVersion then failure
    else
      skip
      readDirectives true rest
  | .tagDirective handle beginning :: rest => do
    modify fun p => { p with handles := (handle, beginning) :: p.handles }
    skip
    readDirectives hasVersion rest
  | _ => return ()

/-- Whether a token stands between documents. -/
def isBetween : Token → Bool
  | .versionDirective | .tagDirective .. | .documentStart | .documentEnd | .textEnd => true
  | _ => false

/-- Reads a document. -/
def read (fuel : Nat) : Reader Node := do
  let tokens := (← get).tokens
  if isBetween (← peek) then
    readDirectives false tokens
    expect .documentStart
    if isBetween (← peek) then return .missing else Node.read fuel true false
  else Node.read fuel true false

/-- The values of the documents in a text; none or one. -/
def ofTokens? (tokens : List Token) : Option (Option Node) :=
  match tokens.dropWhile (· = .documentEnd) with
  | [.textEnd] => some none
  | tokens => do
    let (v, p) ← (read (4 * tokens.length + 4)).run ⟨tokens, [], [], []⟩
    if p.tokens.all fun t => t = .documentEnd ∨ t = .textEnd then some (some v) else none

end Document

end ContentSearch.Yaml
