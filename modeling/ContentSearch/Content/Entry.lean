import ContentSearch.Content.Name
import ContentSearch.Text.Casing
import ContentSearch.Value

/-!
# Entries

The units of content that can be found: an entry has an identifier, a name, a place in a hierarchy
and properties with values.
-/

namespace ContentSearch

/-- Bytes with what is known of them. The length is the length that was declared. -/
structure BinaryContent where
  bytes : List UInt8
  mimeType? : Option String
  encoding? : Option String
  length : UInt64
  deriving DecidableEq

namespace BinaryContent

/-- Bytes with their own length. -/
def ofBytes (bytes : List UInt8) : BinaryContent :=
  ⟨bytes, none, none, UInt64.ofNat bytes.length⟩

/-- Whether bytes in this encoding can be read as text. -/
def isTextEncoding (encoding : String) : Bool :=
  Text.sameAscii encoding "utf-8" || Text.sameAscii encoding "utf8"

/-- The bytes as text, if they are well-formed and no other encoding is named. -/
def text? (b : BinaryContent) : Option String :=
  match b.encoding? with
  | none => Text.Utf8.decode? b.bytes
  | some encoding => if isTextEncoding encoding then Text.Utf8.decode? b.bytes else none

end BinaryContent

/-- What a property holds. -/
inductive PropertyContent
  | values (values : List Value)
  | binary (content : BinaryContent)
  deriving DecidableEq

/-- The first value of a property; bytes are one value. -/
def PropertyContent.first? : PropertyContent → Option Value
  | .values vs => vs.head?
  | .binary b => some (.binary b.bytes)

/-- A property of an entry. -/
structure Property where
  name : String
  type : PropertyType
  content : PropertyContent
  deriving DecidableEq

namespace Property

/-- A property with one value, of the value's type. -/
def single (name : String) (v : Value) : Property :=
  ⟨name, v.type, .values [v]⟩

/-- A property with any number of values. -/
def multi (name : String) (type : PropertyType) (vs : List Value) : Property :=
  ⟨name, type, .values vs⟩

/-- A property that holds bytes. -/
def binary (name : String) (b : BinaryContent) : Property :=
  ⟨name, .binary, .binary b⟩

end Property

/-- An entry. Its parents are listed from the nearest to the farthest. -/
structure Entry where
  identifier : String
  name : String
  path? : Option String
  tables : List String
  parents : List String
  properties : List Property
  deriving DecidableEq

namespace Entry

/-- An entry of no table, without path, parents and properties. -/
def named (identifier name : String) : Entry :=
  ⟨identifier, name, none, [], [], []⟩

/-- The same entry at another path. -/
def withPath (e : Entry) (path : String) : Entry :=
  { e with path? := some path }

/-- The same entry in one more table. -/
def inTable (e : Entry) (table : String) : Entry :=
  { e with tables := e.tables ++ [table] }

/-- The same entry with other parents, the nearest first. -/
def withParents (e : Entry) (parents : List String) : Entry :=
  { e with parents := parents }

/-- The same entry with one more property. -/
def withProperty (e : Entry) (p : Property) : Entry :=
  { e with properties := e.properties ++ [p] }

/-- The name without its namespace. -/
def localName (e : Entry) : String :=
  Content.localName e.name

/-- The nearest parent. -/
def parent? (e : Entry) : Option String :=
  e.parents.head?

/-- The number of parents. -/
def depth (e : Entry) : Nat :=
  e.parents.length

/-- The first property of this name. -/
def property? (e : Entry) (name : String) : Option Property :=
  e.properties.find? fun p => p.name == name

end Entry

end ContentSearch
