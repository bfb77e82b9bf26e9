import ContentSearch.Json
import ContentSearch.Number.Integer

/-!
# Reading parts of JSON values

What the readers of documents have in common: numbers in range, lists, records whose known members
occur at most once, and members that may be missing.
-/

namespace ContentSearch.Json

open Number

/-! ## Simple values -/

/-- A text. -/
def text? : Json → Option String
  | .text s => some s
  | _ => none

/-- A truth value. -/
def bool? : Json → Option Bool
  | .bool b => some b
  | _ => none

/-- An integer of 64 bits. -/
def int64? : Json → Option Int64
  | .int n => Number.int64? n
  | _ => none

/-- A natural number below a limit. -/
def natBelow? (limit : Nat) : Json → Option Nat
  | .int (.ofNat n) => if n < limit then some n else none
  | _ => none

/-- A natural number of 64 bits. -/
def uint64? (j : Json) : Option UInt64 :=
  (j.natBelow? 0x10000000000000000).map UInt64.ofNat

/-- A byte. -/
def byte? (j : Json) : Option UInt8 :=
  (j.natBelow? 256).map UInt8.ofNat

/-- Any number. -/
def double? : Json → Option Binary64
  | .int n => some (Binary64.ofInt n)
  | .real x => some x
  | _ => none

/-- A list, each item of which can be read. -/
def listOf? {α : Type} (item? : Json → Option α) : Json → Option (List α)
  | .list items => items.mapM item?
  | _ => none

/-- A list of texts. -/
def texts? : Json → Option (List String) :=
  listOf? text?

/-- Bytes as a list of numbers, or as a text. -/
def bytes? : Json → Option (List UInt8)
  | .text s => some s.toUTF8.toList
  | j => listOf? byte? j

/-- An object whose values can be read; of several members of one name the last one counts. -/
def membersOf? {α : Type} (value? : Json → Option α) : Json → Option (List (String × α))
  | .object members => members.mapM fun m => (value? m.2).map fun v => (m.1, v)
  | _ => none

/-- The name of one of several plain values: a text, or an object whose single member is null. -/
def name? : Json → Option String
  | .text s => some s
  | .object [(s, .null)] => some s
  | _ => none

/-! ## Records -/

/-- The fields of a record that is read from a value, each smaller than the value. -/
structure Fields (j : Json) where
  members : List (String × Json)
  sizeOf_lt : ∀ m ∈ members, sizeOf m.2 < sizeOf j

theorem sizeOf_lt_of_mem_members {members : List (String × Json)} {m : String × Json}
    (h : m ∈ members) : sizeOf m.2 < sizeOf (Json.object members) := by
  have := List.sizeOf_lt_of_mem h
  obtain ⟨name, v⟩ := m
  simp at this ⊢
  omega

theorem sizeOf_lt_of_mem_zip {names : List String} {items : List Json} {m : String × Json}
    (h : m ∈ names.zip items) : sizeOf m.2 < sizeOf (Json.list items) := by
  have := List.sizeOf_lt_of_mem (List.of_mem_zip h).2
  simp
  omega

/-- The fields of a record with the given names. A record is an object in which none of the names
occurs twice, or the list of the values in the order of the names, of which the last ones may be
left out. -/
def fields? (names : List String) : (j : Json) → Option (Fields j)
  | .object members =>
    if names.all fun name => Nat.ble (members.countP fun m => m.1 == name) 1 then
      some ⟨members, fun _ h => sizeOf_lt_of_mem_members h⟩
    else none
  | .list items =>
    if items.length ≤ names.length then
      some ⟨names.zip items, fun _ h => sizeOf_lt_of_mem_zip h⟩
    else none
  | _ => none

namespace Fields

variable {j : Json}

/-- A field that must be there. -/
def required? {α : Type} (fields : Fields j) (name : String) (value? : Json → Option α) :
    Option α :=
  (findMember name fields.members).bind value?

/-- A field that may be missing or null. -/
def optional? {α : Type} (fields : Fields j) (name : String) (value? : Json → Option α) :
    Option (Option α) :=
  match findMember name fields.members with
  | none => some none
  | some .null => some none
  | some v => (value? v).map some

/-- A field that may be missing but not null. -/
def defaulted? {α : Type} (fields : Fields j) (name : String) (standard : α)
    (value? : Json → Option α) : Option α :=
  match findMember name fields.members with
  | none => some standard
  | some v => value? v

/-- A field that must be there, as a value smaller than the record. -/
def child? (fields : Fields j) (name : String) : Option { v : Json // sizeOf v < sizeOf j } :=
  match h : findMember name fields.members with
  | some v => some ⟨v, fields.sizeOf_lt _ (mem_of_findMember h)⟩
  | none => none

end Fields

/-! ## Parts by size -/

/-- The single member of an object, whose value is smaller than the object. -/
def case? (j : Json) : Option (String × { v : Json // sizeOf v < sizeOf j }) :=
  match h : j.variant? with
  | some (tag, v) => some (tag, ⟨v, sizeOf_variant? h⟩)
  | none => none

end ContentSearch.Json
