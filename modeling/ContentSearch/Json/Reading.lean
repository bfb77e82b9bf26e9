import ContentSearch.Json.Token

/-!
# Reading JSON

The second half of reading JSON text: putting tokens together, with the lists and objects that are
still open on a stack.
-/

namespace ContentSearch.Json

/-- A list or object that is still open, its content in reverse; of an object also the name of the
member that is being read. -/
inductive Frame
  | list (items : List Json)
  | object (members : List (String × Json)) (name : String)

/-- What may come next. -/
inductive Expect
  | value
  | firstItem
  | firstName
  | name (members : List (String × Json))
  | colon (members : List (String × Json)) (name : String)
  | after (value : Json)

/-- The open lists and objects, innermost first, and what may come next. -/
structure Progress where
  stack : List Frame
  expect : Expect

/-- Opens a list or object, unless `depth` of them are open. -/
def Progress.push? (depth : Nat) (stack : List Frame) (frame : Frame) (expect : Expect) :
    Option Progress :=
  if stack.length < depth then some ⟨frame :: stack, expect⟩ else none

/-- A token where a value should begin. An open object waits on the stack without a name until its
first member. -/
def Progress.value? (depth : Nat) (stack : List Frame) : Token → Option Progress
  | .literal v => some ⟨stack, .after v⟩
  | .string s => some ⟨stack, .after (.text s)⟩
  | .openList => push? depth stack (.list []) .firstItem
  | .openObject => push? depth stack (.object [] "") .firstName
  | _ => none

/-- A token behind a complete value. -/
def Progress.after? (stack : List Frame) (v : Json) (token : Token) : Option Progress :=
  match stack, token with
  | .list items :: rest, .comma => some ⟨.list (v :: items) :: rest, .value⟩
  | .list items :: rest, .closeList => some ⟨rest, .after (.list (v :: items).reverse)⟩
  | .object members name :: rest, .comma =>
    some ⟨.object members name :: rest, .name ((name, v) :: members)⟩
  | .object members name :: rest, .closeObject =>
    some ⟨rest, .after (.object ((name, v) :: members).reverse)⟩
  | _, _ => none

/-- Takes in a token. -/
def Progress.step? (depth : Nat) (p : Progress) (token : Token) : Option Progress :=
  match p.expect, token with
  | .value, token => value? depth p.stack token
  | .firstItem, .closeList => some ⟨p.stack.tail, .after (.list [])⟩
  | .firstItem, token => value? depth p.stack token
  | .firstName, .closeObject => some ⟨p.stack.tail, .after (.object [])⟩
  | .firstName, .string name => some ⟨p.stack, .colon [] name⟩
  | .name members, .string name => some ⟨p.stack, .colon members name⟩
  | .colon members name, .colon => some ⟨.object members name :: p.stack.tail, .value⟩
  | .after v, token => after? p.stack v token
  | _, _ => none

/-- The value of a text that holds one JSON value and nothing else but blanks, in which lists and
objects stand in each other at most `depth` deep. -/
def ofTextWithin? (depth : Nat) (s : String) : Option Json :=
  match (scan? .between s.toList).bind (·.foldlM (Progress.step? depth) ⟨[], .value⟩) with
  | some ⟨[], .after v⟩ => some v
  | _ => none

/-- How deep lists and objects may stand in each other in a document. -/
def maxDepth : Nat := 127

/-- The value of a document. -/
def ofText? (s : String) : Option Json :=
  ofTextWithin? maxDepth s

end ContentSearch.Json
