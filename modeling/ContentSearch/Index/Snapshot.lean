import ContentSearch.Content.Entry
import ContentSearch.Index.Field
import ContentSearch.Index.FullText
import ContentSearch.Index.Term
import ContentSearch.Pattern.Wildcard

/-!
# Snapshots

A snapshot holds entries under document numbers, and for every field the index of its terms. An
entry that is indexed again gets a new number. Predicates are answered from the indexes alone.
-/

namespace ContentSearch

/-! ## Terms of an entry -/

/-- The terms, lengths and texts of a property. -/
structure PropertyTerms where
  terms : List String
  lengths : List String
  texts : List String

/-- The text of a value that can be searched word by word. -/
def Value.searchText? : Value → Option String
  | .binary bytes => Text.Utf8.decode? bytes
  | v => v.asText?

/-- What is indexed of a property. Bytes have a length in any case, a term only if they are
text. -/
def PropertyContent.indexed : PropertyContent → PropertyTerms
  | .values vs =>
    { terms := vs.map Term.ofValue
      lengths := vs.map fun v => Term.ofCount v.length
      texts := vs.filterMap Value.searchText? }
  | .binary b =>
    { terms := b.text?.toList
      lengths := [Term.ofCount b.length.toNat]
      texts := b.text?.toList }

namespace Entry

/-- The tokens of a property. -/
def tokensOf (p : Property) : List String :=
  p.content.indexed.texts.flatMap Text.tokens

/-- The fields of a property in a table. -/
def propertyFields (table : String) (p : Property) : List (String × List String) :=
  [(Field.property table p.name, p.content.indexed.terms),
    (Field.length table p.name, p.content.indexed.lengths),
    (Field.text table p.name, tokensOf p)]

/-- The fields of a table of the entry. -/
def tableFields (e : Entry) (table : String) : List (String × List String) :=
  e.properties.flatMap (propertyFields table)
    ++ [(Field.tableText table, e.properties.flatMap tokensOf)]

/-- The terms of the entry by field. A field can be listed more than once, and fields without
terms are not indexed. -/
def fieldTerms (e : Entry) : List (String × List String) :=
  [(Field.id, [e.identifier]), (Field.name, [e.name]), (Field.localName, [e.localName]),
    (Field.ancestor, e.parents), (Field.depth, [Term.ofCount e.depth]), (Field.table, e.tables),
    (Field.parent, e.parent?.toList)]
    ++ e.tables.flatMap e.tableFields

end Entry

/-! ## Snapshots -/

/-- The indexes by field, the entries by document number, the numbers by identifier, the owners of
paths, the numbers in use, and the next number. -/
structure Snapshot where
  fields : OrderedMap String FieldIndex
  entries : OrderedMap Nat Entry
  docIds : OrderedMap String Nat
  paths : OrderedMap String String
  live : DocSet
  nextDoc : Nat

/-- The document numbers have 32 bits, and the last one is never given out. -/
def lastDoc : Nat := 0xffffffff

/-- All document numbers have been given out. -/
inductive IndexFull
  | exhausted
  deriving DecidableEq

namespace Snapshot

/-- The snapshot without entries. -/
def empty : Snapshot :=
  ⟨OrderedMap.empty, OrderedMap.empty, OrderedMap.empty, OrderedMap.empty, SortedSet.empty, 0⟩

/-- The number of entries. -/
def size (s : Snapshot) : Nat :=
  s.entries.size

/-- Whether there are no entries. -/
def isEmpty (s : Snapshot) : Bool :=
  s.entries.entries.isEmpty

/-- The entry of a document number. -/
def entry? (s : Snapshot) (doc : Nat) : Option Entry :=
  s.entries.get? doc

/-- The index of a field. -/
def field? (s : Snapshot) (field : String) : Option FieldIndex :=
  s.fields.get? field

/-- Whether there is an entry with the identifier. -/
def contains (s : Snapshot) (identifier : String) : Bool :=
  s.docIds.contains identifier

/-- The identifier that a path leads to. -/
def resolve (s : Snapshot) (path : String) : Option String :=
  s.paths.get? path

/-! ## Changes -/

/-- Adds the terms of a document to the index of a field. -/
def addTerms (doc : Nat) (fields : OrderedMap String FieldIndex) (e : String × List String) :
    OrderedMap String FieldIndex :=
  if e.2.isEmpty then fields
  else fields.insert e.1 (((fields.get? e.1).getD FieldIndex.empty).insert doc e.2)

/-- Takes a document out of all indexes; fields without documents are dropped. -/
def removeTerms (doc : Nat) (fields : OrderedMap String FieldIndex) :
    OrderedMap String FieldIndex :=
  (fields.map (·.remove doc)).filter fun _ f => !f.isEmpty

/-- Gives up a path, if it leads to this identifier. -/
def releasePath (paths : OrderedMap String String) (identifier : String) (path? : Option String) :
    OrderedMap String String :=
  match path? with
  | some path => if paths.get? path = some identifier then paths.erase path else paths
  | none => paths

/-- Drops an entry, and tells whether there was one. -/
def remove (s : Snapshot) (identifier : String) : Snapshot × Bool :=
  match s.docIds.get? identifier with
  | none => (s, false)
  | some doc =>
    ({ s with
        docIds := s.docIds.erase identifier
        live := s.live.erase doc
        entries := s.entries.erase doc
        paths := releasePath s.paths identifier ((s.entries.get? doc).bind (·.path?))
        fields := removeTerms doc s.fields }, true)

/-- Indexes an entry under the next number. -/
def place (s : Snapshot) (e : Entry) : Snapshot :=
  { fields := e.fieldTerms.foldl (addTerms s.nextDoc) s.fields
    entries := s.entries.insert s.nextDoc e
    docIds := s.docIds.insert e.identifier s.nextDoc
    paths := match e.path? with
      | some path => s.paths.insert path e.identifier
      | none => s.paths
    live := s.live.insert s.nextDoc
    nextDoc := s.nextDoc + 1 }

/-- Indexes an entry in place of an earlier one with its identifier. The earlier one is dropped
first, also when no number is left for the new one. -/
def insert (s : Snapshot) (e : Entry) : Snapshot × Except IndexFull Unit :=
  let (cleared, _) := s.remove e.identifier
  if cleared.nextDoc < lastDoc then (cleared.place e, .ok ())
  else (cleared, .error .exhausted)

/-! ## Predicates -/

/-- Asks the index of a field; a field that does not exist has no documents. -/
def onField (s : Snapshot) (field : String) (ask : FieldIndex → DocSet) : DocSet :=
  match s.field? field with
  | some f => ask f
  | none => SortedSet.empty

/-- The documents with a term that matches a regular expression. -/
def matchingDocs (engine : Regex.Engine) (s : Snapshot) (field expression : String)
    (caseSensitive : Bool) : Except InvalidPattern DocSet :=
  (engine.compile expression caseSensitive).map fun test =>
    s.onField field (·.matching test caseSensitive)

mutual

/-- The documents that satisfy a predicate, whose expressions an engine compiles. As soon as no
document is left for the clauses that must hold, no further clause is looked at. -/
def evaluateWith (engine : Regex.Engine) (s : Snapshot) :
    Predicate → Except InvalidPattern DocSet
  | .term field value cs => .ok (s.onField field (·.term value cs))
  | .range field lower upper cs => .ok (s.onField field (·.range lower upper cs))
  | .wildcard field pattern cs => s.matchingDocs engine field (Wildcard.regex pattern) cs
  | .regex field pattern cs => s.matchingDocs engine field pattern cs
  | .hasTerm field => .ok (s.onField field (·.present))
  | .fullText field expression =>
    .ok ((SearchExpression.ofText expression).docs (s.field? field) s.live)
  | .everything => .ok s.live
  | .nothing => .ok SortedSet.empty
  | .combined must should mustNot => do
    match ← s.narrow engine s.live must with
    | none => .ok SortedSet.empty
    | some docs =>
      let docs ← if should.isEmpty then .ok docs
        else (s.unite engine SortedSet.empty should).map docs.inter
      s.exclude engine docs mustNot

/-- The documents that satisfy all clauses, `none` when a clause leaves no document. -/
def narrow (engine : Regex.Engine) (s : Snapshot) (docs : DocSet) :
    List Predicate → Except InvalidPattern (Option DocSet)
  | [] => .ok (some docs)
  | p :: rest => do
    let left := docs.inter (← s.evaluateWith engine p)
    if left.isEmpty then .ok none else s.narrow engine left rest

/-- Adds the documents that satisfy one of the clauses. -/
def unite (engine : Regex.Engine) (s : Snapshot) (docs : DocSet) :
    List Predicate → Except InvalidPattern DocSet
  | [] => .ok docs
  | p :: rest => do
    let more := docs.union (← s.evaluateWith engine p)
    s.unite engine more rest

/-- Takes out the documents that satisfy one of the clauses. -/
def exclude (engine : Regex.Engine) (s : Snapshot) (docs : DocSet) :
    List Predicate → Except InvalidPattern DocSet
  | [] => .ok docs
  | p :: rest => do
    let left := docs.diff (← s.evaluateWith engine p)
    s.exclude engine left rest

end

/-- The documents that satisfy a predicate. -/
def evaluate (s : Snapshot) (p : Predicate) : Except InvalidPattern DocSet :=
  s.evaluateWith Regex.engine p

/-! ## Scores -/

mutual

/-- How many full-text tokens of a predicate a document has, in the clauses that must or should
hold. -/
def hits (s : Snapshot) (doc : Nat) : Predicate → Nat
  | .fullText field expression =>
    match s.field? field with
    | some f => (SearchExpression.ofText expression).hits f doc
    | none => 0
  | .combined must should _ => s.totalHits doc must + s.totalHits doc should
  | _ => 0

/-- The sum over several clauses. -/
def totalHits (s : Snapshot) (doc : Nat) : List Predicate → Nat
  | [] => 0
  | p :: rest => s.hits doc p + s.totalHits doc rest

end

end Snapshot

end ContentSearch
