import ContentSearch.OrderedMap
import ContentSearch.Predicate
import ContentSearch.SortedSet
import ContentSearch.Text.Casing

/-!
# The index of a field

For each term of one field, the documents that have it: once by the terms as they are, and once by
the terms in lower case, for comparisons without regard to case. The terms of each document are
kept as well, so that a document can be taken out again.
-/

namespace ContentSearch

/-- A set of documents by their numbers. -/
abbrev DocSet := SortedSet Nat

/-- The documents of each term. -/
abbrev Postings := OrderedMap String DocSet

namespace Postings

/-- The documents of a term. -/
def docs (p : Postings) (term : String) : DocSet :=
  (p.get? term).getD SortedSet.empty

/-- Adds a document to a term. -/
def add (p : Postings) (doc : Nat) (term : String) : Postings :=
  p.insert term ((p.docs term).insert doc)

/-- Takes a document out of a term, and the term out when no document is left. -/
def remove (p : Postings) (doc : Nat) (term : String) : Postings :=
  match p.get? term with
  | none => p
  | some docs =>
    let rest := docs.erase doc
    if rest.isEmpty then p.erase term else p.insert term rest

/-- The documents of all terms that pass a test. -/
def collect (p : Postings) (test : String → Bool) : DocSet :=
  p.entries.foldl (fun found e => if test e.1 then found.union e.2 else found) SortedSet.empty

end Postings

namespace Bound

/-- Whether a term is not below a lower end. -/
def admitsAbove (bound : Bound) (term : String) : Bool :=
  match bound with
  | .unbounded => true
  | .included t => decide (t ≤ term)
  | .excluded t => decide (t < term)

/-- Whether a term is not above an upper end. -/
def admitsBelow (bound : Bound) (term : String) : Bool :=
  match bound with
  | .unbounded => true
  | .included t => decide (term ≤ t)
  | .excluded t => decide (term < t)

/-- Changes the term of a bound. -/
def map (f : String → String) : Bound → Bound
  | .unbounded => .unbounded
  | .included t => .included (f t)
  | .excluded t => .excluded (f t)

end Bound

/-- The index of one field. -/
structure FieldIndex where
  terms : Postings
  folded : Postings
  present : DocSet
  docTerms : OrderedMap Nat (SortedSet String)

namespace FieldIndex

/-- The index without documents. -/
def empty : FieldIndex :=
  ⟨OrderedMap.empty, OrderedMap.empty, SortedSet.empty, OrderedMap.empty⟩

/-- Whether no document has a term. -/
def isEmpty (f : FieldIndex) : Bool :=
  f.present.isEmpty

/-- The terms of a document. -/
def termsOf? (f : FieldIndex) (doc : Nat) : Option (SortedSet String) :=
  f.docTerms.get? doc

/-! ## Changes -/

/-- Adds terms to those that a document has. -/
def insert (f : FieldIndex) (doc : Nat) (added : List String) : FieldIndex :=
  let all := added.foldl SortedSet.insert ((f.termsOf? doc).getD SortedSet.empty)
  if all.isEmpty then f
  else
    { terms := all.toList.foldl (·.add doc ·) f.terms
      folded := all.toList.foldl (fun p t => p.add doc (Text.lower t)) f.folded
      present := f.present.insert doc
      docTerms := f.docTerms.insert doc all }

/-- Takes a document out. -/
def remove (f : FieldIndex) (doc : Nat) : FieldIndex :=
  let old := ((f.termsOf? doc).getD SortedSet.empty).toList
  { terms := old.foldl (·.remove doc ·) f.terms
    folded := old.foldl (fun p t => p.remove doc (Text.lower t)) f.folded
    present := f.present.erase doc
    docTerms := f.docTerms.erase doc }

/-! ## Questions -/

/-- The postings to look into: those of the terms as they are, or of the terms in lower case. -/
def postings (f : FieldIndex) (caseSensitive : Bool) : Postings :=
  if caseSensitive then f.terms else f.folded

/-- A text as it is looked up. -/
def lookupKey (caseSensitive : Bool) (s : String) : String :=
  if caseSensitive then s else Text.lower s

/-- The documents with a term. -/
def term (f : FieldIndex) (value : String) (caseSensitive : Bool) : DocSet :=
  (f.postings caseSensitive).docs (lookupKey caseSensitive value)

/-- The documents with a term between two bounds. -/
def range (f : FieldIndex) (lower upper : Bound) (caseSensitive : Bool) : DocSet :=
  let lower := lower.map (lookupKey caseSensitive)
  let upper := upper.map (lookupKey caseSensitive)
  (f.postings caseSensitive).collect fun t => lower.admitsAbove t && upper.admitsBelow t

/-- The documents with a term that passes a test. -/
def matching (f : FieldIndex) (test : String → Bool) (caseSensitive : Bool) : DocSet :=
  (f.postings caseSensitive).collect test

end FieldIndex

end ContentSearch
