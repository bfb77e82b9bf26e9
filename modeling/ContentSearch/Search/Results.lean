import ContentSearch.Index.Snapshot
import ContentSearch.Number.Binary64
import ContentSearch.Plan.Basic

/-!
# Results

Carrying out a plan on a snapshot: the entries that satisfy the predicate are sorted by the keys
of the plan, entries with equal keys by their identifiers, and a part of them is shown.
-/

namespace ContentSearch

/-- An entry of the result, with the values of the columns. -/
structure Row where
  identifier : String
  score : Nat
  values : List (Option Value)

/-- The names of the columns, and the rows. -/
structure Results where
  columns : List String
  rows : List Row

/-- The identifiers of the rows. -/
def Results.identifiers (r : Results) : List String :=
  r.rows.map (·.identifier)

/-- The score for a number of hits: the number, kept to 24 significant bits. -/
def scoreOfHits (hits : Nat) : Nat :=
  let spacing := Nat.pow 2 (hits.log2 - 23)
  Number.Binary64.roundEven hits spacing * spacing

/-- The score of a document. -/
def Snapshot.score (s : Snapshot) (p : Predicate) (doc : Nat) : Nat :=
  scoreOfHits (s.hits doc p)

/-- A document that satisfies the predicate. -/
structure Hit where
  doc : Nat
  entry : Entry
  score : Nat

namespace Plan

/-! ## Order -/

/-- What an entry is sorted by in a field: its least term. -/
def sortTerm (s : Snapshot) (field : String) (caseSensitive : Bool) (doc : Nat) :
    Option String :=
  (((s.field? field).bind fun f => f.termsOf? doc).bind fun ts => ts.toList.head?).map
    (FieldIndex.lookupKey caseSensitive)

/-- Texts in order, no text before any. -/
def compareTerms : Option String → Option String → Ordering
  | none, none => .eq
  | none, some _ => .lt
  | some _, none => .gt
  | some a, some b => compareOfLessAndEq a b

/-- The order of two hits by one key. -/
def compareByKey (s : Snapshot) (key : SortKey) (a b : Hit) : Ordering :=
  let ascending := match key.field with
    | .score => compareOfLessAndEq a.score b.score
    | .field field =>
      compareTerms (sortTerm s field key.caseSensitive a.doc)
        (sortTerm s field key.caseSensitive b.doc)
  match key.direction with
  | .ascending => ascending
  | .descending => ascending.swap

/-- The order of two hits: by the first key that tells them apart, else by identifier. -/
def compareHits (s : Snapshot) (keys : List SortKey) (a b : Hit) : Ordering :=
  keys.foldr (fun key rest => (compareByKey s key a b).then rest)
    (compareOfLessAndEq a.entry.identifier b.entry.identifier)

/-- The hits in order. -/
def sortHits (s : Snapshot) (keys : List SortKey) (hits : List Hit) : List Hit :=
  hits.mergeSort fun a b => compareHits s keys a b != .gt

/-! ## Rows -/

/-- The property that a column shows. -/
def shownProperty (p : Plan) (c : PlanColumn) : String :=
  match p.selectors.find? fun s => s.name == c.selector with
  | some s => s.physicalProperty c.property
  | none => c.property

/-- The value that a column shows of an entry: the first one of its property. -/
def shownValue (p : Plan) (e : Entry) (c : PlanColumn) : Option Value :=
  (e.property? (p.shownProperty c)).bind fun property => property.content.first?

/-- The row of a hit. -/
def row (p : Plan) (h : Hit) : Row :=
  ⟨h.entry.identifier, h.score, p.columns.map (p.shownValue h.entry)⟩

/-- The hits of a snapshot in the order of their numbers. An engine compiles the expressions of the
predicate. -/
def hitsWith (engine : Regex.Engine) (p : Plan) (s : Snapshot) :
    Except InvalidPattern (List Hit) :=
  (s.evaluateWith engine p.predicate).map fun docs => docs.toList.filterMap fun doc =>
    s.entry? doc |>.map fun entry => ⟨doc, entry, s.score p.predicate doc⟩

/-- The part of a sequence that is shown. -/
def slice {α : Type} (l : Limit) (hits : List α) : List α :=
  (hits.drop l.offset.toNat).take l.rows.toNat

/-- Carries out a plan, an engine compiling the expressions of its predicate. -/
def runWith (engine : Regex.Engine) (p : Plan) (s : Snapshot) :
    Except InvalidPattern Results := do
  let hits ← p.hitsWith engine s
  .ok
    { columns := p.columns.map (·.name)
      rows := (slice p.limit (sortHits s p.sort hits)).map p.row }

/-- Carries out a plan. -/
def run (p : Plan) (s : Snapshot) : Except InvalidPattern Results :=
  p.runWith Regex.engine s

end Plan

end ContentSearch
