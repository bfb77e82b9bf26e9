import ContentSearch.Text.Quoted

/-!
# Predicates

What an index can be asked: conditions on the terms of one field, and their combinations.
-/

namespace ContentSearch

/-- One end of a range of terms. -/
inductive Bound
  | unbounded
  | included (term : String)
  | excluded (term : String)
  deriving DecidableEq, Repr

/-- A condition on entries. Where case does not matter, the values are in lower case and are
compared with terms in lower case. -/
inductive Predicate
  | term (field value : String) (caseSensitive : Bool)
  | range (field : String) (lower upper : Bound) (caseSensitive : Bool)
  | wildcard (field pattern : String) (caseSensitive : Bool)
  | regex (field pattern : String) (caseSensitive : Bool)
  | hasTerm (field : String)
  | fullText (field expression : String)
  | everything
  | nothing
  | combined (must should mustNot : List Predicate)

namespace Predicate

instance : Inhabited Predicate := ⟨everything⟩

/-! ## Combinations -/

/-- All of the clauses. -/
def allOf (clauses : List Predicate) : Predicate :=
  .combined clauses [] []

/-- At least one of the clauses. -/
def anyOf (clauses : List Predicate) : Predicate :=
  .combined [] clauses []

/-- The first predicate without the second. -/
def without (base excluded : Predicate) : Predicate :=
  .combined [base] [] [excluded]

/-- Everything else. -/
def complement (p : Predicate) : Predicate :=
  without .everything p

/-- The field that a simple predicate reads. -/
def field? : Predicate → Option String
  | .term field _ _ | .range field _ _ _ | .wildcard field _ _ | .regex field _ _
  | .hasTerm field | .fullText field _ => some field
  | .everything | .nothing | .combined _ _ _ => none

/-! ## Text -/

/-- The mark of a comparison without regard to case. -/
def caseMark (caseSensitive : Bool) : String :=
  if caseSensitive then "" else "~"

/-- The two ends of a range; brackets include the end and parentheses exclude it. -/
def rangeText (lower upper : Bound) : String :=
  let first := match lower with
    | .unbounded => "(*"
    | .included t => "[" ++ t
    | .excluded t => "(" ++ t
  let last := match upper with
    | .unbounded => "*)"
    | .included t => t ++ "]"
    | .excluded t => t ++ ")"
  first ++ " TO " ++ last

/-- Texts between parentheses with blanks between them. -/
def parenthesized (parts : List String) : String :=
  "(" ++ String.intercalate " " parts ++ ")"

mutual

/-- The canonical text of a predicate. -/
def text : Predicate → String
  | .term field value cs => field ++ ":" ++ caseMark cs ++ Text.quoted value
  | .range field lower upper cs => field ++ ":" ++ caseMark cs ++ rangeText lower upper
  | .wildcard field pattern cs => field ++ ":" ++ caseMark cs ++ pattern
  | .regex field pattern cs => field ++ ":" ++ caseMark cs ++ "/" ++ pattern ++ "/"
  | .hasTerm field => field ++ ":*"
  | .fullText field expression => field ++ ":CONTAINS(" ++ Text.quoted expression ++ ")"
  | .everything => "*:*"
  | .nothing => "-*:*"
  | .combined must should mustNot =>
    parenthesized (texts "+" must ++ texts "" should ++ texts "-" mustNot)

/-- The texts of clauses behind a mark. -/
def texts (mark : String) : List Predicate → List String
  | [] => []
  | p :: rest => (mark ++ p.text) :: texts mark rest

end

end Predicate

end ContentSearch
