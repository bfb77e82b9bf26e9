import ContentSearch.Index.FieldIndex
import ContentSearch.Text.Blank
import ContentSearch.Text.Words

/-!
# Full-text expressions

An expression is written as in a search box: words and quoted phrases with blanks between them are
all required, a minus sign in front excludes, and the word `OR` separates alternatives. A phrase
stands for its words.
-/

namespace ContentSearch

/-! ## Parts of an expression -/

/-- A word or phrase of an expression. -/
structure SearchWord where
  text : List Char
  excluded : Bool
  quoted : Bool
  deriving DecidableEq

namespace SearchWord

/-- Where reading stands: between words, behind a minus sign, or within a word or phrase whose
characters so far are kept in reverse. -/
inductive Place
  | between
  | afterMinus
  | word (excluded : Bool) (before : List Char)
  | phrase (excluded : Bool) (before : List Char)

/-- Splits an expression. A word ends at a blank, a phrase at the next quotation mark. -/
def scan : Place → List Char → List SearchWord
  | .between, [] => []
  | .between, c :: cs =>
    if Text.isBlank c then scan .between cs
    else if c = '-' then scan .afterMinus cs
    else if c = '\x22' then scan (.phrase false []) cs
    else scan (.word false [c]) cs
  | .afterMinus, [] => [⟨[], true, false⟩]
  | .afterMinus, c :: cs =>
    if c = '\x22' then scan (.phrase true []) cs
    else if Text.isBlank c then ⟨[], true, false⟩ :: scan .between cs
    else scan (.word true [c]) cs
  | .word excluded before, [] => [⟨before.reverse, excluded, false⟩]
  | .word excluded before, c :: cs =>
    if Text.isBlank c then ⟨before.reverse, excluded, false⟩ :: scan .between cs
    else scan (.word excluded (c :: before)) cs
  | .phrase excluded before, [] => [⟨before.reverse, excluded, true⟩]
  | .phrase excluded before, c :: cs =>
    if c = '\x22' then ⟨before.reverse, excluded, true⟩ :: scan .between cs
    else scan (.phrase excluded (c :: before)) cs

/-- The word that separates alternatives. -/
def isOr (w : SearchWord) : Bool :=
  !w.quoted && !w.excluded && w.text == ['O', 'R']

/-- The tokens of a word. -/
def tokens (w : SearchWord) : List String :=
  Text.tokens (String.ofList w.text)

end SearchWord

/-! ## Expressions -/

/-- One alternative: tokens that must occur and tokens that must not. -/
structure SearchClause where
  required : List String
  excluded : List String
  deriving DecidableEq

namespace SearchClause

/-- The clause that asks for nothing. -/
def empty : SearchClause := ⟨[], []⟩

/-- Whether the clause asks for nothing. -/
def isEmpty (k : SearchClause) : Bool :=
  k.required.isEmpty && k.excluded.isEmpty

/-- Adds the tokens of a word. -/
def add (k : SearchClause) (w : SearchWord) : SearchClause :=
  if w.excluded then { k with excluded := k.excluded ++ w.tokens }
  else { k with required := k.required ++ w.tokens }

/-- The clause as a list, left out if it asks for nothing. -/
def toList (k : SearchClause) : List SearchClause :=
  if k.isEmpty then [] else [k]

end SearchClause

/-- The alternatives of an expression. -/
abbrev SearchExpression := List SearchClause

namespace SearchExpression

/-- The clauses of words, the first of which continue a clause. -/
def ofWords (clause : SearchClause) : List SearchWord → SearchExpression
  | [] => clause.toList
  | w :: rest =>
    if w.isOr then clause.toList ++ ofWords .empty rest else ofWords (clause.add w) rest

/-- Reads an expression. -/
def ofText (s : String) : SearchExpression :=
  ofWords .empty (SearchWord.scan .between s.toList)

/-- The required tokens of all alternatives, which count for the score. -/
def scoringTerms (e : SearchExpression) : List String :=
  e.flatMap (·.required)

end SearchExpression

/-! ## Evaluation -/

/-- The documents of `domain` with all required and no excluded tokens in a field. In a field
that does not exist no required token is found, and no excluded one either. -/
def SearchClause.docs (k : SearchClause) (field? : Option FieldIndex) (domain : DocSet) :
    DocSet :=
  match field? with
  | some f =>
    let found := k.required.foldl (fun docs t => docs.inter (f.term t true)) domain
    k.excluded.foldl (fun docs t => docs.diff (f.term t true)) found
  | none => if k.required.isEmpty then domain else SortedSet.empty

/-- The documents of `domain` that satisfy an alternative. -/
def SearchExpression.docs (e : SearchExpression) (field? : Option FieldIndex)
    (domain : DocSet) : DocSet :=
  e.foldl (fun found k => found.union (k.docs field? domain)) SortedSet.empty

/-- How many of the required tokens a document has in a field. -/
def SearchExpression.hits (e : SearchExpression) (f : FieldIndex) (doc : Nat) : Nat :=
  match f.termsOf? doc with
  | some terms => e.scoringTerms.countP terms.contains
  | none => 0

end ContentSearch
