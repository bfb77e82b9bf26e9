import ContentSearch.Pattern.Like
import ContentSearch.Proofs.Index.Scan

/-!
# The syntax of expressions

Which expressions are well-formed, said by rules and not by the reader: between two anchors stand
characters that are no operators, characters of ASCII behind a backslash, points, and points with a
star. The patterns of `LIKE` and the wildcard patterns are written as such expressions, whatever
characters they are made of.
-/

namespace ContentSearch

namespace Regex

/-! ## Well-formed expressions -/

/-- What may stand between the anchors of an expression. -/
inductive IsBody : List Char → Prop
  | nil : IsBody []
  | plain {c : Char} {rest : List Char} (hc : isOperator c = false) (hrest : IsBody rest) :
    IsBody (c :: rest)
  | escaped {c : Char} {rest : List Char} (hc : isEscapable c = true) (hrest : IsBody rest) :
    IsBody ('\\' :: c :: rest)
  | anyChar {rest : List Char} (hrest : IsBody rest) : IsBody ('.' :: rest)
  | anyText {rest : List Char} (hrest : IsBody rest) : IsBody ('.' :: '*' :: rest)

/-- An expression with both anchors and a body between them. -/
def IsWellFormed (expression : String) : Prop :=
  ∃ body, IsBody body ∧ expression = String.ofList ('^' :: (body ++ ['$']))

/-- The engine accepts all well-formed expressions, with and without regard to case. -/
def Engine.AcceptsWellFormed (engine : Engine) : Prop :=
  ∀ expression, IsWellFormed expression → ∀ caseSensitive,
    engine.accepts expression caseSensitive = true

/-- If an expression is well-formed, the engine accepts it. An engine with a limit on its resources
does not admit the expressions beyond this limit. -/
def Engine.Admits (engine : Engine) (expression : String) (caseSensitive : Bool) : Prop :=
  IsWellFormed expression → engine.accepts expression caseSensitive = true

/-- Without a limit, an engine admits every expression. -/
theorem Engine.AcceptsWellFormed.admits {engine : Engine} (h : engine.AcceptsWellFormed)
    (expression : String) (caseSensitive : Bool) : engine.Admits expression caseSensitive :=
  fun hformed => h expression hformed caseSensitive

/-- What an engine admits, it turns into a test if it is well-formed. -/
theorem Engine.Admits.exists_test {engine : Engine} {expression : String} {caseSensitive : Bool}
    (h : engine.Admits expression caseSensitive) (hformed : IsWellFormed expression) :
    ∃ test, engine.compile expression caseSensitive = .ok test :=
  Outcome.exists_of_isOk (h hformed)

theorem IsBody.append {front back : List Char} (hfront : IsBody front) (hback : IsBody back) :
    IsBody (front ++ back) := by
  induction hfront with
  | nil => exact hback
  | plain hc _ ih => exact .plain hc ih
  | escaped hc _ ih => exact .escaped hc ih
  | anyChar _ ih => exact .anyChar ih
  | anyText _ ih => exact .anyText ih

/-! ## The reader of expressions -/

theorem steps?_plain {c : Char} (hc : isOperator c = false) (rest : List Char) :
    steps? (c :: rest) = (steps? rest).map (.char c :: ·) := by
  -- whatever the reader takes for something else begins with an operator
  have hne : ∀ d, isOperator d = true → c ≠ d := by
    rintro d hd rfl
    rw [hd] at hc
    cases hc
  rw [steps?]
  · rw [hc]
    rfl
  · exact fun h => absurd h (hne '$' rfl)
  · exact fun _ h => absurd h (hne '.' rfl)
  · exact fun h => absurd h (hne '.' rfl)
  · exact fun _ _ h => absurd h (hne '\\' rfl)

theorem steps?_anyChar {rest : List Char} (hrest : ∀ others, rest ≠ '*' :: others) :
    steps? ('.' :: rest) = (steps? rest).map (.anyChar :: ·) := by
  rw [steps?]
  exact fun others h => hrest others h

/-- A body does not begin with a star. -/
theorem IsBody.ne_star {body others : List Char} (h : IsBody body) : body ≠ '*' :: others := by
  rintro rfl
  cases h with
  | plain hc _ => cases hc

/-- A body in front of the last anchor does not begin with a star. -/
theorem IsBody.append_anchor_ne_star {body : List Char} (h : IsBody body) (others : List Char) :
    body ++ ['$'] ≠ '*' :: others := by
  intro heq
  cases body with
  | nil => cases heq
  | cons c rest => exact h.ne_star (congrArg (· :: rest) (List.cons.inj heq).1)

/-- The body of an expression is read up to the anchor at its end. -/
theorem IsBody.exists_steps {body : List Char} (h : IsBody body) :
    ∃ p, steps? (body ++ ['$']) = some p := by
  induction h with
  | nil => exact ⟨[], rfl⟩
  | @plain c rest hc hrest ih =>
    obtain ⟨p, hp⟩ := ih
    exact ⟨.char c :: p, by rw [List.cons_append, steps?_plain hc, hp, Option.map_some]⟩
  | @escaped c rest hc hrest ih =>
    obtain ⟨p, hp⟩ := ih
    refine ⟨.char c :: p, ?_⟩
    rw [List.cons_append, List.cons_append, steps?, if_pos hc, hp, Option.map_some]
  | @anyChar rest hrest ih =>
    obtain ⟨p, hp⟩ := ih
    refine ⟨.anyChar :: p, ?_⟩
    rw [List.cons_append, steps?_anyChar hrest.append_anchor_ne_star, hp, Option.map_some]
  | @anyText rest hrest ih =>
    obtain ⟨p, hp⟩ := ih
    refine ⟨.anyText :: p, ?_⟩
    rw [List.cons_append, List.cons_append, steps?, hp, Option.map_some]

theorem pattern?_anchor (rest : List Char) :
    pattern? (String.ofList ('^' :: rest)) = steps? rest := by
  rw [pattern?, String.toList_ofList]
  rfl

/-- An expression without the anchor in front may be found behind any text. -/
theorem pattern?_of_ne_anchor {cs : List Char} (hcs : ∀ rest, cs ≠ '^' :: rest) :
    pattern? (String.ofList cs) = (steps? cs).map (.anyText :: ·) := by
  rw [pattern?, String.toList_ofList]
  split
  · exact absurd rfl (hcs _)
  · rfl

/-- The engine of the index tests texts by the pattern that it reads. -/
theorem engine_compile {expression : String} {p : Pattern} (hp : pattern? expression = some p)
    (caseSensitive : Bool) :
    engine.compile expression caseSensitive = .ok (p.matchesText caseSensitive) := by
  show (read expression).map _ = _
  rw [read, hp]
  rfl

/-- The engine of the index accepts all well-formed expressions. -/
theorem engine_acceptsWellFormed : engine.AcceptsWellFormed := by
  rintro expression ⟨body, hbody, rfl⟩ caseSensitive
  obtain ⟨p, hp⟩ := hbody.exists_steps
  rw [Engine.accepts, engine_compile ((pattern?_anchor _).trans hp)]
  rfl

/-- The engine of the index has no limit. -/
theorem engine_admits (expression : String) (caseSensitive : Bool) :
    engine.Admits expression caseSensitive :=
  engine_acceptsWellFormed.admits expression caseSensitive

/-! ## Characters -/

/-- Operators are characters of ASCII that are no letters or digits. -/
theorem isEscapable_of_isOperator {c : Char} (h : isOperator c = true) :
    isEscapable c = true ∧ Text.isAlphanumeric c = false := by
  have hall : ['\\', '.', '+', '*', '?', '(', ')', '|', '[', '\x7b', '^', '$'].all
      (fun c => isEscapable c && !Text.isAlphanumeric c) = true := by decide
  have hc := List.all_eq_true.mp hall c (List.contains_iff_mem.mp h)
  rwa [Bool.and_eq_true, Bool.not_eq_true'] at hc

/-! ## Writing -/

/-- A way to write steps: a character by itself or behind a backslash, a point for any character,
and a point with a star for any text. -/
structure IsWriting (text : Step → List Char) : Prop where
  char : ∀ c, text (.char c) = [c] ∧ isOperator c = false
    ∨ text (.char c) = ['\\', c] ∧ isEscapable c = true
  anyChar : text .anyChar = ['.']
  anyText : text .anyText = ['.', '*']

namespace IsWriting

variable {text : Step → List Char} (h : IsWriting text)
include h

theorem isBody (step : Step) : IsBody (text step) := by
  cases step with
  | char c =>
    rcases h.char c with ⟨hwritten, hc⟩ | ⟨hwritten, hc⟩
    · rw [hwritten]
      exact .plain hc .nil
    · rw [hwritten]
      exact .escaped hc .nil
  | anyChar =>
    rw [h.anyChar]
    exact .anyChar .nil
  | anyText =>
    rw [h.anyText]
    exact .anyText .nil

/-- Steps are written one after the other. -/
theorem isBody_flatMap (p : Pattern) : IsBody (p.flatMap text) := by
  induction p with
  | nil => exact .nil
  | cons step rest ih =>
    rw [List.flatMap_cons]
    exact (h.isBody step).append ih

end IsWriting

end Regex

/-! ## Patterns -/

/-- The steps of `LIKE` are written in the language of regular expressions. -/
theorem Like.isWriting_stepText : Regex.IsWriting stepText where
  char := by
    intro c
    rw [stepText, Regex.literal]
    split
    · rename_i h
      exact Or.inr ⟨rfl, (Bool.and_eq_true_iff.mp h).2⟩
    · rename_i h
      refine Or.inl ⟨rfl, Bool.eq_false_iff.mpr fun hoperator => h ?_⟩
      obtain ⟨hescapable, hletter⟩ := Regex.isEscapable_of_isOperator hoperator
      rw [hescapable, hletter]
      rfl
  anyChar := rfl
  anyText := rfl

/-- Every pattern of `LIKE` is written as a well-formed expression. -/
theorem Like.isWellFormed_regex (pattern : String) : Regex.IsWellFormed (Like.regex pattern) :=
  ⟨_, isWriting_stepText.isBody_flatMap (steps pattern.toList), rfl⟩

/-- The characters that wildcard patterns put behind a backslash may stand there. -/
theorem Wildcard.isEscapable_of_isMeta {c : Char} (h : isMeta c = true) :
    Regex.isEscapable c = true := by
  rcases Bool.or_eq_true_iff.mp h with hoperator | hother
  · exact (Regex.isEscapable_of_isOperator hoperator).1
  · have hall : [']', '\x7d', '#', '&', '-', '~'].all Regex.isEscapable = true := by decide
    exact List.all_eq_true.mp hall c (List.contains_iff_mem.mp hother)

/-- The steps of wildcard patterns are written in the language of regular expressions. -/
theorem Wildcard.isWriting_stepText : Regex.IsWriting stepText where
  char := by
    intro c
    rw [stepText]
    split
    · rename_i hmeta
      exact Or.inr ⟨rfl, isEscapable_of_isMeta hmeta⟩
    · rename_i hmeta
      refine Or.inl ⟨rfl, Bool.eq_false_iff.mpr fun hoperator => hmeta ?_⟩
      rw [isMeta, hoperator]
      rfl
  anyChar := rfl
  anyText := rfl

/-- Every wildcard pattern is written as a well-formed expression. -/
theorem Wildcard.isWellFormed_regex (pattern : String) :
    Regex.IsWellFormed (Wildcard.regex pattern) :=
  ⟨_, isWriting_stepText.isBody_flatMap (steps pattern.toList), rfl⟩

end ContentSearch
