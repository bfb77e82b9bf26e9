import ContentSearch.Proofs.Pattern.Search

/-!
# The meaning of LIKE patterns

Which texts a pattern of `LIKE` stands for, said by rules on its characters. The regular expression
that is made of a pattern stands for the same texts (`Like.exists_test`), whatever characters the
pattern is made of and whatever engine reads the expression.
-/

namespace ContentSearch.Like

/-- The texts that a pattern stands for. A percent sign stands for any text, an underscore for any
character, and a backslash makes the next character literal, or is one itself at the end. All other
characters stand for themselves. -/
inductive Matches : List Char → List Char → Prop
  | nil : Matches [] []
  | anyText {front rest cs : List Char} (hrest : Matches rest cs) :
    Matches ('%' :: rest) (front ++ cs)
  | anyChar {c : Char} {rest cs : List Char} (hrest : Matches rest cs) :
    Matches ('_' :: rest) (c :: cs)
  | literal {c : Char} {rest cs : List Char} (hrest : Matches rest cs) :
    Matches ('\\' :: c :: rest) (c :: cs)
  | lastBackslash : Matches ['\\'] ['\\']
  | plain {c : Char} {rest cs : List Char} (hpercent : c ≠ '%') (hunderscore : c ≠ '_')
    (hbackslash : c ≠ '\\') (hrest : Matches rest cs) : Matches (c :: rest) (c :: cs)

variable {c : Char} {rest cs : List Char}

theorem matches_nil_iff : Matches [] cs ↔ cs = [] := by
  constructor
  · intro h
    cases h
    rfl
  · intro h
    subst h
    exact .nil

theorem matches_lastBackslash_iff : Matches ['\\'] cs ↔ cs = ['\\'] := by
  constructor
  · intro h
    cases h with
    | lastBackslash => rfl
    | plain _ _ hbackslash => exact absurd rfl hbackslash
  · intro h
    subst h
    exact .lastBackslash

theorem matches_anyText_iff :
    Matches ('%' :: rest) cs ↔ ∃ front back, cs = front ++ back ∧ Matches rest back := by
  constructor
  · intro h
    cases h with
    | anyText hrest => exact ⟨_, _, rfl, hrest⟩
    | plain hpercent => exact absurd rfl hpercent
  · intro ⟨front, back, heq, hrest⟩
    subst heq
    exact .anyText hrest

theorem matches_anyChar_iff :
    Matches ('_' :: rest) cs ↔ ∃ d back, cs = d :: back ∧ Matches rest back := by
  constructor
  · intro h
    cases h with
    | anyChar hrest => exact ⟨_, _, rfl, hrest⟩
    | plain _ hunderscore => exact absurd rfl hunderscore
  · intro ⟨d, back, heq, hrest⟩
    subst heq
    exact .anyChar hrest

theorem matches_literal_iff :
    Matches ('\\' :: c :: rest) cs ↔ ∃ back, cs = c :: back ∧ Matches rest back := by
  constructor
  · intro h
    cases h with
    | literal hrest => exact ⟨_, rfl, hrest⟩
    | plain _ _ hbackslash => exact absurd rfl hbackslash
  · intro ⟨back, heq, hrest⟩
    subst heq
    exact .literal hrest

theorem matches_plain_iff (hpercent : c ≠ '%') (hunderscore : c ≠ '_') (hbackslash : c ≠ '\\') :
    Matches (c :: rest) cs ↔ ∃ back, cs = c :: back ∧ Matches rest back := by
  constructor
  · intro h
    cases h with
    | plain _ _ _ hrest => exact ⟨_, rfl, hrest⟩
    | anyText => exact absurd rfl hpercent
    | anyChar => exact absurd rfl hunderscore
    | literal | lastBackslash => exact absurd rfl hbackslash
  · intro ⟨back, heq, hrest⟩
    subst heq
    exact .plain hpercent hunderscore hbackslash hrest

/-- The texts that follow the steps of a pattern are those that the pattern stands for. -/
theorem follows_steps_iff {pattern : List Char} :
    (steps pattern).Follows cs ↔ Matches pattern cs := by
  fun_induction steps pattern generalizing cs with
  | case1 => rw [Pattern.follows_nil_iff, matches_nil_iff]
  | case2 =>
    simp only [Pattern.follows_char_iff, Pattern.follows_nil_iff, matches_lastBackslash_iff,
      exists_eq_right]
  | case3 c rest ih => simp only [Pattern.follows_char_iff, matches_literal_iff, ih]
  | case4 rest ih => simp only [Pattern.follows_anyText_iff, matches_anyText_iff, ih]
  | case5 rest ih => simp only [Pattern.follows_anyChar_iff, matches_anyChar_iff, ih]
  | case6 c rest hlast hliteral hpercent hunderscore ih =>
    -- a backslash is either the last character or followed by one
    have hbackslash : c ≠ '\\' := by
      intro hc
      subst hc
      cases rest with
      | nil => exact hlast rfl rfl
      | cons d others => exact hliteral d others rfl rfl
    simp only [Pattern.follows_char_iff, matches_plain_iff hpercent hunderscore hbackslash, ih]

/-- An engine turns the expression of a pattern, if it admits it, into a test that accepts the texts
the pattern stands for. -/
theorem exists_test {engine : Regex.Engine} (hengine : engine.ReadsWellFormed) {pattern : String}
    (hadmits : engine.Admits (regex pattern) true) :
    ∃ test, engine.compile (regex pattern) true = .ok test
      ∧ ∀ t : String, test t = true ↔ Matches pattern.toList t.toList := by
  obtain ⟨test, hcompile, htest⟩ := isWriting_stepText.exists_test hengine hadmits
  refine ⟨test, hcompile, fun t => ?_⟩
  rw [htest, follows_steps_iff]

end ContentSearch.Like
