import ContentSearch.Proofs.Pattern.Search

/-!
# The meaning of wildcard patterns

Which texts a wildcard pattern stands for, said by rules on its characters. The regular expression
that is made of a pattern stands for the same texts (`Wildcard.exists_test`), and an escaped text
stands for itself alone (`Wildcard.matches_escape_iff`), whatever characters it has.
-/

namespace ContentSearch.Wildcard

/-! ## The texts of a pattern -/

/-- The texts that a pattern stands for. A star stands for any text, ends of lines included, and a
question mark for one character. A backslash makes the next character literal, and stands for
nothing at the end. All other characters stand for themselves. -/
inductive Matches : List Char → List Char → Prop
  | nil : Matches [] []
  | anyText {front rest cs : List Char} (hrest : Matches rest cs) :
    Matches ('*' :: rest) (front ++ cs)
  | anyChar {c : Char} {rest cs : List Char} (hrest : Matches rest cs) :
    Matches ('?' :: rest) (c :: cs)
  | literal {c : Char} {rest cs : List Char} (hrest : Matches rest cs) :
    Matches ('\\' :: c :: rest) (c :: cs)
  | lastBackslash : Matches ['\\'] []
  | plain {c : Char} {rest cs : List Char} (hc : isSpecial c = false) (hrest : Matches rest cs) :
    Matches (c :: rest) (c :: cs)

variable {c : Char} {rest cs : List Char}

theorem matches_nil_iff : Matches [] cs ↔ cs = [] := by
  constructor
  · intro h
    cases h
    rfl
  · intro h
    subst h
    exact .nil

theorem matches_lastBackslash_iff : Matches ['\\'] cs ↔ cs = [] := by
  constructor
  · intro h
    cases h with
    | lastBackslash => rfl
    | plain hc => cases hc
  · intro h
    subst h
    exact .lastBackslash

theorem matches_anyText_iff :
    Matches ('*' :: rest) cs ↔ ∃ front back, cs = front ++ back ∧ Matches rest back := by
  constructor
  · intro h
    cases h with
    | anyText hrest => exact ⟨_, _, rfl, hrest⟩
    | plain hc => cases hc
  · intro ⟨front, back, heq, hrest⟩
    subst heq
    exact .anyText hrest

theorem matches_anyChar_iff :
    Matches ('?' :: rest) cs ↔ ∃ d back, cs = d :: back ∧ Matches rest back := by
  constructor
  · intro h
    cases h with
    | anyChar hrest => exact ⟨_, _, rfl, hrest⟩
    | plain hc => cases hc
  · intro ⟨d, back, heq, hrest⟩
    subst heq
    exact .anyChar hrest

theorem matches_literal_iff :
    Matches ('\\' :: c :: rest) cs ↔ ∃ back, cs = c :: back ∧ Matches rest back := by
  constructor
  · intro h
    cases h with
    | literal hrest => exact ⟨_, rfl, hrest⟩
    | plain hc => cases hc
  · intro ⟨back, heq, hrest⟩
    subst heq
    exact .literal hrest

theorem matches_plain_iff (hc : isSpecial c = false) :
    Matches (c :: rest) cs ↔ ∃ back, cs = c :: back ∧ Matches rest back := by
  constructor
  · intro h
    -- the signs of the other rules are special
    cases h with
    | plain _ hrest => exact ⟨_, rfl, hrest⟩
    | _ => cases hc
  · intro ⟨back, heq, hrest⟩
    subst heq
    exact .plain hc hrest

/-! ## The expression of a pattern -/

/-- The texts that follow the steps of a pattern are those that the pattern stands for. -/
theorem follows_steps_iff {pattern : List Char} :
    (steps pattern).Follows cs ↔ Matches pattern cs := by
  fun_induction steps pattern generalizing cs with
  | case1 => rw [Pattern.follows_nil_iff, matches_nil_iff]
  | case2 => rw [Pattern.follows_nil_iff, matches_lastBackslash_iff]
  | case3 c rest ih => simp only [Pattern.follows_char_iff, matches_literal_iff, ih]
  | case4 rest ih => simp only [Pattern.follows_anyText_iff, matches_anyText_iff, ih]
  | case5 rest ih => simp only [Pattern.follows_anyChar_iff, matches_anyChar_iff, ih]
  | case6 c rest hlast hliteral hstar hmark ih =>
    -- a backslash is either the last character or followed by one
    have hbackslash : c ≠ '\\' := by
      intro hc
      subst hc
      cases rest with
      | nil => exact hlast rfl rfl
      | cons d others => exact hliteral d others rfl rfl
    have hc : isSpecial c = false := by
      rw [isSpecial, beq_eq_false_iff_ne.mpr hstar, beq_eq_false_iff_ne.mpr hmark,
        beq_eq_false_iff_ne.mpr hbackslash]
      rfl
    simp only [Pattern.follows_char_iff, matches_plain_iff hc, ih]

/-- An engine turns the expression of a pattern, if it admits it, into a test that accepts the texts
the pattern stands for. -/
theorem exists_test {engine : Regex.Engine} (hengine : engine.ReadsWellFormed) {pattern : String}
    (hadmits : engine.Admits (regex pattern) true) :
    ∃ test, engine.compile (regex pattern) true = .ok test
      ∧ ∀ t : String, test t = true ↔ Matches pattern.toList t.toList := by
  obtain ⟨test, hcompile, htest⟩ := isWriting_stepText.exists_test hengine hadmits
  refine ⟨test, hcompile, fun t => ?_⟩
  rw [htest, follows_steps_iff]

/-! ## Escaped texts -/

theorem toList_escape (text : String) :
    (escape text).toList = text.toList.flatMap fun c => if isSpecial c then ['\\', c] else [c] :=
  String.toList_ofList

/-- An escaped text stands for itself and for nothing else. -/
theorem matches_escape_iff {text : String} :
    Matches (escape text).toList cs ↔ cs = text.toList := by
  rw [toList_escape]
  induction text.toList generalizing cs with
  | nil => exact matches_nil_iff
  | cons c rest ih =>
    rw [List.flatMap_cons]
    split
    · rw [List.cons_append, List.singleton_append, matches_literal_iff]
      simp only [ih, exists_eq_right]
    · rename_i hc
      rw [List.singleton_append, matches_plain_iff (Bool.eq_false_iff.mpr hc)]
      simp only [ih, exists_eq_right]

/-! ## Globs -/

/-- A wildcard pattern is a glob for whole texts. Its expression is well-formed, so that an engine
that admits it turns it into a test, and the test accepts the texts the pattern stands for. The
expression of an escaped text becomes a test for that very text. Both are so whatever characters
the pattern and the text have and whichever engine searches. -/
theorem test_regex_iff {engine : Regex.Engine} (hsearches : engine.Searches) :
    (∀ pattern : String, engine.Admits (regex pattern) true →
      ∃ test, engine.compile (regex pattern) true = .ok test
        ∧ ∀ t : String, test t = true ↔ Matches pattern.toList t.toList)
    ∧ ∀ text : String, engine.Admits (regex (escape text)) true →
      ∃ test, engine.compile (regex (escape text)) true = .ok test
        ∧ ∀ t : String, test t = true ↔ t = text := by
  have hreads := hsearches.readsWellFormed
  refine ⟨fun pattern hadmits => exists_test hreads hadmits, fun text hadmits => ?_⟩
  obtain ⟨test, hcompile, htest⟩ := exists_test hreads hadmits
  refine ⟨test, hcompile, fun t => ?_⟩
  rw [htest, matches_escape_iff, String.toList_inj]

/-- In the pattern, a star is literal, a bracket, a point and a dollar sign are operators of
expressions but no signs of patterns, and a backslash is the last character. The question mark takes
up the end of a line. -/
theorem test_regex_iff_signs :
    Regex.engine.Searches ∧ Regex.engine.Admits (regex "x\\*[?*.$\\") true
      ∧ Regex.engine.Admits (regex (escape "x*[?.$\\")) true
      ∧ (∃ test, Regex.engine.compile (regex "x\\*[?*.$\\") true = .ok test
        ∧ (∀ t : String, test t = true ↔ Matches "x\\*[?*.$\\".toList t.toList)
        ∧ [test "x*[\n.$", test "x*[\n...$", test "xy[\n.$", test "x*[\n.$\n"]
          = [true, true, false, false])
      ∧ ∃ test, Regex.engine.compile (regex (escape "x*[?.$\\")) true = .ok test
        ∧ test "x*[?.$\\" = true ∧ test "x*[y.$\\" = false := by
  have hadmits : ∀ expression, Regex.engine.Admits expression true := fun expression =>
    Regex.engine_admits expression true
  obtain ⟨hpattern, hescaped⟩ := test_regex_iff Regex.engine_searches
  obtain ⟨test, hcompile, htest⟩ := hpattern "x\\*[?*.$\\" (hadmits _)
  obtain ⟨literal, hliteral, hequal⟩ := hescaped "x*[?.$\\" (hadmits _)
  refine ⟨Regex.engine_searches, hadmits _, hadmits _, ⟨test, hcompile, htest, ?_⟩,
    literal, hliteral, (hequal _).mpr rfl, ?_⟩
  · have hrun : (Regex.engine.compile (regex "x\\*[?*.$\\") true).toOption.map
        (fun test => [test "x*[\n.$", test "x*[\n...$", test "xy[\n.$", test "x*[\n.$\n"])
        = some [true, true, false, false] := by
      decide +kernel
    rw [hcompile] at hrun
    exact Option.some.inj hrun
  · exact Bool.eq_false_iff.mpr fun h => absurd ((hequal _).mp h) (by decide)

end ContentSearch.Wildcard
