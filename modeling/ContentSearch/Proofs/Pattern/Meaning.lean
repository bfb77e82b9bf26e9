import ContentSearch.Proofs.Pattern.Syntax

/-!
# The meaning of expressions

Which texts a well-formed expression stands for, said by rules on its characters and not by an
engine. Where a pattern is written step by step, its expression is read back as the pattern, so that
it stands for the texts that follow the steps.
-/

namespace ContentSearch

/-! ## Steps -/

/-- What a step takes up of a text. -/
def Step.Takes : Step → List Char → Prop
  | .char c, taken => taken = [c]
  | .anyChar, taken => ∃ c, taken = [c]
  | .anyText, _ => True

namespace Pattern

/-- The texts that the steps take up one after the other. -/
inductive Follows : Pattern → List Char → Prop
  | nil : Follows [] []
  | cons {step : Step} {p : Pattern} {front back : List Char} (hstep : step.Takes front)
    (hrest : Follows p back) : Follows (step :: p) (front ++ back)

theorem follows_nil_iff {cs : List Char} : Follows [] cs ↔ cs = [] := by
  constructor
  · rintro ⟨⟩
    rfl
  · rintro rfl
    exact .nil

theorem follows_cons_iff {step : Step} {p : Pattern} {cs : List Char} :
    Follows (step :: p) cs
      ↔ ∃ front back, cs = front ++ back ∧ step.Takes front ∧ Follows p back := by
  constructor
  · rintro (_ | ⟨hstep, hrest⟩)
    exact ⟨_, _, rfl, hstep, hrest⟩
  · rintro ⟨front, back, rfl, hstep, hrest⟩
    exact .cons hstep hrest

theorem follows_char_iff {c : Char} {p : Pattern} {cs : List Char} :
    Follows (.char c :: p) cs ↔ ∃ rest, cs = c :: rest ∧ Follows p rest := by
  rw [follows_cons_iff]
  constructor
  · rintro ⟨front, back, rfl, rfl, hrest⟩
    exact ⟨back, rfl, hrest⟩
  · rintro ⟨rest, rfl, hrest⟩
    exact ⟨[c], rest, rfl, rfl, hrest⟩

theorem follows_anyChar_iff {p : Pattern} {cs : List Char} :
    Follows (.anyChar :: p) cs ↔ ∃ c rest, cs = c :: rest ∧ Follows p rest := by
  rw [follows_cons_iff]
  constructor
  · rintro ⟨front, back, rfl, ⟨c, rfl⟩, hrest⟩
    exact ⟨c, back, rfl, hrest⟩
  · rintro ⟨c, rest, rfl, hrest⟩
    exact ⟨[c], rest, rfl, ⟨c, rfl⟩, hrest⟩

theorem follows_anyText_iff {p : Pattern} {cs : List Char} :
    Follows (.anyText :: p) cs ↔ ∃ front back, cs = front ++ back ∧ Follows p back := by
  rw [follows_cons_iff]
  simp only [Step.Takes, true_and]

/-- The test of a pattern, where characters stand for themselves only, accepts the texts that follow
the steps. -/
theorem follows_eq_true_iff {p : Pattern} {cs : List Char} :
    follows (· == ·) p cs = true ↔ Follows p cs := by
  induction p generalizing cs with
  | nil => rw [follows, List.isEmpty_iff, follows_nil_iff]
  | cons step p ih =>
    cases step with
    | char c =>
      rw [follows_char_iff]
      cases cs with
      | nil => simp [follows]
      | cons d rest =>
        rw [follows, Bool.and_eq_true, beq_iff_eq, ih]
        constructor
        · rintro ⟨rfl, hrest⟩
          exact ⟨rest, rfl, hrest⟩
        · rintro ⟨rest', heq, hrest⟩
          obtain ⟨rfl, rfl⟩ := List.cons.inj heq
          exact ⟨rfl, hrest⟩
    | anyChar =>
      rw [follows_anyChar_iff]
      cases cs with
      | nil => simp [follows]
      | cons d rest =>
        rw [follows, ih]
        constructor
        · intro hrest
          exact ⟨d, rest, rfl, hrest⟩
        · rintro ⟨d', rest', heq, hrest⟩
          obtain ⟨rfl, rfl⟩ := List.cons.inj heq
          exact hrest
    | anyText =>
      rw [follows, anySuffix_iff, follows_anyText_iff]
      simp only [ih]

end Pattern

namespace Regex

/-! ## Expressions -/

/-- The texts that a body stands for. A character that is no operator stands for itself, and so does
a character behind a backslash. A point stands for any character, and a point with a star for any
text, ends of lines included. -/
inductive Matches : List Char → List Char → Prop
  | nil : Matches [] []
  | plain {c : Char} {rest cs : List Char} (hc : isOperator c = false) (hrest : Matches rest cs) :
    Matches (c :: rest) (c :: cs)
  | escaped {c : Char} {rest cs : List Char} (hc : isEscapable c = true)
    (hrest : Matches rest cs) : Matches ('\\' :: c :: rest) (c :: cs)
  | anyChar {c : Char} {rest cs : List Char} (hrest : Matches rest cs) :
    Matches ('.' :: rest) (c :: cs)
  | anyText {front rest cs : List Char} (hrest : Matches rest cs) :
    Matches ('.' :: '*' :: rest) (front ++ cs)

/-- With regard to case, a test that the engine makes of a well-formed expression accepts a text if
the body of the expression stands for the whole of it. -/
def Engine.ReadsWellFormed (engine : Engine) : Prop :=
  ∀ body, IsBody body →
    ∀ test, engine.compile (String.ofList ('^' :: (body ++ ['$']))) true = .ok test →
      ∀ t : String, test t = true ↔ Matches body t.toList

/-- A text that a body stands for cannot be one that begins with a bare star. -/
theorem not_matches_star {rest cs : List Char} : ¬Matches ('*' :: rest) cs := by
  rintro (_ | ⟨hc, -⟩)
  cases hc

theorem matches_plain_iff {c : Char} {rest cs : List Char} (hc : isOperator c = false) :
    Matches (c :: rest) cs ↔ ∃ cs', cs = c :: cs' ∧ Matches rest cs' := by
  constructor
  · rintro (_ | ⟨-, hrest⟩ | _ | _ | _)
    · exact ⟨_, rfl, hrest⟩
    all_goals cases hc
  · rintro ⟨cs', rfl, hrest⟩
    exact .plain hc hrest

theorem matches_escaped_iff {c : Char} {rest cs : List Char} (hc : isEscapable c = true) :
    Matches ('\\' :: c :: rest) cs ↔ ∃ cs', cs = c :: cs' ∧ Matches rest cs' := by
  constructor
  · rintro (_ | ⟨hback, -⟩ | ⟨-, hrest⟩ | _ | _)
    · cases hback
    · exact ⟨_, rfl, hrest⟩
  · rintro ⟨cs', rfl, hrest⟩
    exact .escaped hc hrest

theorem matches_anyChar_iff {rest cs : List Char} (hrest : ∀ others, rest ≠ '*' :: others) :
    Matches ('.' :: rest) cs ↔ ∃ c cs', cs = c :: cs' ∧ Matches rest cs' := by
  constructor
  · rintro (_ | ⟨hpoint, -⟩ | _ | ⟨hmatches⟩ | _)
    · cases hpoint
    · exact ⟨_, _, rfl, hmatches⟩
    · exact absurd rfl (hrest _)
  · rintro ⟨c, cs', rfl, hmatches⟩
    exact .anyChar hmatches

theorem matches_anyText_iff {rest cs : List Char} :
    Matches ('.' :: '*' :: rest) cs ↔ ∃ front back, cs = front ++ back ∧ Matches rest back := by
  constructor
  · rintro (_ | ⟨hpoint, -⟩ | _ | ⟨hmatches⟩ | ⟨hmatches⟩)
    · cases hpoint
    · -- a star is no body of its own
      exact absurd hmatches not_matches_star
    · exact ⟨_, _, rfl, hmatches⟩
  · rintro ⟨front, back, rfl, hmatches⟩
    exact .anyText hmatches

/-! ## Reading -/

/-- A body stands for the texts that follow the steps it is read as. -/
theorem IsBody.matches_iff {body : List Char} (h : IsBody body) {p : Pattern}
    (hp : steps? (body ++ ['$']) = some p) {cs : List Char} :
    Matches body cs ↔ p.Follows cs := by
  induction h generalizing p cs with
  | nil =>
    obtain rfl := Option.some.inj hp
    rw [Pattern.follows_nil_iff]
    constructor
    · rintro ⟨⟩
      rfl
    · rintro rfl
      exact .nil
  | @plain c rest hc hrest ih =>
    rw [List.cons_append, steps?_plain hc] at hp
    obtain ⟨q, hq, rfl⟩ := Option.map_eq_some_iff.mp hp
    simp only [matches_plain_iff hc, Pattern.follows_char_iff, ih hq]
  | @escaped c rest hc hrest ih =>
    rw [List.cons_append, List.cons_append, steps?, if_pos hc] at hp
    obtain ⟨q, hq, rfl⟩ := Option.map_eq_some_iff.mp hp
    simp only [matches_escaped_iff hc, Pattern.follows_char_iff, ih hq]
  | @anyChar rest hrest ih =>
    rw [List.cons_append, steps?_anyChar hrest.append_anchor_ne_star] at hp
    obtain ⟨q, hq, rfl⟩ := Option.map_eq_some_iff.mp hp
    simp only [matches_anyChar_iff fun _ => hrest.ne_star, Pattern.follows_anyChar_iff, ih hq]
  | @anyText rest hrest ih =>
    rw [List.cons_append, List.cons_append, steps?] at hp
    obtain ⟨q, hq, rfl⟩ := Option.map_eq_some_iff.mp hp
    simp only [matches_anyText_iff, Pattern.follows_anyText_iff, ih hq]

/-! ## Writing -/

namespace IsWriting

variable {text : Step → List Char} (h : IsWriting text)
include h

/-- What is written is read back. -/
theorem steps?_flatMap (p : Pattern) : steps? (p.flatMap text ++ ['$']) = some p := by
  induction p with
  | nil => rfl
  | cons step p ih =>
    have hbody : IsBody (p.flatMap text) := h.isBody_flatMap p
    rw [List.flatMap_cons, List.append_assoc]
    cases step with
    | char c =>
      rcases h.char c with ⟨hwritten, hc⟩ | ⟨hwritten, hc⟩
      · rw [hwritten, List.singleton_append, steps?_plain hc, ih, Option.map_some]
      · rw [hwritten]
        show steps? ('\\' :: c :: (p.flatMap text ++ ['$'])) = _
        rw [steps?, if_pos hc, ih, Option.map_some]
    | anyChar =>
      rw [h.anyChar, List.singleton_append, steps?_anyChar hbody.append_anchor_ne_star, ih,
        Option.map_some]
    | anyText =>
      rw [h.anyText]
      show steps? ('.' :: '*' :: (p.flatMap text ++ ['$'])) = _
      rw [steps?, ih, Option.map_some]

/-- The expression of a pattern stands for the texts that follow the pattern. -/
theorem matches_flatMap_iff {p : Pattern} {cs : List Char} :
    Matches (p.flatMap text) cs ↔ p.Follows cs :=
  (h.isBody_flatMap p).matches_iff (h.steps?_flatMap p)

/-- An engine turns the expression of a pattern, if it admits it, into a test that accepts the texts
that follow the pattern. -/
theorem exists_test {engine : Engine} (hengine : engine.ReadsWellFormed) {p : Pattern}
    (hadmits : engine.Admits (String.ofList ('^' :: (p.flatMap text ++ ['$']))) true) :
    ∃ test, engine.compile (String.ofList ('^' :: (p.flatMap text ++ ['$']))) true = .ok test
      ∧ ∀ t : String, test t = true ↔ p.Follows t.toList := by
  have hbody := h.isBody_flatMap p
  obtain ⟨test, hcompile⟩ := hadmits.exists_test ⟨_, hbody, rfl⟩
  refine ⟨test, hcompile, fun t => ?_⟩
  rw [hengine _ hbody test hcompile, h.matches_flatMap_iff]

end IsWriting

end Regex

end ContentSearch
