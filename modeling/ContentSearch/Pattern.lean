import ContentSearch.Text.Folding

/-!
# Patterns

A pattern is a sequence of steps, each of which stands for one character or for any text. A text
matches when the steps take it up as a whole.
-/

namespace ContentSearch

/-- A step of a pattern. -/
inductive Step
  | char (c : Char)
  | anyChar
  | anyText
  deriving DecidableEq, Repr

/-- The steps that a text must follow from its first to its last character. -/
abbrev Pattern := List Step

namespace Pattern

/-- Whether a test holds of some end part of a text. -/
def anySuffix (test : List Char → Bool) : List Char → Bool
  | [] => test []
  | c :: cs => test (c :: cs) || anySuffix test cs

/-- Whether the whole text follows the steps, where `same` says which characters stand for each
other. -/
def follows (same : Char → Char → Bool) : Pattern → List Char → Bool
  | [], cs => cs.isEmpty
  | .char p :: steps, c :: cs => same p c && follows same steps cs
  | .anyChar :: steps, _ :: cs => follows same steps cs
  | .anyText :: steps, cs => anySuffix (follows same steps) cs
  | .char _ :: _, [] => false
  | .anyChar :: _, [] => false

/-- Whether a text matches, with or without regard to case. -/
def matchesText (p : Pattern) (caseSensitive : Bool) (s : String) : Bool :=
  follows (if caseSensitive then (· == ·) else Text.sameUpToCase) p s.toList

theorem anySuffix_iff {test : List Char → Bool} {cs : List Char} :
    anySuffix test cs = true ↔ ∃ front back, cs = front ++ back ∧ test back = true := by
  induction cs with
  | nil =>
    constructor
    · intro h
      exact ⟨[], [], rfl, h⟩
    · rintro ⟨front, back, h, ht⟩
      obtain ⟨rfl, rfl⟩ := List.append_eq_nil_iff.mp h.symm
      exact ht
  | cons c cs ih =>
    rw [anySuffix, Bool.or_eq_true, ih]
    constructor
    · rintro (h | ⟨front, back, rfl, h⟩)
      · exact ⟨[], _, rfl, h⟩
      · exact ⟨c :: front, back, rfl, h⟩
    · rintro ⟨front, back, h, ht⟩
      cases front with
      | nil =>
        left
        rw [show c :: cs = back from h]
        exact ht
      | cons d front =>
        right
        obtain ⟨rfl, rfl⟩ := List.cons.inj h
        exact ⟨front, back, rfl, ht⟩

end Pattern

end ContentSearch
