import ContentSearch.Proofs.Pattern.Like
import ContentSearch.Proofs.Text.Folding

/-!
# Patterns without regard to case

Without regard to case, a pattern and the texts it is compared with are taken in lower case, and the
engine takes characters of one folding for the same. What a pattern stands for then is read off its
steps one by one (`Like.map_fold_steps_lowerFrom`): characters are folded in lower case, and the
other steps stay as they are. A text that a pattern stands for keeps being one, unless a step for
one character meets a character whose lower case has two.
-/

namespace ContentSearch

/-! ## Steps -/

namespace Step

/-- The step with its character folded. -/
def fold : Step → Step
  | .char c => .char (Text.foldChar c)
  | .anyChar => .anyChar
  | .anyText => .anyText

/-- The steps for the folding of the lower case of what the step stands for. -/
def folded : Step → Pattern
  | .char c => (Text.foldedChar c).map .char
  | .anyChar => [.anyChar]
  | .anyText => [.anyText]

end Step

namespace Pattern

/-- Characters are followed by themselves only. -/
theorem follows_map_char_append_iff {front cs : List Char} {p : Pattern} :
    Follows (front.map .char ++ p) cs ↔ ∃ back, cs = front ++ back ∧ Follows p back := by
  induction front generalizing cs with
  | nil => simp
  | cons c front ih =>
    rw [List.map_cons, List.cons_append, follows_char_iff]
    simp only [ih]
    constructor
    · rintro ⟨rest, rfl, back, rfl, hback⟩
      exact ⟨back, rfl, hback⟩
    · rintro ⟨back, rfl, hback⟩
      exact ⟨front ++ back, rfl, back, rfl, hback⟩

theorem follows_map_char_iff {cs ds : List Char} : Follows (cs.map .char) ds ↔ ds = cs := by
  have h : Follows (cs.map .char ++ []) ds ↔ ∃ back, ds = cs ++ back ∧ Follows [] back :=
    follows_map_char_append_iff
  rw [List.append_nil] at h
  rw [h]
  constructor
  · rintro ⟨back, rfl, hback⟩
    rw [follows_nil_iff.mp hback, List.append_nil]
  · rintro rfl
    exact ⟨[], (List.append_nil ds).symm, .nil⟩

/-- The foldings that follow the folded steps are those of the texts that follow the steps. -/
theorem follows_map_fold_iff {p : Pattern} {cs : List Char} :
    Follows (p.map Step.fold) (cs.map Text.foldChar)
      ↔ ∃ ds, Follows p ds ∧ ds.map Text.foldChar = cs.map Text.foldChar := by
  induction p generalizing cs with
  | nil =>
    rw [List.map_nil, follows_nil_iff]
    constructor
    · intro hnil
      exact ⟨[], .nil, hnil.symm⟩
    · rintro ⟨ds, hds, heq⟩
      rw [← heq, follows_nil_iff.mp hds, List.map_nil]
  | cons step p ih =>
    rw [List.map_cons]
    cases step with
    | char c =>
      rw [Step.fold, follows_char_iff]
      constructor
      · rintro ⟨rest, heq, hrest⟩
        obtain ⟨d, cs', rfl, hfold, rfl⟩ := List.map_eq_cons_iff.mp heq
        obtain ⟨ds, hds, hsame⟩ := ih.mp hrest
        exact ⟨c :: ds, follows_char_iff.mpr ⟨ds, rfl, hds⟩,
          by rw [List.map_cons, List.map_cons, hsame, hfold]⟩
      · rintro ⟨ds, hds, hsame⟩
        obtain ⟨ds', rfl, hds'⟩ := follows_char_iff.mp hds
        obtain ⟨d, cs', rfl, hfold, hrest⟩ := List.map_eq_cons_iff.mp hsame.symm
        exact ⟨cs'.map Text.foldChar, by rw [List.map_cons, hfold], ih.mpr ⟨ds', hds', hrest.symm⟩⟩
    | anyChar =>
      rw [Step.fold, follows_anyChar_iff]
      constructor
      · rintro ⟨f, rest, heq, hrest⟩
        obtain ⟨d, cs', rfl, -, rfl⟩ := List.map_eq_cons_iff.mp heq
        obtain ⟨ds, hds, hsame⟩ := ih.mp hrest
        exact ⟨d :: ds, follows_anyChar_iff.mpr ⟨d, ds, rfl, hds⟩,
          by rw [List.map_cons, List.map_cons, hsame]⟩
      · rintro ⟨ds, hds, hsame⟩
        obtain ⟨d, ds', rfl, hds'⟩ := follows_anyChar_iff.mp hds
        obtain ⟨d', cs', rfl, -, hrest⟩ := List.map_eq_cons_iff.mp hsame.symm
        exact ⟨_, cs'.map Text.foldChar, List.map_cons, ih.mpr ⟨ds', hds', hrest.symm⟩⟩
    | anyText =>
      rw [Step.fold, follows_anyText_iff]
      constructor
      · rintro ⟨front, back, heq, hback⟩
        obtain ⟨front, back, rfl, rfl, rfl⟩ := List.map_eq_append_iff.mp heq
        obtain ⟨ds, hds, hsame⟩ := ih.mp hback
        exact ⟨front ++ ds, follows_anyText_iff.mpr ⟨front, ds, rfl, hds⟩,
          by rw [List.map_append, List.map_append, hsame]⟩
      · rintro ⟨ds, hds, hsame⟩
        obtain ⟨front, back, rfl, hback⟩ := follows_anyText_iff.mp hds
        rw [List.map_append] at hsame
        obtain ⟨front', back', rfl, hfront, hrest⟩ := List.map_eq_append_iff.mp hsame.symm
        exact ⟨front'.map Text.foldChar, back'.map Text.foldChar, List.map_append,
          ih.mpr ⟨back, hback, hrest.symm⟩⟩

theorem anySuffix_map (f : Char → Char) (test : List Char → Bool) (cs : List Char) :
    anySuffix test (cs.map f) = anySuffix (fun rest => test (rest.map f)) cs := by
  induction cs with
  | nil => rfl
  | cons c rest ih => rw [List.map_cons, anySuffix, anySuffix, ih, List.map_cons]

/-- To take characters of one folding for the same is to test the foldings. -/
theorem follows_sameUpToCase (p : Pattern) (cs : List Char) :
    follows Text.sameUpToCase p cs
      = follows (· == ·) (p.map Step.fold) (cs.map Text.foldChar) := by
  induction p generalizing cs with
  | nil => cases cs <;> rfl
  | cons step p ih =>
    cases step with
    | char c =>
      cases cs with
      | nil => rfl
      | cons d rest =>
        rw [follows, ih]
        rfl
    | anyChar =>
      cases cs with
      | nil => rfl
      | cons d rest =>
        rw [follows, ih]
        rfl
    | anyText =>
      rw [follows, List.map_cons, Step.fold, follows, anySuffix_map, funext ih]

/-- The folding of a text follows the steps for it, unless a step for one character meets the
capital I with a dot. -/
theorem Follows.folded {p : Pattern} {cs : List Char} (h : Follows p cs)
    (hdotted : .anyChar ∈ p → Text.dottedI ∉ cs) :
    Follows (p.flatMap Step.folded) (cs.flatMap Text.foldedChar) := by
  induction h with
  | nil => exact .nil
  | @cons step p front back hstep hrest ih =>
    have hback : Follows (p.flatMap Step.folded) (back.flatMap Text.foldedChar) := by
      refine ih fun hmem hback => ?_
      exact hdotted (List.mem_cons_of_mem step hmem) (List.mem_append_right front hback)
    rw [List.flatMap_cons, List.flatMap_append]
    cases step with
    | char c =>
      obtain rfl : front = [c] := hstep
      rw [List.flatMap_singleton]
      exact follows_map_char_append_iff.mpr ⟨_, rfl, hback⟩
    | anyChar =>
      obtain ⟨c, rfl⟩ := hstep
      have hc : c ≠ Text.dottedI := by
        rintro rfl
        exact hdotted List.mem_cons_self (List.mem_append_left back List.mem_cons_self)
      obtain ⟨d, hd⟩ := Text.exists_foldedChar hc
      rw [List.flatMap_singleton, hd]
      exact follows_anyChar_iff.mpr ⟨d, _, rfl, hback⟩
    | anyText => exact follows_anyText_iff.mpr ⟨_, _, rfl, hback⟩

end Pattern

/-! ## Engines -/

namespace Regex

/-- Without regard to case, a test that the engine makes of a well-formed expression accepts a text
if the body of the expression stands for one that differs from it at most in the case of its
characters. -/
def Engine.IgnoresCase (engine : Engine) : Prop :=
  ∀ body, IsBody body →
    ∀ test, engine.compile (String.ofList ('^' :: (body ++ ['$']))) false = .ok test →
      ∀ t : String, test t = true
        ↔ ∃ cs, Matches body cs ∧ cs.map Text.foldChar = t.toList.map Text.foldChar

/-- The engine of the index ignores case. -/
theorem engine_ignoresCase : engine.IgnoresCase := by
  intro body hbody test hcompile t
  obtain ⟨p, hp⟩ := hbody.exists_steps
  rw [engine_compile ((pattern?_anchor _).trans hp) false] at hcompile
  obtain rfl := Except.ok.inj hcompile
  show Pattern.follows Text.sameUpToCase p t.toList = true ↔ _
  rw [Pattern.follows_sameUpToCase, Pattern.follows_eq_true_iff, Pattern.follows_map_fold_iff]
  simp only [hbody.matches_iff hp]

end Regex

/-! ## Patterns in lower case -/

namespace Like

/-- Without regard to case, an engine turns the expression of a pattern, if it admits it, into a
test that accepts the texts whose folding follows the folded steps. -/
theorem exists_test_ignoringCase {engine : Regex.Engine} (hengine : engine.IgnoresCase)
    {pattern : String} (hadmits : engine.Admits (regex pattern) false) :
    ∃ test, engine.compile (regex pattern) false = .ok test
      ∧ ∀ t : String, test t = true
        ↔ Pattern.Follows ((steps pattern.toList).map Step.fold)
            (t.toList.map Text.foldChar) := by
  have hbody := isWriting_stepText.isBody_flatMap (steps pattern.toList)
  obtain ⟨test, hcompile⟩ := hadmits.exists_test (isWellFormed_regex pattern)
  refine ⟨test, hcompile, fun t => ?_⟩
  rw [hengine _ hbody test hcompile, Pattern.follows_map_fold_iff]
  simp only [isWriting_stepText.matches_flatMap_iff]

/-- Whether a character stands for itself in a pattern. -/
def IsPlain (c : Char) : Prop :=
  c ≠ '%' ∧ c ≠ '_' ∧ c ≠ '\\'

theorem steps_cons_of_isPlain {c : Char} (hc : IsPlain c) (rest : List Char) :
    steps (c :: rest) = .char c :: steps rest := by
  obtain ⟨hpercent, hunderscore, hbackslash⟩ := hc
  rw [steps] <;> simp_all

theorem steps_append_of_isPlain {front : List Char} (h : ∀ c ∈ front, IsPlain c)
    (rest : List Char) : steps (front ++ rest) = front.map .char ++ steps rest := by
  induction front with
  | nil => rfl
  | cons c front ih =>
    obtain ⟨hc, hfront⟩ := List.forall_mem_cons.mp h
    rw [List.cons_append, steps_cons_of_isPlain hc, ih hfront]
    rfl

/-- The signs of patterns are not changed by lower case. -/
theorem lowerAt_of_sign {c : Char} (hc : c = '%' ∨ c = '_' ∨ c = '\\') (before after : List Char) :
    Text.lowerAt before c after = [c] := by
  have hlower : Text.isLower c = true := by
    rcases hc with rfl | rfl | rfl <;> decide
  rw [Text.lowerAt, if_neg (Text.ne_capitalSigma_of_isLower hlower),
    Text.lowerChar_of_isLower hlower]

/-- Nor do they come from other characters. -/
theorem isPlain_of_mem_lowerAt {before after : List Char} {c d : Char} (hc : IsPlain c)
    (hd : d ∈ Text.lowerAt before c after) : IsPlain d := by
  obtain ⟨hpercent, hunderscore, hbackslash⟩ := hc
  refine ⟨?_, ?_, ?_⟩
  · rintro rfl
    exact hpercent (Text.eq_of_mem_lowerAt hd (by decide))
  · rintro rfl
    exact hunderscore (Text.eq_of_mem_lowerAt hd (by decide))
  · rintro rfl
    exact hbackslash (Text.eq_of_mem_lowerAt hd (by decide))

/-- What a backslash makes literal becomes a literal character and plain ones in lower case. -/
theorem steps_backslash_lowerAt (before after : List Char) (c : Char) (rest : List Char) :
    steps ('\\' :: (Text.lowerAt before c after ++ rest))
      = (Text.lowerAt before c after).map .char ++ steps rest := by
  by_cases hc : c = Text.dottedI
  · have hdot : IsPlain '\u0307' := by
      refine ⟨?_, ?_, ?_⟩ <;> decide
    rw [hc, Text.lowerAt_dottedI]
    show steps ('\\' :: 'i' :: '\u0307' :: rest) = _
    rw [steps, steps_cons_of_isPlain hdot]
    rfl
  · obtain ⟨d, hd⟩ := Text.exists_lowerAt hc before after
    rw [hd]
    show steps ('\\' :: d :: rest) = _
    rw [steps]
    rfl

theorem map_fold_map_char (cs : List Char) :
    (cs.map Step.char).map Step.fold = (cs.map Text.foldChar).map Step.char := by
  rw [List.map_map, List.map_map]
  rfl

/-- The folded steps of a pattern in lower case are found step by step. -/
theorem map_fold_steps_lowerFrom (before pattern : List Char) :
    (steps (Text.lowerFrom before pattern)).map Step.fold
      = (steps pattern).flatMap Step.folded := by
  fun_induction steps pattern generalizing before with
  | case1 => rfl
  | case2 =>
    rw [Text.lowerFrom_cons, lowerAt_of_sign (.inr (.inr rfl))]
    show [Step.fold (.char '\\')] = [Step.char '\\'].flatMap Step.folded
    decide
  | case3 c rest ih =>
    rw [Text.lowerFrom_cons, lowerAt_of_sign (.inr (.inr rfl)), List.singleton_append,
      Text.lowerFrom_cons, steps_backslash_lowerAt, List.map_append, map_fold_map_char,
      Text.map_foldChar_lowerAt, ih]
    rfl
  | case4 rest ih =>
    rw [Text.lowerFrom_cons, lowerAt_of_sign (.inl rfl), List.singleton_append, steps,
      List.map_cons, ih]
    rfl
  | case5 rest ih =>
    rw [Text.lowerFrom_cons, lowerAt_of_sign (.inr (.inl rfl)), List.singleton_append, steps,
      List.map_cons, ih]
    rfl
  | case6 c rest hlast hliteral hpercent hunderscore ih =>
    -- a backslash is either the last character or followed by one
    have hbackslash : c ≠ '\\' := by
      rintro rfl
      cases rest with
      | nil => exact hlast rfl rfl
      | cons d others => exact hliteral d others rfl rfl
    have hplain : IsPlain c := ⟨hpercent, hunderscore, hbackslash⟩
    rw [Text.lowerFrom_cons, steps_append_of_isPlain fun d => isPlain_of_mem_lowerAt hplain,
      List.map_append, map_fold_map_char, Text.map_foldChar_lowerAt, ih]
    rfl

/-- Whether the folding of a text follows the steps of a pattern folded in lower case. -/
def MatchesFolded (pattern text : String) : Prop :=
  Pattern.Follows ((steps pattern.toList).flatMap Step.folded) (Text.folded text)

/-- Without regard to case, an engine turns the expression of a pattern in lower case, if it admits
it, into a test that accepts a text in lower case if the folding of the text follows the folded
steps. -/
theorem exists_test_lower {engine : Regex.Engine} (hengine : engine.IgnoresCase)
    {pattern : String} (hadmits : engine.Admits (regex (Text.lower pattern)) false) :
    ∃ test, engine.compile (regex (Text.lower pattern)) false = .ok test
      ∧ ∀ t : String, test (Text.lower t) = true ↔ MatchesFolded pattern t := by
  obtain ⟨test, hcompile, htest⟩ := exists_test_ignoringCase hengine hadmits
  refine ⟨test, hcompile, fun t => ?_⟩
  rw [htest, MatchesFolded, Text.folded, ← map_fold_steps_lowerFrom [], Text.lower,
    String.toList_ofList]

/-- A text that a pattern stands for matches it without regard to case, unless an underscore of the
pattern meets the capital I with a dot. -/
theorem Matches.matchesFolded {pattern text : String}
    (h : Matches pattern.toList text.toList)
    (hdotted : .anyChar ∈ steps pattern.toList → Text.dottedI ∉ text.toList) :
    MatchesFolded pattern text := by
  rw [MatchesFolded, Text.folded_eq_flatMap]
  exact (follows_steps_iff.mpr h).folded hdotted

/-- Every text matches a pattern whose lower case is the pattern of any text. -/
theorem matchesFolded_of_lower_eq {pattern : String} (h : Text.lower pattern = matchAll)
    (text : String) : MatchesFolded pattern text := by
  have hany : (steps pattern.toList).flatMap Step.folded = [.anyText] := by
    rw [← map_fold_steps_lowerFrom [],
      ← String.toList_ofList (l := Text.lowerFrom [] pattern.toList)]
    show (steps (Text.lower pattern).toList).map Step.fold = _
    rw [h]
    decide
  rw [MatchesFolded, hany]
  exact Pattern.follows_anyText_iff.mpr ⟨Text.folded text, [], (List.append_nil _).symm, .nil⟩

/-! ## Literal texts -/

/-- The pattern with a backslash before each character of a text. -/
def verbatim (s : String) : String :=
  String.ofList (s.toList.flatMap fun c => ['\\', c])

theorem steps_verbatim (s : String) : steps (verbatim s).toList = s.toList.map .char := by
  have hsteps : ∀ cs : List Char, steps (cs.flatMap fun c => ['\\', c]) = cs.map .char := by
    intro cs
    induction cs with
    | nil => rfl
    | cons c rest ih =>
      show steps ('\\' :: c :: rest.flatMap fun c => ['\\', c]) = _
      rw [steps, ih]
      rfl
  rw [verbatim, String.toList_ofList, hsteps]

/-- With regard to case, the pattern stands for the text alone. -/
theorem matches_verbatim_iff {s t : String} : Matches (verbatim s).toList t.toList ↔ t = s := by
  rw [← follows_steps_iff, steps_verbatim, Pattern.follows_map_char_iff, String.toList_inj]

/-- Without regard to case, the texts of the same folding match the pattern. -/
theorem matchesFolded_verbatim_iff {s t : String} :
    MatchesFolded (verbatim s) t ↔ Text.folded t = Text.folded s := by
  have hfolded : (s.toList.map Step.char).flatMap Step.folded
      = (s.toList.flatMap Text.foldedChar).map Step.char := by
    rw [List.flatMap_map, List.map_flatMap]
    rfl
  rw [MatchesFolded, steps_verbatim, hfolded, Pattern.follows_map_char_iff,
    Text.folded_eq_flatMap s]

end Like

end ContentSearch
