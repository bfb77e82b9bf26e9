import ContentSearch.Proofs.Number.Digits
import ContentSearch.Query.Statement

/-!
# Reading the lexemes of statements

Statements are made of fixed words, names, texts in quotes and numbers. A reader takes one of them
off the front of a text and hands on the rest. Every lemma here has the same form: what was written
is read back, whatever follows, as long as the follower cannot continue it (`ends`).
-/

namespace ContentSearch

open Number

namespace Statement

/-- A reader takes something off the front of a text, or refuses the text. -/
abbrev Reader := StateT (List Char) Option

/-! ## Fixed words -/

/-- What follows a word at the front of a text. -/
def skip? (word : String) (cs : List Char) : Option (List Char) :=
  if word.toList.isPrefixOf cs then some (cs.drop word.toList.length) else none

/-- A word is skipped exactly if the text begins with it. -/
theorem skip?_eq_some_iff {word : String} {cs rest : List Char} :
    skip? word cs = some rest ↔ cs = word.toList ++ rest := by
  unfold skip?
  split
  · rename_i hprefix
    obtain ⟨tail, rfl⟩ := List.isPrefixOf_iff_prefix.mp hprefix
    simp
  · rename_i hprefix
    refine iff_of_false (by simp) fun hcs => hprefix ?_
    rw [hcs]
    exact List.isPrefixOf_iff_prefix.mpr (List.prefix_append _ _)

@[simp] theorem skip?_append (word : String) (rest : List Char) :
    skip? word (word.toList ++ rest) = some rest :=
  skip?_eq_some_iff.mpr rfl

/-- Takes a word off the front. -/
def expect (word : String) : Reader Unit := fun cs =>
  (skip? word cs).map fun rest => ((), rest)

/-- Reads on behind a word if it stands at the front, and otherwise in another way. -/
def ifNext {α : Type} (word : String) (behind otherwise : Reader α) : Reader α := fun cs =>
  match skip? word cs with
  | some rest => behind rest
  | none => otherwise cs

/-- Reads what may stand behind a word. -/
def readAfter {α : Type} (word : String) (r : Reader α) : Reader (Option α) :=
  ifNext word (some <$> r) (return none)

section
variable {α β : Type} {cs rest : List Char}

/-- A reader goes on where the one before it stopped. -/
theorem run_bind_of_run {r : Reader α} {a : α} (h : r.run cs = some (a, rest))
    (next : α → Reader β) : (r >>= next).run cs = (next a).run rest := by
  rw [StateT.run_bind, h]
  rfl

/-- A reader with a function on top reads as far as the reader itself. -/
theorem run_map_of_run {r : Reader α} {a : α} (h : r.run cs = some (a, rest)) (f : α → β) :
    (f <$> r).run cs = some (f a, rest) := by
  rw [StateT.run_map, h]
  rfl

/-- The second of two readers is not asked if the first one reads something. -/
theorem run_orElse_of_run {r : Reader α} {a : α} (h : r.run cs = some (a, rest))
    (other : Reader α) : (r <|> other).run cs = some (a, rest) := by
  show (r.run cs <|> other.run cs) = _
  rw [h]
  rfl

theorem run_orElse_of_none {r : Reader α} (h : r.run cs = none) (other : Reader α) :
    (r <|> other).run cs = other.run cs := by
  show (r.run cs <|> other.run cs) = _
  rw [h]
  rfl

/-- A word that is expected is passed over. -/
@[simp] theorem expect_append (word : String) (rest : List Char) :
    (expect word).run (word.toList ++ rest) = some ((), rest) := by
  show expect word (word.toList ++ rest) = _
  rw [expect, skip?_append]
  rfl

/-- A word that comes next decides for the first reader. -/
@[simp] theorem ifNext_append (word : String) (behind otherwise : Reader α) (rest : List Char) :
    (ifNext word behind otherwise).run (word.toList ++ rest) = behind.run rest := by
  show ifNext word behind otherwise (word.toList ++ rest) = _
  rw [ifNext, skip?_append]
  rfl

/-- Without the word, the second reader goes on where it stands. -/
theorem ifNext_of_skip? {word : String} (h : skip? word cs = none) (behind otherwise : Reader α) :
    (ifNext word behind otherwise).run cs = otherwise.run cs := by
  show ifNext word behind otherwise cs = _
  rw [ifNext, h]
  rfl

/-- What stands behind its word is read. -/
theorem readAfter_append {word : String} {r : Reader α} {a : α} (h : r.run cs = some (a, rest)) :
    (readAfter word r).run (word.toList ++ cs) = some (some a, rest) := by
  rw [readAfter, ifNext_append, run_map_of_run h]

/-- Without the word, nothing is read and nothing passed over. -/
theorem readAfter_of_skip? {word : String} (h : skip? word cs = none) (r : Reader α) :
    (readAfter word r).run cs = some (none, cs) := by
  rw [readAfter, ifNext_of_skip? h]
  rfl

end

/-! ## What ends a lexeme -/

/-- Nothing continues a name, a number or a text in quotes before this: there is nothing, or a
blank, a comma, a point or a parenthesis. -/
def ends : List Char → Bool
  | [] => true
  | c :: _ => c == ' ' || c == ',' || c == '.' || c == '(' || c == ')'

/-- The character at the front of what ends a lexeme. -/
theorem head_of_ends {c : Char} {rest : List Char} (h : ends (c :: rest) = true) :
    c = ' ' ∨ c = ',' ∨ c = '.' ∨ c = '(' ∨ c = ')' := by
  simpa [ends, or_assoc] using h

/-- A class of characters without blanks, commas, points and parentheses is left where a lexeme
ends. -/
theorem not_of_ends {p : Char → Bool} (hp : [' ', ',', '.', '(', ')'].all fun c => !p c)
    {rest : List Char} (h : ends rest = true) : ∀ c ∈ rest.head?, p c = false := by
  intro c hc
  cases rest with
  | nil => cases hc
  | cons d rest =>
    obtain rfl := Option.some.inj hc
    simp only [List.all_cons, List.all_nil, Bool.and_true, Bool.and_eq_true,
      Bool.not_eq_true'] at hp
    obtain ⟨hblank, hcomma, hpoint, hopen, hclose⟩ := hp
    rcases head_of_ends h with rfl | rfl | rfl | rfl | rfl <;> assumption

/-- A whole part of a statement ends here: there is nothing, or a blank, a comma or a closing
parenthesis. -/
def closes : List Char → Bool
  | [] => true
  | c :: _ => c == ' ' || c == ',' || c == ')'

/-- A word ends where a part of a statement is closed. -/
theorem ends_of_closes {rest : List Char} (h : closes rest = true) : ends rest = true := by
  cases rest with
  | nil => rfl
  | cons c rest =>
    simp only [closes, Bool.or_eq_true, beq_iff_eq] at h
    rcases h with (rfl | rfl) | rfl <;> rfl

/-- Neither a point nor an opening parenthesis follows a part that ends. -/
theorem skip?_of_closes {rest : List Char} (h : closes rest = true) :
    skip? "." rest = none ∧ skip? "(" rest = none := by
  cases rest with
  | nil => exact ⟨rfl, rfl⟩
  | cons c rest =>
    simp only [closes, Bool.or_eq_true, beq_iff_eq] at h
    rcases h with (rfl | rfl) | rfl <;> exact ⟨rfl, rfl⟩

/-! ## Texts between marks -/

/-- Reads up to a mark that does not stand twice; a mark that stands twice is read once. -/
def readDoubled (mark : Char) : Reader (List Char)
  | [] => none
  | [c] => if c = mark then some ([], []) else none
  | c :: d :: rest =>
    if c = mark then
      if d = mark then (readDoubled mark rest).map fun r => (mark :: r.1, r.2)
      else some ([], d :: rest)
    else (readDoubled mark (d :: rest)).map fun r => (c :: r.1, r.2)

/-- Text in which marks are doubled is read up to the single mark after it. -/
theorem readDoubled_doubling {mark : Char} (cs : List Char) {rest : List Char}
    (hrest : ∀ c ∈ rest.head?, c ≠ mark) :
    (readDoubled mark).run (doubling mark cs ++ mark :: rest) = some (cs, rest) := by
  show readDoubled mark (doubling mark cs ++ mark :: rest) = some (cs, rest)
  induction cs with
  | nil =>
    cases rest with
    | nil => simp [doubling, readDoubled]
    | cons c rest =>
      have hc : c ≠ mark := hrest c rfl
      simp [doubling, readDoubled, hc]
  | cons c cs ih =>
    have hdoubling : doubling mark (c :: cs)
        = (if c = mark then [c, c] else [c]) ++ doubling mark cs := rfl
    rw [hdoubling]
    by_cases hc : c = mark
    · subst hc
      simp [readDoubled, ih]
    · -- the mark at the end is there in any case, so that at least one character follows
      obtain ⟨d, tail, htail⟩ : ∃ d tail, doubling mark cs ++ mark :: rest = d :: tail := by
        cases h : doubling mark cs with
        | nil => exact ⟨mark, rest, rfl⟩
        | cons d tail => exact ⟨d, tail ++ mark :: rest, rfl⟩
      rw [if_neg hc, List.append_assoc, List.singleton_append, htail, readDoubled, if_neg hc,
        ← htail, ih]
      rfl

/-- The rest of a text in single quotes, behind the first quote. -/
def readQuotedRest : Reader String :=
  String.ofList <$> readDoubled '\x27'

/-- A text in single quotes. -/
def readQuoted : Reader String := do
  expect "\x27"
  readQuotedRest

/-- A quoted text is read back, with the quotes in it. -/
theorem readQuoted_quoted (s : String) {rest : List Char} (h : ends rest = true) :
    readQuoted.run ((quoted s).toList ++ rest) = some (s, rest) := by
  have hmark : ∀ c ∈ rest.head?, c ≠ '\x27' := by
    intro c hc
    have hne := not_of_ends (p := (· == '\x27')) (by decide) h c hc
    simpa using hne
  have hlist : (quoted s).toList ++ rest
      = "\x27".toList ++ (doubling '\x27' s.toList ++ '\x27' :: rest) := by
    simp [quoted]
  rw [hlist, readQuoted, run_bind_of_run (expect_append _ _), readQuotedRest,
    run_map_of_run (readDoubled_doubling s.toList hmark), String.ofList_toList]

/-! ## Names -/

/-- A plain identifier. -/
def readIdentifier : Reader String := fun cs =>
  match cs with
  | [] => none
  | c :: rest =>
    if isIdentifierStart c then
      some (String.ofList (c :: rest.takeWhile isIdentifierPart), rest.dropWhile isIdentifierPart)
    else none

/-- A name in brackets or a plain identifier. -/
def readName : Reader String :=
  ifNext "[" (String.ofList <$> readDoubled ']') readIdentifier

/-- A plain name is read up to where it ends. -/
theorem readIdentifier_of_isIdentifier {s : String} (hs : isIdentifier s = true)
    {rest : List Char} (h : ends rest = true) :
    readIdentifier.run (s.toList ++ rest) = some (s, rest) := by
  unfold isIdentifier at hs
  split at hs
  · cases hs
  · rename_i c cs hlist
    rw [Bool.and_eq_true] at hs
    have hcut := takeWhile_append_of_head (List.all_eq_true.mp hs.2)
      (not_of_ends (p := isIdentifierPart) (by decide) h)
    rw [hlist]
    show readIdentifier (c :: (cs ++ rest)) = _
    rw [readIdentifier]
    simp only [hs.1, if_true, hcut.1, hcut.2]
    rw [← hlist, String.ofList_toList]

/-- A plain identifier does not begin with a bracket. -/
theorem skip?_bracket_of_isIdentifier {s : String} (hs : isIdentifier s = true)
    (rest : List Char) : skip? "[" (s.toList ++ rest) = none := by
  cases hskip : skip? "[" (s.toList ++ rest) with
  | none => rfl
  | some tail =>
    rw [skip?_eq_some_iff] at hskip
    unfold isIdentifier at hs
    split at hs
    · cases hs
    · rename_i c cs hlist
      rw [hlist] at hskip
      obtain ⟨rfl, -⟩ : c = '[' ∧ cs ++ rest = tail := by simpa using hskip
      exact absurd hs (by simp [isIdentifierStart])

/-- Names are read back, whichever way they are written. -/
theorem readName_ident (s : String) {rest : List Char} (h : ends rest = true) :
    readName.run ((ident s).toList ++ rest) = some (s, rest) := by
  by_cases hs : isIdentifier s = true
  · rw [ident, if_pos hs, readName, ifNext_of_skip? (skip?_bracket_of_isIdentifier hs rest)]
    exact readIdentifier_of_isIdentifier hs h
  · have hmark : ∀ c ∈ rest.head?, c ≠ ']' := by
      intro c hc
      have hne := not_of_ends (p := (· == ']')) (by decide) h c hc
      simpa using hne
    have hlist : ("[" ++ String.ofList (doubling ']' s.toList) ++ "]").toList ++ rest
        = "[".toList ++ (doubling ']' s.toList ++ ']' :: rest) := by
      simp
    rw [ident, if_neg hs, hlist, readName, ifNext_append,
      run_map_of_run (readDoubled_doubling s.toList hmark), String.ofList_toList]

/-- What is no name at the front is not at the front of a name. -/
theorem skip?_ident {word : String} (hword : ∀ tail, readName.run (word.toList ++ tail) = none)
    (s : String) {rest : List Char} (h : ends rest = true) :
    skip? word ((ident s).toList ++ rest) = none := by
  cases hskip : skip? word ((ident s).toList ++ rest) with
  | none => rfl
  | some tail =>
    have hread := readName_ident s h
    rw [skip?_eq_some_iff.mp hskip, hword] at hread
    cases hread

/-- A function, which is a name with a parenthesis behind it, or something else that begins with a
name. -/
def readCall {α : Type} (function other : String → Reader α) : Reader α := do
  let first ← readName
  ifNext "(" (function first) (other first)

/-- A plain name with a bracket behind it is taken for a function. -/
theorem readCall_function {α : Type} {word : String} (hword : ident word = word)
    (function other : String → Reader α) (rest : List Char) :
    (readCall function other).run ((word ++ "(").toList ++ rest) = (function word).run rest := by
  have hread := readName_ident word (show ends ("(".toList ++ rest) = true from rfl)
  rw [hword] at hread
  rw [String.toList_append, List.append_assoc, readCall, run_bind_of_run hread, ifNext_append]

/-- A name without a bracket behind it is taken for something else, whatever it is. -/
theorem readCall_other {α : Type} (function other : String → Reader α) (s : String)
    {rest : List Char} (h : ends rest = true) (hopen : skip? "(" rest = none) :
    (readCall function other).run ((ident s).toList ++ rest) = (other s).run rest := by
  rw [readCall, run_bind_of_run (readName_ident s h), ifNext_of_skip? hopen]

/-! ## Numbers -/

/-- A run of digits. -/
def readNatural : Reader Nat := fun cs =>
  (natural? (cs.takeWhile Char.isDigit)).map fun n => (n, cs.dropWhile Char.isDigit)

/-- A number without sign is read back. -/
theorem readNatural_repr (n : Nat) {rest : List Char} (h : ends rest = true) :
    readNatural.run ((Nat.repr n).toList ++ rest) = some (n, rest) := by
  have hdigits : ∀ c ∈ Nat.toDigits 10 n, c.isDigit = true := fun c hc =>
    Nat.isDigit_of_mem_toDigits (by decide) (by decide) hc
  have hcut := takeWhile_append_of_head hdigits (not_of_ends (p := Char.isDigit) (by decide) h)
  show readNatural ((String.ofList (Nat.toDigits 10 n)).toList ++ rest) = _
  rw [String.toList_ofList, readNatural, hcut.1, hcut.2, natural?_toDigits]
  rfl

/-- The 64-bit integer of this value; a value out of range is refused. -/
def inRange (n : Int) : Reader Int64 :=
  match int64? n with
  | some m => return m
  | none => failure

/-- A 64-bit integer. -/
def readLong : Reader Int64 :=
  ifNext "-" (do inRange (-(← readNatural))) (do inRange (← readNatural))

theorem inRange_toInt (n : Int64) (rest : List Char) :
    (inRange n.toInt).run rest = some (n, rest) := by
  rw [inRange, int64?_toInt]
  rfl

/-- A number does not begin with a sign. -/
theorem skip?_sign_repr (n : Nat) {rest : List Char} (h : ends rest = true) :
    skip? "-" ((Nat.repr n).toList ++ rest) = none := by
  cases hskip : skip? "-" ((Nat.repr n).toList ++ rest) with
  | none => rfl
  | some tail =>
    have hread := readNatural_repr n h
    rw [skip?_eq_some_iff.mp hskip] at hread
    cases hread

/-- An integer of 64 bits is read back, with its sign. -/
theorem readLong_longText (n : Int64) {rest : List Char} (h : ends rest = true) :
    readLong.run ((Value.longText n).toList ++ rest) = some (n, rest) := by
  have hnatural := readNatural_repr n.toInt.natAbs h
  by_cases hneg : n.toInt < 0
  · have hint : -(n.toInt.natAbs : Int) = n.toInt := by omega
    rw [Value.longText, if_pos hneg, String.toList_append, List.append_assoc, readLong,
      ifNext_append, run_bind_of_run hnatural, hint]
    exact inRange_toInt n rest
  · have hint : (n.toInt.natAbs : Int) = n.toInt := by omega
    rw [Value.longText, if_neg hneg, readLong, ifNext_of_skip? (skip?_sign_repr _ h),
      run_bind_of_run hnatural, hint]
    exact inRange_toInt n rest

end Statement

end ContentSearch
