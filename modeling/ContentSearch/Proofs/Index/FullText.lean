import ContentSearch.Proofs.Index.Scan

/-!
# Joined expressions

Two expressions can be written behind each other. With `OR` between them they are answered by the
documents of either, and with nothing but a blank between them by the documents of both, as long as
the first leaves no phrase open (`SearchExpression.docs_joined`). An expression is read character by
character, so that the words of the whole are the words of the parts.
-/

namespace ContentSearch

/-! ## Reading character by character -/

namespace SearchWord

/-- Where reading stands after a character. -/
def Place.next : Place → Char → Place
  | .between, c =>
    if Text.isBlank c then .between
    else if c = '-' then .afterMinus
    else if c = '\x22' then .phrase false []
    else .word false [c]
  | .afterMinus, c =>
    if c = '\x22' then .phrase true []
    else if Text.isBlank c then .between
    else .word true [c]
  | .word excluded before, c =>
    if Text.isBlank c then .between else .word excluded (c :: before)
  | .phrase excluded before, c =>
    if c = '\x22' then .between else .phrase excluded (c :: before)

/-- The words that a character ends. -/
def Place.ended : Place → Char → List SearchWord
  | .between, _ => []
  | .afterMinus, c => if c ≠ '\x22' ∧ Text.isBlank c then [⟨[], true, false⟩] else []
  | .word excluded before, c =>
    if Text.isBlank c then [⟨before.reverse, excluded, false⟩] else []
  | .phrase excluded before, c =>
    if c = '\x22' then [⟨before.reverse, excluded, true⟩] else []

/-- Whether reading stands within a phrase. -/
def Place.isPhrase : Place → Bool
  | .phrase _ _ => true
  | .between | .afterMinus | .word _ _ => false

/-- A character may end a word, and the rest is scanned from the place after it. -/
theorem scan_cons (place : Place) (c : Char) (cs : List Char) :
    scan place (c :: cs) = place.ended c ++ scan (place.next c) cs := by
  cases place with
  | between =>
    rw [scan, Place.ended, Place.next]
    split
    · rfl
    · split
      · rfl
      · split <;> rfl
  | afterMinus =>
    rw [scan, Place.ended, Place.next]
    split
    · rename_i hquote
      rw [if_neg fun h => h.1 hquote]
      rfl
    · rename_i hquote
      split
      · rename_i hblank
        rw [if_pos ⟨hquote, hblank⟩]
        rfl
      · rename_i hblank
        rw [if_neg fun h => hblank h.2]
        rfl
  | word excluded before =>
    rw [scan, Place.ended, Place.next]
    split <;> rfl
  | phrase excluded before =>
    rw [scan, Place.ended, Place.next]
    split <;> rfl

/-- Outside of phrases, a blank ends what was read so far. -/
theorem scan_append_blank {place : Place} {front back : List Char} {blank : Char}
    (hblank : Text.isBlank blank = true)
    (hclosed : (front.foldl Place.next place).isPhrase = false) :
    scan place (front ++ blank :: back) = scan place front ++ scan .between back := by
  induction front generalizing place with
  | nil =>
    have hquote : blank ≠ '\x22' := by
      rintro rfl
      exact absurd hblank (by decide)
    cases place with
    | phrase excluded before => cases hclosed
    | between | afterMinus | word => simp [scan, hblank, hquote]
  | cons c rest ih =>
    rw [List.cons_append, scan_cons, scan_cons, ih hclosed, List.append_assoc]

end SearchWord

namespace SearchExpression

/-- The words of an expression. -/
def words (expression : String) : List SearchWord :=
  SearchWord.scan .between expression.toList

/-- Whether each phrase that an expression opens is closed in it. -/
def closesPhrases (expression : String) : Bool :=
  !(expression.toList.foldl SearchWord.Place.next .between).isPhrase

/-- Whether an expression has the word between alternatives. -/
def hasOr (expression : String) : Bool :=
  (words expression).any SearchWord.isOr

/-- Whether an expression asks for some token, to be there or not. -/
def asks (e : SearchExpression) : Bool :=
  e.any fun k => !k.required.isEmpty || !k.excluded.isEmpty

/-- Behind an expression that leaves no phrase open, and a blank, reading begins anew. -/
theorem scan_append_of_closesPhrases {e : String} (hclosed : closesPhrases e = true)
    (back : List Char) :
    SearchWord.scan .between (e.toList ++ ' ' :: back)
      = words e ++ SearchWord.scan .between back := by
  have hopen : (e.toList.foldl SearchWord.Place.next .between).isPhrase = false := by
    simpa [closesPhrases] using hclosed
  exact SearchWord.scan_append_blank (by decide) hopen

/-- The words of two expressions with a blank between them are those of both. -/
theorem words_append_blank {e₁ e₂ : String} (hclosed : closesPhrases e₁ = true) :
    words (e₁ ++ " " ++ e₂) = words e₁ ++ words e₂ := by
  have hchars : (e₁ ++ " " ++ e₂).toList = e₁.toList ++ ' ' :: e₂.toList := by simp
  rw [words, hchars, scan_append_of_closesPhrases hclosed]
  rfl

/-- The word between them is found as a word, as no phrase is open there. -/
theorem words_append_or {e₁ e₂ : String} (hclosed : closesPhrases e₁ = true) :
    words (e₁ ++ " OR " ++ e₂) = words e₁ ++ ⟨['O', 'R'], false, false⟩ :: words e₂ := by
  have hchars : (e₁ ++ " OR " ++ e₂).toList
      = e₁.toList ++ ' ' :: (['O', 'R'] ++ ' ' :: e₂.toList) := by simp
  -- the word between them leaves no phrase open either
  rw [words, hchars, scan_append_of_closesPhrases hclosed,
    SearchWord.scan_append_blank (by decide) (by decide)]
  rfl

end SearchExpression

/-! ## Clauses -/

namespace SearchClause

/-- The clause that asks for what either clause asks for. -/
def append (k k' : SearchClause) : SearchClause :=
  ⟨k.required ++ k'.required, k.excluded ++ k'.excluded⟩

theorem isEmpty_append_of_left {k : SearchClause} (h : k.isEmpty = false) (k' : SearchClause) :
    (k.append k').isEmpty = false := by
  simp only [isEmpty, append, Bool.and_eq_false_iff, List.isEmpty_eq_false_iff, ne_eq,
    List.append_eq_nil_iff, not_and_or] at h ⊢
  exact h.imp Or.inl Or.inl

/-- The clause of words that are all read as they are. -/
def ofWords (ws : List SearchWord) : SearchClause :=
  ⟨(ws.filter fun w => !w.excluded).flatMap (·.tokens), (ws.filter (·.excluded)).flatMap (·.tokens)⟩

/-- Adding words to a clause appends the clause that they make. -/
theorem foldl_add (k : SearchClause) (ws : List SearchWord) :
    ws.foldl add k = k.append (ofWords ws) := by
  induction ws generalizing k with
  | nil => simp [ofWords, append]
  | cons w rest ih =>
    rw [List.foldl_cons, ih, add]
    cases hexcluded : w.excluded <;> simp [ofWords, append, hexcluded]

/-- The clause of all words is made of those of the parts. -/
theorem ofWords_append (ws vs : List SearchWord) :
    ofWords (ws ++ vs) = (ofWords ws).append (ofWords vs) := by
  simp only [ofWords, append, List.filter_append, List.flatMap_append]

/-- The documents that a token is found in; none where the field is missing. -/
def tokenDocs (field? : Option FieldIndex) (token : String) : DocSet :=
  match field? with
  | some f => f.term token true
  | none => SortedSet.empty

theorem mem_docs {k : SearchClause} {field? : Option FieldIndex} {domain : DocSet} {d : Nat} :
    d ∈ k.docs field? domain
      ↔ d ∈ domain ∧ (∀ t ∈ k.required, d ∈ tokenDocs field? t)
        ∧ ∀ t ∈ k.excluded, d ∉ tokenDocs field? t := by
  cases field? with
  | some f =>
    rw [docs, Snapshot.mem_foldl_diff, Snapshot.mem_foldl_inter, and_assoc]
    rfl
  | none =>
    cases hrequired : k.required with
    | nil => simp [docs, hrequired, tokenDocs]
    | cons t rest =>
      -- the first of the required tokens is not found
      have hnone : k.docs none domain = SortedSet.empty := by simp [docs, hrequired]
      rw [hnone]
      refine iff_of_false SortedSet.not_mem_empty fun h => ?_
      exact SortedSet.not_mem_empty (h.2.1 t List.mem_cons_self)

/-- A clause of two parts finds what both parts find. -/
theorem mem_docs_append {k k' : SearchClause} {field? : Option FieldIndex} {domain : DocSet}
    {d : Nat} :
    d ∈ (k.append k').docs field? domain
      ↔ d ∈ k.docs field? domain ∧ d ∈ k'.docs field? domain := by
  simp only [mem_docs, append, List.forall_mem_append]
  constructor
  · rintro ⟨hd, ⟨hrequired, hrequired'⟩, hexcluded, hexcluded'⟩
    exact ⟨⟨hd, hrequired, hexcluded⟩, hd, hrequired', hexcluded'⟩
  · rintro ⟨⟨hd, hrequired, hexcluded⟩, -, hrequired', hexcluded'⟩
    exact ⟨hd, ⟨hrequired, hrequired'⟩, hexcluded, hexcluded'⟩

end SearchClause

namespace SearchExpression

/-- The clauses before the word between alternatives and those after it. -/
theorem ofWords_append_or (k : SearchClause) {or : SearchWord} (hor : or.isOr = true)
    (before after : List SearchWord) :
    ofWords k (before ++ or :: after) = ofWords k before ++ ofWords .empty after := by
  induction before generalizing k with
  | nil => simp only [List.nil_append, ofWords, hor, if_true]
  | cons w rest ih =>
    rw [List.cons_append, ofWords, ofWords, ih, ih]
    split
    · rw [List.append_assoc]
    · rfl

/-- Without the word between alternatives, the words make up one clause. -/
theorem ofWords_of_not_or (k : SearchClause) {ws : List SearchWord}
    (h : ∀ w ∈ ws, w.isOr = false) : ofWords k ws = (ws.foldl SearchClause.add k).toList := by
  induction ws generalizing k with
  | nil => rfl
  | cons w rest ih =>
    rw [List.forall_mem_cons] at h
    rw [ofWords, h.1, if_neg Bool.false_ne_true, ih _ h.2, List.foldl_cons]

theorem ofText_eq (e : String) : ofText e = ofWords .empty (words e) := rfl

/-- The alternatives of two expressions stand next to each other. -/
theorem ofText_append_or {e₁ e₂ : String} (hclosed : closesPhrases e₁ = true) :
    ofText (e₁ ++ " OR " ++ e₂) = ofText e₁ ++ ofText e₂ := by
  rw [ofText_eq, words_append_or hclosed, ofWords_append_or _ (by decide)]
  rfl

/-- An expression without alternatives has one clause, or none if it asks for nothing. -/
theorem ofText_of_not_hasOr {e : String} (hor : hasOr e = false) :
    ofText e = (SearchClause.ofWords (words e)).toList := by
  have hnone : ∀ w ∈ words e, w.isOr = false := by simpa [hasOr] using hor
  rw [ofText_eq, ofWords_of_not_or _ hnone, SearchClause.foldl_add]
  rfl

/-- An expression without alternatives asks for something if its words do. -/
theorem asks_of_not_hasOr {e : String} (hor : hasOr e = false) :
    (ofText e).asks = !(SearchClause.ofWords (words e)).isEmpty := by
  rw [ofText_of_not_hasOr hor, SearchClause.toList]
  split
  · rename_i hempty
    rw [hempty]
    rfl
  · simp [asks, SearchClause.isEmpty, Bool.not_and]

/-! ## Evaluation -/

variable {field? : Option FieldIndex} {domain : DocSet}

theorem mem_docs {e : SearchExpression} {d : Nat} :
    d ∈ e.docs field? domain ↔ ∃ k ∈ e, d ∈ k.docs field? domain := by
  rw [docs, Snapshot.mem_foldl_clauses, or_iff_right SortedSet.not_mem_empty]

/-- Alternatives find what the ones or the others find. -/
theorem docs_append (e e' : SearchExpression) :
    docs (e ++ e') field? domain = (e.docs field? domain).union (e'.docs field? domain) := by
  refine SortedSet.eq_of_mem_iff fun d => ?_
  simp only [SortedSet.mem_union, mem_docs, List.mem_append, or_and_right, exists_or]

/-- The documents of an expression without alternatives that asks for something are those of its
words. -/
theorem mem_docs_of_asks {e : String} (hor : hasOr e = false) (hasks : (ofText e).asks = true)
    {d : Nat} :
    d ∈ (ofText e).docs field? domain
      ↔ d ∈ (SearchClause.ofWords (words e)).docs field? domain := by
  rw [asks_of_not_hasOr hor, Bool.not_eq_true'] at hasks
  rw [ofText_of_not_hasOr hor, SearchClause.toList, hasks, if_neg Bool.false_ne_true, mem_docs]
  simp only [List.mem_singleton, exists_eq_left]

/-- Two expressions of which the first leaves no phrase open can be written behind each other. With
`OR` between them they are answered by the documents of either. If neither has alternatives, and
each asks for some token, they are answered by the documents of both when only a blank is between
them. -/
theorem docs_joined {e₁ e₂ : String} (hclosed : closesPhrases e₁ = true)
    (field? : Option FieldIndex) (domain : DocSet) :
    (ofText (e₁ ++ " OR " ++ e₂)).docs field? domain
        = ((ofText e₁).docs field? domain).union ((ofText e₂).docs field? domain)
      ∧ (hasOr e₁ = false → hasOr e₂ = false → (ofText e₁).asks = true → (ofText e₂).asks = true →
        (ofText (e₁ ++ " " ++ e₂)).docs field? domain
          = ((ofText e₁).docs field? domain).inter ((ofText e₂).docs field? domain)) := by
  refine ⟨by rw [ofText_append_or hclosed, docs_append], fun hor₁ hor₂ hasks₁ hasks₂ => ?_⟩
  have hwords : words (e₁ ++ " " ++ e₂) = words e₁ ++ words e₂ := words_append_blank hclosed
  have hor : hasOr (e₁ ++ " " ++ e₂) = false := by
    rw [hasOr, hwords, List.any_append, Bool.or_eq_false_iff]
    exact ⟨hor₁, hor₂⟩
  have hasks : (ofText (e₁ ++ " " ++ e₂)).asks = true := by
    rw [asks_of_not_hasOr hor₁, Bool.not_eq_true'] at hasks₁
    rw [asks_of_not_hasOr hor, hwords, SearchClause.ofWords_append,
      SearchClause.isEmpty_append_of_left hasks₁, Bool.not_false]
  refine SortedSet.eq_of_mem_iff fun d => ?_
  rw [SortedSet.mem_inter, mem_docs_of_asks hor hasks, mem_docs_of_asks hor₁ hasks₁,
    mem_docs_of_asks hor₂ hasks₂, hwords, SearchClause.ofWords_append,
    SearchClause.mem_docs_append]

/-! ## Missions to the moon -/

/-- What three documents say about missions. -/
def missions : FieldIndex :=
  ((FieldIndex.empty.insert 1 ["apollo", "landed", "on", "the", "moon"]).insert 2
    ["gemini", "rehearsed", "before", "the", "moon"]).insert 3 ["mercury", "orbited"]

/-- A word and an excluded phrase, which is closed. -/
def notLanded : String := "moon -\x22landed on\x22"

/-- The phrase at the end of the first expression is closed, so that it does not take in what stands
behind it. Missions that did not land are united with those of the other word, and intersected with
them. -/
theorem docs_joined_missions :
    closesPhrases notLanded = true ∧ hasOr notLanded = false ∧ hasOr "the" = false
      ∧ (ofText notLanded).asks = true ∧ (ofText "the").asks = true
      ∧ ((ofText (notLanded ++ " OR " ++ "the")).docs (some missions) (.ofList [1, 2, 3])).toList
        = [1, 2]
      ∧ ((ofText (notLanded ++ " " ++ "the")).docs (some missions) (.ofList [1, 2, 3])).toList
        = [2] := by
  have hclosed : closesPhrases notLanded = true := by decide
  have hor : hasOr notLanded = false ∧ hasOr "the" = false := by decide
  have hasks : (ofText notLanded).asks = true ∧ (ofText "the").asks = true := by decide
  obtain ⟨heither, hboth⟩ :=
    @docs_joined notLanded "the" hclosed (some missions) (.ofList [1, 2, 3])
  refine ⟨hclosed, hor.1, hor.2, hasks.1, hasks.2, ?_, ?_⟩
  · rw [heither]
    decide
  · rw [hboth hor.1 hor.2 hasks.1 hasks.2]
    decide

end SearchExpression

end ContentSearch
