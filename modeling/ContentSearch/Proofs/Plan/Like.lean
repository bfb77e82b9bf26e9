import ContentSearch.Proofs.Index.Field
import ContentSearch.Proofs.Pattern.Like
import ContentSearch.Proofs.Plan.Meaning

/-!
# Comparisons by pattern

A column of text, a name or a local name that is compared by `LIKE` is planned as a regular
expression on the field that keeps its texts, or for the pattern of any text as a shorter predicate.
The main statement says that either way the entries are selected that have a text the pattern stands
for, for every pattern and every history of the index. Of the engine it asks what the tests of
well-formed expressions accept, and that it does not refuse the expression of this pattern if that
is well-formed.
-/

namespace ContentSearch

variable {engine : Regex.Engine}

/-! ## Patterns and terms -/

theorem Predicate.compiles_regex_like {pattern : String}
    (hadmits : engine.Admits (Like.regex pattern) true) (field : String) :
    (Predicate.regex field (Like.regex pattern) true).compiles engine = true :=
  hadmits (Like.isWellFormed_regex pattern)

/-- The pattern of any text stands for all texts. -/
theorem Like.matches_matchAll (cs : List Char) : Like.Matches Like.matchAll.toList cs := by
  have h : Like.Matches ['%'] (cs ++ []) := .anyText .nil
  rwa [List.append_nil] at h

namespace Entry

/-- The regular expression of a pattern is satisfied by the entries with a term that the pattern
stands for. -/
theorem satisfies_like (hengine : engine.ReadsWellFormed) {pattern : String}
    (hadmits : engine.Admits (Like.regex pattern) true) (e : Entry) (field : String) :
    e.satisfies engine (.regex field (Like.regex pattern) true) = true
      ↔ ∃ t ∈ e.termsIn field, Like.Matches pattern.toList t.toList := by
  obtain ⟨test, hcompile, htest⟩ := Like.exists_test hengine hadmits
  rw [satisfies, anyMatch, hcompile]
  show (e.termsIn field).any test = true ↔ _
  rw [List.any_eq_true]
  simp only [htest]

/-- Having a term is having one that the pattern of any text stands for. -/
theorem satisfies_hasTerm_eq_like (hengine : engine.ReadsWellFormed)
    (hadmits : engine.Admits (Like.regex Like.matchAll) true) (e : Entry) (field : String) :
    e.satisfies engine (.hasTerm field)
      = e.satisfies engine (.regex field (Like.regex Like.matchAll) true) := by
  rw [Bool.eq_iff_iff, satisfies_like hengine hadmits, satisfies, Bool.not_eq_true',
    List.isEmpty_eq_false_iff_exists_mem]
  simp only [Like.matches_matchAll, and_true]

end Entry

/-! ## Comparisons -/

namespace Comparison

variable {c : Comparison} {pattern : String}

theorem fold_of_caseSensitive (hcase : c.caseSensitive = true) (s : String) : c.fold s = s := by
  rw [fold, if_pos hcase]

theorem textValue_of_asText (hcase : c.caseSensitive = true)
    (hpattern : c.value.asText? = some pattern) : c.textValue = .ok pattern := by
  unfold textValue
  simp only [hpattern, fold_of_caseSensitive hcase]

theorem ownText_of_asText (hcase : c.caseSensitive = true)
    (hpattern : c.value.asText? = some pattern) (operand : OperandKind) :
    c.ownText operand = .ok pattern := by
  unfold ownText
  simp only [hpattern, fold_of_caseSensitive hcase]

/-- The predicate of a pattern on the terms of a field: the pattern of any text only asks for a
term. -/
def termLike (field pattern : String) : Predicate :=
  if pattern = Like.matchAll then .hasTerm field
  else .regex field (Like.regex pattern) true

theorem propertyLike_of_isText (hcase : c.caseSensitive = true)
    (hpattern : c.value.asText? = some pattern) {type : PropertyType} (htext : type.isText = true)
    (field : String) : c.propertyLike field (some type) = .ok (termLike field pattern) := by
  have hfilter : (some type).filter (!·.isText) = none := by simp [Option.filter, htext]
  unfold propertyLike termLike
  rw [hfilter]
  simp only [textValue_of_asText hcase hpattern, Outcome.ok_bind, hcase]
  split <;> rfl

section
variable (hadmits : engine.Admits (Like.regex pattern) true)
include hadmits

theorem compiles_termLike (field : String) : (termLike field pattern).compiles engine = true := by
  unfold termLike
  split
  · rfl
  · exact Predicate.compiles_regex_like hadmits field

theorem compiles_nameLike (field : String) :
    (nameLike field pattern true).compiles engine = true := by
  unfold nameLike
  split
  · rfl
  · exact Predicate.compiles_regex_like hadmits field

variable (hengine : engine.ReadsWellFormed)
include hengine

theorem satisfies_termLike (e : Entry) (field : String) :
    e.satisfies engine (termLike field pattern)
      = e.satisfies engine (.regex field (Like.regex pattern) true) := by
  unfold termLike
  split
  · rename_i hall
    subst hall
    exact e.satisfies_hasTerm_eq_like hengine hadmits field
  · rfl

/-- Every entry with a term in the field satisfies the regular expression of the pattern of any
text, so that nothing is asked of it. -/
theorem satisfies_nameLike {e : Entry} {field t : String} (ht : t ∈ e.termsIn field) :
    e.satisfies engine (nameLike field pattern true)
      = e.satisfies engine (.regex field (Like.regex pattern) true) := by
  unfold nameLike
  split
  · rename_i hall
    subst hall
    rw [(e.satisfies_like hengine hadmits field).mpr ⟨t, ht, Like.matches_matchAll t.toList⟩]
    rfl
  · rfl

end

end Comparison

/-! ## Operands of text -/

namespace Scope

/-- The operands of text, each with the field that keeps its texts and with the texts that an entry
has for it: the terms in the field of a column of text that allows patterns, the name of the entry,
and its local name. -/
inductive HoldsText (s : Scope) : Operand → String → (Entry → List String) → Prop
  | column {ref : PropertyRef} {selector : PlanSelector} {column : Column}
    (hselector : s.selector ref.selector? = .ok selector)
    (hcolumn : s.column? selector ref.property = some column)
    (htext : column.type.isText = true) (hallowed : column.supports .like = true) :
    HoldsText s (.property ref) (selector.propertyField ref.property)
      fun e => e.termsIn (selector.propertyField ref.property)
  | name (name? : Option String) : HoldsText s (.name name?) Field.name fun e => [e.name]
  | localName (name? : Option String) :
    HoldsText s (.localName name?) Field.localName fun e => [e.localName]

variable {s : Scope} {operand : Operand} {field : String} {texts : Entry → List String}

/-- The texts of an operand are the terms in its field. -/
theorem HoldsText.mem_texts (h : s.HoldsText operand field texts) {e : Entry} {t : String} :
    t ∈ texts e ↔ t ∈ e.termsIn field := by
  cases h with
  | column => exact Iff.rfl
  | name => rw [Entry.mem_termsIn_name, List.mem_singleton]
  | localName => rw [Entry.mem_termsIn_localName, List.mem_singleton]

variable {right : StaticOperand} {v : Value} {pattern : String}

/-- Patterns are allowed for operands of text. -/
theorem HoldsText.checkOperator (h : s.HoldsText operand field texts) :
    s.checkOperator operand .like = .ok () := by
  cases h with
  | column hselector hcolumn htext hallowed =>
    simp only [Scope.checkOperator, restrictingProperty?, hselector, Outcome.ok_bind, hcolumn,
      hallowed, if_true]
  | name => rfl
  | localName => rfl

/-- A comparison by pattern is planned as a predicate that says of every entry what the regular
expression of the pattern says. -/
theorem HoldsText.exists_comparison (h : s.HoldsText operand field texts)
    (hcase : s.rules.caseSensitive = true) (hpattern : v.asText? = some pattern)
    (hengine : engine.ReadsWellFormed) (hadmits : engine.Admits (Like.regex pattern) true) :
    ∃ p, s.comparison operand .like v = .ok p ∧ p.compiles engine = true
      ∧ ∀ e : Entry, e.satisfies engine p
        = e.satisfies engine (.regex field (Like.regex pattern) true) := by
  cases h with
  | column hselector hcolumn htext hallowed =>
    refine ⟨_, ?_, Comparison.compiles_termLike hadmits _,
      fun e => Comparison.satisfies_termLike hadmits hengine e _⟩
    simp only [comparison, plainComparison, hselector, Outcome.ok_bind, hcolumn, Option.map_some,
      Comparison.onProperty, hcase]
    rw [Comparison.propertyLike_of_isText rfl hpattern htext]
    rfl
  | name name? =>
    refine ⟨_, ?_, Comparison.compiles_nameLike hadmits Field.name,
      fun e => Comparison.satisfies_nameLike hadmits hengine (Entry.mem_termsIn_name.mpr rfl)⟩
    simp only [comparison, plainComparison, Comparison.onName, hcase]
    rw [Comparison.textValue_of_asText rfl hpattern]
    rfl
  | localName name? =>
    refine ⟨_, ?_, Comparison.compiles_nameLike hadmits Field.localName,
      fun e => Comparison.satisfies_nameLike hadmits hengine (Entry.mem_termsIn_localName.mpr rfl)⟩
    simp only [comparison, plainComparison, Comparison.onLocalName, hcase]
    rw [Comparison.ownText_of_asText rfl hpattern]
    rfl

/-- A comparison by pattern of an operand of text, with regard to case, has a predicate. Whatever
has been added and removed before, it is answered like the regular expression of the pattern on the
field of the operand, also where the pattern of any text has a shorter predicate, and the documents
of the answer are those whose entries have a text that the pattern stands for. The expression of the
pattern is well-formed, and the engine may refuse any other expression. -/
theorem HoldsText.evaluateWith_like (h : s.HoldsText operand field texts)
    (hcase : s.rules.caseSensitive = true) {right : StaticOperand} (hvalue : s.value right = .ok v)
    (hpattern : v.asText? = some pattern) (hengine : engine.ReadsWellFormed)
    (hadmits : engine.Admits (Like.regex pattern) true) :
    ∃ p, s.predicate (.compare operand .like right) = .ok p
      ∧ ∀ history : List Change, ∃ docs,
        (Snapshot.ofHistory history).evaluateWith engine p = .ok docs
        ∧ (Snapshot.ofHistory history).evaluateWith engine
            (.regex field (Like.regex pattern) true) = .ok docs
        ∧ ∀ d, d ∈ docs ↔ ∃ e, Snapshot.entry? (.ofHistory history) d = some e
            ∧ ∃ t ∈ texts e, Like.Matches pattern.toList t.toList := by
  obtain ⟨p, hp, hcompiles, hsatisfies⟩ := h.exists_comparison hcase hpattern hengine hadmits
  refine ⟨p, ?_, fun history => ?_⟩
  · rw [predicate, h.checkOperator, Outcome.ok_bind, hvalue, Outcome.ok_bind]
    exact hp
  have hconsistent := Snapshot.consistent_ofHistory history
  refine ⟨_, (hconsistent.evaluateWith_eq_docsWhere hsatisfies).2 hcompiles,
    (hconsistent.evaluateWith_eq_docsWhere fun _ => rfl).2
      (Predicate.compiles_regex_like hadmits field), fun d => ?_⟩
  rw [hconsistent.mem_docsWhere]
  refine exists_congr fun e => and_congr_right fun _ => ?_
  rw [Entry.satisfies_like hengine hadmits]
  simp only [h.mem_texts]

/-! ## Titles with signs in them -/

/-- The scope of a query of books that refers to them by one name. -/
def bookScope : Scope :=
  { rules := Plan.bookRules
    resolved := ⟨OrderedMap.empty.insert "book" "book", SortedSet.empty, OrderedMap.empty⟩
    selectors := OrderedMap.empty.insert "book" (Plan.baseSelector "book" "book")
    bindings := OrderedMap.empty }

/-- The titles of the first two books have an underscore, an end of line and a backslash in the
places of the pattern. -/
def signedShelf : List Change :=
  [.insert (Plan.book "a" "x_\ny\\" []), .insert (Plan.book "b" "x_\\" []),
    .insert (Plan.book "c" "xz\ny\\" []), .insert (Plan.book "d" "x_y" [])]

/-- The pattern asks for any character, an underscore, any text and a backslash at the end. -/
theorem HoldsText.evaluateWith_like_signedShelf :
    ∃ p, bookScope.predicate (.compare (.property ⟨none, "title"⟩) .like
        (.literal (Literal.ofValue (Value.string "_\\_%\\")))) = .ok p
      ∧ ∃ docs, (Snapshot.ofHistory signedShelf).evaluateWith Regex.engine p = .ok docs
        ∧ docs.toList = [0, 1]
        ∧ ∀ d, d ∈ docs ↔ ∃ e, Snapshot.entry? (.ofHistory signedShelf) d = some e
            ∧ ∃ t ∈ e.termsIn (Field.property "book" "title"),
              Like.Matches "_\\_%\\".toList t.toList := by
  have hselector : bookScope.selector none = .ok (Plan.baseSelector "book" "book") := rfl
  have htitle : bookScope.HoldsText (.property ⟨none, "title"⟩)
      ((Plan.baseSelector "book" "book").propertyField "title")
      fun e => e.termsIn ((Plan.baseSelector "book" "book").propertyField "title") :=
    .column hselector rfl rfl rfl
  rw [show (Plan.baseSelector "book" "book").propertyField "title"
    = Field.property "book" "title" from rfl] at htitle
  have hvalue : bookScope.value (.literal (Literal.ofValue (Value.string "_\\_%\\")))
      = .ok (Value.string "_\\_%\\") := rfl
  obtain ⟨p, hp, hanswer⟩ := htitle.evaluateWith_like rfl hvalue rfl
    Regex.engine_readsWellFormed (Regex.engine_admits _ true)
  obtain ⟨docs, hdocs, hregex, hmem⟩ := hanswer signedShelf
  have hfound : ((Snapshot.ofHistory signedShelf).evaluateWith Regex.engine
      (.regex (Field.property "book" "title") (Like.regex "_\\_%\\") true)).toOption.map (·.toList)
      = some [0, 1] := by
    decide +kernel
  rw [hregex] at hfound
  exact ⟨p, hp, docs, hdocs, Option.some.inj hfound, hmem⟩

end Scope

end ContentSearch
