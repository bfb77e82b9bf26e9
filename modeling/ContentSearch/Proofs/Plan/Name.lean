import ContentSearch.Proofs.Pattern.Wildcard
import ContentSearch.Proofs.Plan.Answers
import ContentSearch.Proofs.Plan.Like

/-!
# Equality of names

A name equals a label if it is the label, or if it has a namespace and the same local name. The
index looks for the second kind by a wildcard pattern, in which the local name is escaped, and the
pattern is written as a regular expression. The main statement says that nothing is lost or gained
on this way, whatever characters the label has, so that equality and inequality divide the entries
of every history of the index. Of the engine it asks what the tests of well-formed expressions
accept, and that it does not refuse the expression of this pattern if that is well-formed.
-/

namespace ContentSearch

variable {engine : Regex.Engine}

/-! ## Labels -/

namespace Content

/-- Whether a label calls for a name: the name is the label, or it has a namespace, whichever, and
the local name of the label. -/
def IsCalled (name label : String) : Prop :=
  name = label ∨ ':' ∈ name.toList ∧ localName name = localName label

instance (name label : String) : Decidable (IsCalled name label) :=
  inferInstanceAs (Decidable (name = label ∨ ':' ∈ name.toList ∧ localName name = localName label))

theorem localName_eq_iff {name label : String} :
    localName name = localName label ↔ localChars name.toList = localChars label.toList := by
  rw [localName, localName, String.ofList_inj]

/-- The texts in which a local name follows a colon are those that have it as their own. -/
theorem eq_append_localChars_iff {label cs : List Char} :
    (∃ front, cs = front ++ ':' :: localChars label)
      ↔ ':' ∈ cs ∧ localChars cs = localChars label := by
  constructor
  · intro ⟨front, heq⟩
    subst heq
    exact ⟨by simp, localChars_append front (colon_not_mem_localChars label)⟩
  · intro ⟨hcolon, hlocal⟩
    obtain ⟨front, hfront⟩ := exists_eq_append_localChars hcolon
    rw [hlocal] at hfront
    exact ⟨front, hfront⟩

end Content

/-- The pattern of the local name of a label behind any namespace. -/
def Wildcard.anyNamespace (label : String) : String :=
  "*:" ++ escape (Content.localName label)

/-- The pattern of a local name behind any namespace stands for the names that have both. -/
theorem Wildcard.matches_anyNamespace_iff {label : String} {cs : List Char} :
    Matches (anyNamespace label).toList cs
      ↔ ':' ∈ cs ∧ Content.localChars cs = Content.localChars label.toList := by
  have hcolon : isSpecial ':' = false := by decide
  rw [← Content.eq_append_localChars_iff, anyNamespace, String.toList_append]
  show Matches ('*' :: ':' :: (escape (Content.localName label)).toList) cs ↔ _
  simp only [matches_anyText_iff, matches_plain_iff hcolon, matches_escape_iff]
  rw [Content.localName, String.toList_ofList]
  -- what the star takes up is the namespace
  constructor
  · intro ⟨front, back, hcs, back', hback, hlocal⟩
    exact ⟨front, by rw [hcs, hback, hlocal]⟩
  · intro ⟨front, hcs⟩
    exact ⟨front, _, hcs, _, rfl, rfl⟩

/-! ## Entries -/

namespace Entry

/-- The expression of a wildcard pattern is satisfied by the entries with a term that the pattern
stands for. -/
theorem satisfies_wildcard (hengine : engine.ReadsWellFormed) {pattern : String}
    (hadmits : engine.Admits (Wildcard.regex pattern) true) (e : Entry) (field : String) :
    e.satisfies engine (.wildcard field pattern true) = true
      ↔ ∃ t ∈ e.termsIn field, Wildcard.Matches pattern.toList t.toList := by
  obtain ⟨test, hcompile, htest⟩ := Wildcard.exists_test hengine hadmits
  rw [satisfies, anyMatch, hcompile]
  show (e.termsIn field).any test = true ↔ _
  rw [List.any_eq_true]
  simp only [htest]

theorem satisfies_complement (e : Entry) (p : Predicate) :
    e.satisfies engine (.complement p) = !e.satisfies engine p := by
  simp [Predicate.complement, Predicate.without, satisfies, satisfiesAll, satisfiesAny]

/-- An entry satisfies the predicate of a label if the label calls for its name. -/
theorem satisfies_nameEquals (hengine : engine.ReadsWellFormed) {label : String}
    (hadmits : engine.Admits (Wildcard.regex (Wildcard.anyNamespace label)) true) (e : Entry) :
    e.satisfies engine (Comparison.nameEquals label true) = true
      ↔ Content.IsCalled e.name label := by
  have hterm : e.satisfies engine (.term Field.name label true) = true ↔ e.name = label := by
    simp only [satisfies, anyTerm, FieldIndex.lookupKey, if_true, List.any_eq_true,
      mem_termsIn_name, exists_eq_left, beq_iff_eq]
  have hwildcard := e.satisfies_wildcard hengine hadmits Field.name
  -- the name is the only term in its field
  simp only [mem_termsIn_name, exists_eq_left, Wildcard.matches_anyNamespace_iff,
    ← Content.localName_eq_iff] at hwildcard
  have hany : e.satisfies engine (Comparison.nameEquals label true)
      = (e.satisfies engine (.term Field.name label true)
        || e.satisfies engine (.wildcard Field.name (Wildcard.anyNamespace label) true)) := by
    simp [Comparison.nameEquals, Wildcard.anyNamespace, Predicate.anyOf, satisfies, satisfiesAll,
      satisfiesAny]
  rw [hany, Bool.or_eq_true, hterm, hwildcard, Content.IsCalled]

end Entry

/-! ## Comparisons of the name -/

namespace Scope

variable {s : Scope} {right : StaticOperand} {v : Value} {label : String}

/-- The name is compared by the predicate of its label, or by the complement of it. -/
theorem predicate_name (hcase : s.rules.caseSensitive = true) (hvalue : s.value right = .ok v)
    (hlabel : v.asText? = some label) (name? : Option String) :
    s.predicate (.compare (.name name?) .equalTo right)
        = .ok (Comparison.nameEquals label true)
      ∧ s.predicate (.compare (.name name?) .notEqualTo right)
        = .ok (.complement (Comparison.nameEquals label true)) := by
  have hcheck : ∀ operator, s.checkOperator (.name name?) operator = .ok () := fun _ => rfl
  constructor
  · rw [predicate, hcheck, Outcome.ok_bind, hvalue, Outcome.ok_bind]
    simp only [comparison, plainComparison, Comparison.onName, hcase]
    rw [Comparison.textValue_of_asText rfl hlabel]
    rfl
  · rw [predicate, hcheck, Outcome.ok_bind, hvalue, Outcome.ok_bind]
    simp only [comparison, plainComparison, Comparison.onName, hcase]
    rw [Comparison.textValue_of_asText rfl hlabel]
    rfl

/-- Equality of the name with a label, with regard to case, selects the entries whose names the
label calls for, and inequality selects the others. This is so for every label and whatever has been
added and removed before. The expression of the local name behind any namespace is well-formed, and
the engine may refuse any other expression. -/
theorem evaluateWith_name (hcase : s.rules.caseSensitive = true) (hvalue : s.value right = .ok v)
    (hlabel : v.asText? = some label) (hengine : engine.ReadsWellFormed)
    (hadmits : engine.Admits (Wildcard.regex (Wildcard.anyNamespace label)) true)
    (name? : Option String) :
    ∃ equal differing, s.predicate (.compare (.name name?) .equalTo right) = .ok equal
      ∧ s.predicate (.compare (.name name?) .notEqualTo right) = .ok differing
      ∧ ∀ history : List Change, ∃ docs others,
        (Snapshot.ofHistory history).evaluateWith engine equal = .ok docs
        ∧ (Snapshot.ofHistory history).evaluateWith engine differing = .ok others
        ∧ (∀ d, d ∈ docs ↔ ∃ e, Snapshot.entry? (.ofHistory history) d = some e
            ∧ Content.IsCalled e.name label)
        ∧ ∀ d, d ∈ others ↔ ∃ e, Snapshot.entry? (.ofHistory history) d = some e
            ∧ ¬Content.IsCalled e.name label := by
  obtain ⟨hequal, hdiffering⟩ := predicate_name hcase hvalue hlabel name?
  refine ⟨_, _, hequal, hdiffering, fun history => ?_⟩
  have hconsistent := Snapshot.consistent_ofHistory history
  have haccepts := hadmits (Wildcard.isWellFormed_regex (Wildcard.anyNamespace label))
  have hequalCompiles : (Comparison.nameEquals label true).compiles engine = true := by
    rw [Predicate.compiles_iff, Comparison.expressions_nameEquals, List.forall_mem_singleton]
    exact haccepts
  have hdifferingCompiles :
      (Predicate.complement (Comparison.nameEquals label true)).compiles engine = true := by
    rw [Predicate.compiles_iff, Predicate.expressions_complement, ← Predicate.compiles_iff]
    exact hequalCompiles
  have hdocs := (hconsistent.evaluateWith_eq_docsWhere fun _ => rfl).2 hequalCompiles
  have hothers := (hconsistent.evaluateWith_eq_docsWhere fun _ => rfl).2 hdifferingCompiles
  refine ⟨_, _, hdocs, hothers, fun d => ?_, fun d => ?_⟩
  · rw [hconsistent.mem_docsWhere]
    simp only [Snapshot.Passes, Entry.satisfies_nameEquals hengine hadmits]
  · rw [hconsistent.mem_docsWhere]
    simp only [Snapshot.Passes, Entry.satisfies_complement, Bool.not_eq_true',
      ← Bool.not_eq_true, Entry.satisfies_nameEquals hengine hadmits]

/-- Four names around a label of signs: without its namespace, the label itself, with two other
namespaces, and with other characters in the place of its signs. -/
def signedNames : List Change :=
  [.insert (Entry.named "a" "[*?\\\n.]"), .insert (Entry.named "b" "x:[*?\\\n.]"),
    .insert (Entry.named "c" "y:*:[*?\\\n.]"), .insert (Entry.named "d" "x:[ab\\\n.]")]

/-- The signs of the label stand for themselves, and any namespace may stand before it, also one
that holds a colon. The label without a namespace is not called by the name. -/
theorem evaluateWith_name_signedNames :
    ∃ equal differing,
      bookScope.predicate (.compare (.name none) .equalTo
        (.literal (Literal.ofValue (Value.string "x:[*?\\\n.]")))) = .ok equal
      ∧ bookScope.predicate (.compare (.name none) .notEqualTo
        (.literal (Literal.ofValue (Value.string "x:[*?\\\n.]")))) = .ok differing
      ∧ ∃ docs others,
        (Snapshot.ofHistory signedNames).evaluateWith Regex.engine equal = .ok docs
        ∧ (Snapshot.ofHistory signedNames).evaluateWith Regex.engine differing = .ok others
        ∧ (∀ d, d ∈ docs ↔ ∃ e, Snapshot.entry? (.ofHistory signedNames) d = some e
            ∧ Content.IsCalled e.name "x:[*?\\\n.]")
        ∧ (1 ∈ docs ∧ 2 ∈ docs) ∧ 0 ∈ others ∧ 3 ∈ others := by
  have hvalue : bookScope.value (.literal (Literal.ofValue (Value.string "x:[*?\\\n.]")))
      = .ok (Value.string "x:[*?\\\n.]") := rfl
  obtain ⟨equal, differing, hequal, hdiffering, hanswer⟩ :=
    evaluateWith_name rfl hvalue rfl Regex.engine_readsWellFormed (Regex.engine_admits _ true) none
  obtain ⟨docs, others, hdocs, hothers, hmem, hmemOthers⟩ := hanswer signedNames
  refine ⟨equal, differing, hequal, hdiffering, docs, others, hdocs, hothers, hmem, ⟨?_, ?_⟩,
    ?_, ?_⟩
  · exact (hmem 1).mpr ⟨Entry.named "b" "x:[*?\\\n.]", by decide +kernel, by decide +kernel⟩
  · exact (hmem 2).mpr ⟨Entry.named "c" "y:*:[*?\\\n.]", by decide +kernel, by decide +kernel⟩
  · exact (hmemOthers 0).mpr ⟨Entry.named "a" "[*?\\\n.]", by decide +kernel, by decide +kernel⟩
  · exact (hmemOthers 3).mpr ⟨Entry.named "d" "x:[ab\\\n.]", by decide +kernel, by decide +kernel⟩

end Scope

end ContentSearch
