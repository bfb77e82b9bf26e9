import ContentSearch.Proofs.Plan.IgnoringCase

/-!
# Literal patterns and equality

A pattern with a backslash before each character of a text asks for the text itself. The main
statement compares it with equality. With regard to case the two select the same entries. Without
regard to case equality goes by the lower case of texts, and the pattern by the folding of their
lower case, so that it may select more: the folding takes some small letters together.
-/

namespace ContentSearch

/-- With regard to case, equality and the literal pattern accept the same texts. -/
theorem Operator.accepts_verbatim (w : String) :
    Operator.like.Accepts true (Like.verbatim w) = Operator.equalTo.Accepts true w :=
  funext fun _ => propext Like.matches_verbatim_iff

/-- Without regard to case, the literal pattern accepts the texts of the same folding. -/
theorem Operator.accepts_verbatim_folded (w : String) :
    Operator.like.Accepts false (Like.verbatim w)
      = fun t => Text.folded t = Text.folded w :=
  funext fun _ => propext Like.matchesFolded_verbatim_iff

theorem Entry.HasTermWith.imp {e : Entry} {table property : String} {test test' : String → Prop}
    (h : e.HasTermWith table property test) (himp : ∀ t, test t → test' t) :
    e.HasTermWith table property test' := by
  obtain ⟨htable, t, ht, htest⟩ := h
  exact ⟨htable, t, ht, himp t htest⟩

/-- Documents selected by two conditions are the same if an entry in use that meets the weaker one
meets the other. -/
theorem Snapshot.Consistent.docs_eq_iff {s : Snapshot} (h : s.Consistent) {docs docs' : DocSet}
    {holds holds' : Entry → Prop} (hmem : ∀ d, d ∈ docs ↔ ∃ e, s.entry? d = some e ∧ holds e)
    (hmem' : ∀ d, d ∈ docs' ↔ ∃ e, s.entry? d = some e ∧ holds' e)
    (himp : ∀ e, holds e → holds' e) :
    docs = docs' ↔ ∀ e ∈ s.liveEntries, holds' e → holds e := by
  constructor
  · rintro rfl e he hholds'
    obtain ⟨d, hd⟩ := h.mem_liveEntries.mp he
    obtain ⟨e', hd', hholds⟩ := (hmem d).mp ((hmem' d).mpr ⟨e, hd, hholds'⟩)
    rwa [Option.some.inj (hd.symm.trans hd')]
  · intro hback
    refine SortedSet.eq_of_mem_iff fun d => ?_
    rw [hmem, hmem']
    refine exists_congr fun e => and_congr_right fun hd => ⟨himp e, ?_⟩
    exact hback e (h.mem_liveEntries.mpr ⟨d, hd⟩)

namespace Plan

variable {rules : PlanRules} {table property : String} {t : Table} {column : Column}

/-- Equality with a text and the pattern with a backslash before each of its characters, for a
column of text of a base table. Whatever has been added and removed before, with regard to case both
select the entries of the table with the text as a term of the column. Without regard to case,
equality selects the entries with a term of the same lower case, and the pattern those with a term
of the same folding in lower case, which are all of them and possibly more. Then the two select the
same if and only if each entry of the table in use with a term of the second kind has one of the
first. This is so if no character in the lower case of a term has the folding of a different
character in the lower case of the text. The engine must not refuse the expression of the pattern,
which is well-formed, and may refuse any other. -/
theorem evaluateWith_verbatim (ht : rules.schema.table? table = some t)
    (hbase : t.definition? = none) (hcolumn : t.column? property = some column)
    (htext : column.type.isText = true) (kind kind' : TextKind) (w : String)
    (bindings : Bindings) :
    (column.supports .equalTo = true → column.supports .like = true →
      (∃ plan, ofQuery rules (.ofTable table (.compare (.property ⟨none, property⟩) .equalTo
          (.literal (Literal.ofValue (.text kind w))))) bindings = .ok plan)
        ∧ ∃ plan, ofQuery rules (.ofTable table (.compare (.property ⟨none, property⟩) .like
          (.literal (Literal.ofValue (.text kind' (Like.verbatim w)))))) bindings = .ok plan)
      ∧ ∀ {q q' : Query} {alias? alias'? name? name'? : Option String}
        {right right' : StaticOperand} {plan plan' : Plan},
        q.source = .selector ⟨table, alias?⟩ → q'.source = .selector ⟨table, alias'?⟩ →
        q.constraint? = some (.compare (.property ⟨name?, property⟩) .equalTo right) →
        q'.constraint? = some (.compare (.property ⟨name'?, property⟩) .like right') →
        right.value? bindings = some (.text kind w) →
        right'.value? bindings = some (.text kind' (Like.verbatim w)) →
        ofQuery rules q bindings = .ok plan → ofQuery rules q' bindings = .ok plan' →
        ∀ {engine : Regex.Engine}, engine.ReadsWellFormed → engine.IgnoresCase →
        plan'.predicate.Admitted engine →
        ∀ history : List Change, ∃ docs docs',
          (Snapshot.ofHistory history).evaluateWith engine plan.predicate = .ok docs
            ∧ (Snapshot.ofHistory history).evaluateWith engine plan'.predicate = .ok docs'
            ∧ (rules.caseSensitive = true → docs = docs'
              ∧ ∀ d, d ∈ docs ↔ ∃ e, Snapshot.entry? (.ofHistory history) d = some e
                ∧ e.HasTermWith table property (· = w))
            ∧ (rules.caseSensitive = false →
              (∀ d, d ∈ docs ↔ ∃ e, Snapshot.entry? (.ofHistory history) d = some e
                ∧ e.HasTermWith table property fun t => Text.lower t = Text.lower w)
              ∧ (∀ d, d ∈ docs' ↔ ∃ e, Snapshot.entry? (.ofHistory history) d = some e
                ∧ e.HasTermWith table property fun t => Text.folded t = Text.folded w)
              ∧ (∀ d ∈ docs, d ∈ docs')
              ∧ (docs = docs' ↔ ∀ e ∈ (Snapshot.ofHistory history).liveEntries,
                e.HasTermWith table property (fun t => Text.folded t = Text.folded w) →
                e.HasTermWith table property fun t => Text.lower t = Text.lower w)
              ∧ ((∀ e ∈ (Snapshot.ofHistory history).liveEntries, table ∈ e.tables →
                  ∀ t ∈ e.termsIn (Field.property table property), ∀ c ∈ (Text.lower t).toList,
                    ∀ d ∈ (Text.lower w).toList, Text.foldChar c = Text.foldChar d → c = d) →
                docs = docs')) := by
  constructor
  · intro hequal hlike
    exact ⟨exists_plan_of_text ht hbase hcolumn htext (.inl rfl) hequal kind w bindings,
      exists_plan_of_text ht hbase hcolumn htext (.inr rfl) hlike kind' (Like.verbatim w) bindings⟩
  intro q q' alias? alias'? name? name'? right right' plan plan' hsource hsource' hconstraint
    hconstraint' hvalue hvalue' hplan hplan' engine hreads hignores hadmitted' history
  have h := Snapshot.consistent_ofHistory history
  -- equality is planned without an expression
  have hadmitted : plan.predicate.Admitted engine := by
    rw [predicate_of_text ht hbase hcolumn htext (.inl rfl) hsource hconstraint hvalue hplan]
    exact nofun
  obtain ⟨docs, hdocs, hmem⟩ := exists_docs_of_text ht hbase hcolumn htext (.inl rfl) hsource
    hconstraint hvalue hplan hreads hignores hadmitted h
  obtain ⟨docs', hdocs', hmem'⟩ := exists_docs_of_text ht hbase hcolumn htext (.inr rfl) hsource'
    hconstraint' hvalue' hplan' hreads hignores hadmitted' h
  refine ⟨docs, docs', hdocs, hdocs', ?_, ?_⟩
  · intro hcase
    rw [hcase] at hmem hmem'
    rw [Operator.accepts_verbatim] at hmem'
    refine ⟨SortedSet.eq_of_mem_iff fun d => ?_, hmem⟩
    rw [hmem, hmem']
  · intro hcase
    rw [hcase] at hmem hmem'
    rw [Operator.accepts_verbatim_folded] at hmem'
    have himp : ∀ e : Entry, e.HasTermWith table property (Operator.equalTo.Accepts false w) →
        e.HasTermWith table property fun t => Text.folded t = Text.folded w :=
      fun e he => he.imp fun t => Text.folded_of_lower_eq
    have hsame := h.docs_eq_iff hmem hmem' himp
    refine ⟨hmem, hmem', ?_, hsame, ?_⟩
    · intro d hd
      obtain ⟨e, he, hterm⟩ := (hmem d).mp hd
      exact (hmem' d).mpr ⟨e, he, himp e hterm⟩
    · intro hchars
      refine hsame.mpr fun e he hterm => ?_
      obtain ⟨htable, t, ht, heq⟩ := hterm
      have hlower : (Text.lower t).toList = (Text.lower w).toList :=
        Text.eq_of_map_foldChar_eq heq (hchars e he htable t ht)
      exact ⟨htable, t, ht, String.toList_inj.mp hlower⟩

/-! ## Titles as they are -/

/-- Without regard to case, the literal pattern and equality both select two books. -/
theorem evaluateWith_verbatim_shelf :
    ∃ plan plan' docs,
      ofQuery (bookRulesIn false) (booksByTitle .equalTo "EMMA") OrderedMap.empty = .ok plan
      ∧ ofQuery (bookRulesIn false) (booksByTitle .like (Like.verbatim "EMMA")) OrderedMap.empty
        = .ok plan'
      ∧ (Snapshot.ofHistory shelf).evaluateWith Regex.engine plan.predicate = .ok docs
      ∧ (Snapshot.ofHistory shelf).evaluateWith Regex.engine plan'.predicate = .ok docs
      ∧ docs.toList = [1, 3] := by
  have htable : (bookRulesIn false).schema.table? "book" = some bookTable := rfl
  have htitle : bookTable.column? "title" = some (Column.plain "title" .string) := rfl
  have hall : ((Snapshot.ofHistory shelf).liveEntries.all fun e =>
      (e.termsIn (Field.property "book" "title")).all fun t =>
        (Text.lower t).toList.all fun c => (Text.lower "EMMA").toList.all fun d =>
          Text.foldChar c != Text.foldChar d || c == d) = true := by
    decide +kernel
  obtain ⟨hexists, hselects⟩ := evaluateWith_verbatim htable rfl htitle rfl .string .string "EMMA"
    OrderedMap.empty
  obtain ⟨⟨plan, hplan⟩, plan', hplan'⟩ := hexists rfl rfl
  obtain ⟨docs, docs', hdocs, hdocs', -, hfolded⟩ := hselects rfl rfl rfl rfl rfl rfl hplan hplan'
    Regex.engine_readsWellFormed Regex.engine_ignoresCase plan'.predicate.admitted_engine shelf
  have hsame : docs = docs' := by
    refine (hfolded rfl).2.2.2.2 fun e he _ t ht c hc d hd hfold => ?_
    have hchars := List.all_eq_true.mp (List.all_eq_true.mp (List.all_eq_true.mp
      (List.all_eq_true.mp hall e he) t ht) c hc) d hd
    rw [hfold, bne_self_eq_false, Bool.false_or] at hchars
    exact beq_iff_eq.mp hchars
  subst hsame
  refine ⟨plan, plan', docs, hplan, hplan', hdocs, hdocs', ?_⟩
  have hfound : ((Snapshot.ofHistory shelf).evaluateWith Regex.engine
      plan.predicate).toOption.map (·.toList) = some [1, 3] := by
    rw [predicate_of_booksByTitle false (.inl rfl) hplan]
    decide +kernel
  rw [hdocs] at hfound
  exact Option.some.inj hfound

/-- The second title has a long s before its last letter. -/
def spellings : List Change :=
  [.insert (book "a" "Congress" []), .insert (book "b" "Congreſs" [])]

/-- The literal pattern finds a title that equality does not. -/
theorem evaluateWith_spellings_ne :
    ∃ plan plan',
      ofQuery (bookRulesIn false) (booksByTitle .equalTo "Congress") OrderedMap.empty = .ok plan
      ∧ ofQuery (bookRulesIn false) (booksByTitle .like (Like.verbatim "Congress")) OrderedMap.empty
        = .ok plan'
      ∧ ((Snapshot.ofHistory spellings).evaluateWith Regex.engine plan.predicate).toOption.map
          (·.toList) = some [0]
      ∧ ((Snapshot.ofHistory spellings).evaluateWith Regex.engine plan'.predicate).toOption.map
          (·.toList) = some [0, 1] := by
  have htable : (bookRulesIn false).schema.table? "book" = some bookTable := rfl
  have htitle : bookTable.column? "title" = some (Column.plain "title" .string) := rfl
  obtain ⟨plan, hplan⟩ := exists_plan_of_text htable rfl htitle rfl (.inl rfl) rfl .string
    "Congress" OrderedMap.empty
  obtain ⟨plan', hplan'⟩ := exists_plan_of_text htable rfl htitle rfl (.inr rfl) rfl .string
    (Like.verbatim "Congress") OrderedMap.empty
  refine ⟨plan, plan', hplan, hplan', ?_, ?_⟩
  · rw [predicate_of_booksByTitle false (.inl rfl) hplan]
    decide +kernel
  · rw [predicate_of_booksByTitle false (.inr rfl) hplan']
    decide +kernel

end Plan

end ContentSearch
