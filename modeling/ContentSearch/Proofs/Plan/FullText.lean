import ContentSearch.Proofs.Plan.Table

/-!
# Words anywhere in a table

A constraint that asks for words without naming a property is answered from the field of words of
the table, and the index fills this field with the words of all properties. The main statement says
which entries are selected, and when these are the ones that have the word in a column that can be
searched.
-/

namespace ContentSearch

/-! ## Expressions of one word -/

/-- A word goes on to the next blank. -/
theorem SearchWord.scan_word {cs : List Char} (hblank : ∀ c ∈ cs, Text.isBlank c = false)
    (excluded : Bool) (before : List Char) :
    scan (.word excluded before) cs = [⟨before.reverse ++ cs, excluded, false⟩] := by
  induction cs generalizing before with
  | nil => rw [scan, List.append_nil]
  | cons c rest ih =>
    have hc : ¬Text.isBlank c = true := by simp [hblank c List.mem_cons_self]
    rw [scan, if_neg hc, ih fun c' hc' => hblank c' (List.mem_cons_of_mem c hc'),
      List.reverse_cons, List.append_assoc, List.singleton_append]

/-- A word without blanks that does not begin like an exclusion or a phrase, and is not the word
between alternatives, asks for its token. -/
theorem SearchExpression.ofText_word {w token : String} {c : Char} {cs : List Char}
    (hw : w.toList = c :: cs) (hblank : ∀ c' ∈ c :: cs, Text.isBlank c' = false)
    (hminus : c ≠ '-') (hquote : c ≠ '\x22') (hor : c :: cs ≠ ['O', 'R'])
    (htokens : Text.tokens w = [token]) : ofText w = [⟨[token], []⟩] := by
  have hscan : SearchWord.scan .between (c :: cs) = [⟨c :: cs, false, false⟩] := by
    have hc : ¬Text.isBlank c = true := by simp [hblank c List.mem_cons_self]
    rw [SearchWord.scan, if_neg hc, if_neg hminus, if_neg hquote,
      SearchWord.scan_word fun c' hc' => hblank c' (List.mem_cons_of_mem c hc')]
    rfl
  have hword : ¬SearchWord.isOr ⟨c :: cs, false, false⟩ = true := by
    rw [SearchWord.isOr, Bool.and_eq_true, beq_iff_eq]
    exact fun h => hor h.2
  have hadded : SearchWord.tokens ⟨c :: cs, false, false⟩ = [token] := by
    rw [SearchWord.tokens, ← hw, String.ofList_toList, htokens]
  rw [ofText, hw, hscan, ofWords, if_neg hword, SearchClause.add, hadded]
  rfl

/-! ## Words of an entry -/

/-- Lengths are not kept with the words of a table. -/
theorem Field.length_ne_tableText (table property table' : String) :
    Field.length table property ≠ Field.tableText table' := by
  intro heq
  have hlast : (Field.length table property).toList.reverse.head?
      = (Field.tableText table').toList.reverse.head? := by rw [heq]
  simp [Field.length, Field.tableText] at hlast

/-- Whether a property can be searched for words: it is a column, and the column is marked. -/
def Table.searches (t : Table) (property : String) : Bool :=
  (t.column? property).any (·.searchable)

namespace Entry

/-- Whether some property has the token. -/
def hasToken (e : Entry) (token : String) : Bool :=
  e.properties.any fun p => (tokensOf p).contains token

/-- Whether some property that can be searched has the token. -/
def hasSearchableToken (e : Entry) (t : Table) (token : String) : Bool :=
  e.properties.any fun p => t.searches p.name && (tokensOf p).contains token

/-- Whether some property, by the name of its field in some table, has a term in the field of words
of a table. -/
def hasNamesakeTerm (e : Entry) (table term : String) : Bool :=
  e.tables.any fun u => e.properties.any fun p =>
    Field.property u p.name == Field.tableText table && p.content.indexed.terms.contains term

theorem hasToken_iff {e : Entry} {token : String} :
    e.hasToken token = true ↔ ∃ p ∈ e.properties, token ∈ tokensOf p := by
  simp only [hasToken, List.any_eq_true, List.contains_iff_mem]

theorem hasNamesakeTerm_iff {e : Entry} {table term : String} :
    e.hasNamesakeTerm table term = true
      ↔ ∃ u ∈ e.tables, ∃ p ∈ e.properties,
        Field.property u p.name = Field.tableText table ∧ term ∈ p.content.indexed.terms := by
  simp only [hasNamesakeTerm, List.any_eq_true, Bool.and_eq_true, beq_iff_eq,
    List.contains_iff_mem]

/-- A property that can be searched is a property. -/
theorem hasToken_of_hasSearchableToken {e : Entry} {t : Table} {token : String}
    (h : e.hasSearchableToken t token = true) : e.hasToken token = true := by
  obtain ⟨p, hp, hboth⟩ := List.any_eq_true.mp h
  rw [Bool.and_eq_true, List.contains_iff_mem] at hboth
  exact hasToken_iff.mpr ⟨p, hp, hboth.2⟩

/-- The field of words of a table has the words of all properties, and the terms of a property
whose field has the same name. -/
theorem mem_termsIn_tableText {e : Entry} {table : String} (htable : table ∈ e.tables)
    {token : String} :
    token ∈ e.termsIn (Field.tableText table)
      ↔ e.hasToken token = true ∨ e.hasNamesakeTerm table token = true := by
  rw [mem_termsIn, hasToken_iff, hasNamesakeTerm_iff]
  constructor
  · rintro ⟨ts, hlisted, htoken⟩
    rcases mem_fieldTerms.mp hlisted with hbuiltIn | ⟨u, hu, hlisted⟩
    · -- the built-in fields have no dollar sign in their names
      exact absurd (Field.dollar_mem_tableText table) (isPlain_of_mem_builtInTerms hbuiltIn).2
    · simp only [tableFields, propertyFields, List.mem_append, List.mem_flatMap, List.mem_cons,
        List.not_mem_nil, or_false, Prod.mk.injEq] at hlisted
      rcases hlisted with ⟨p, hp, ⟨hfield, rfl⟩ | ⟨hfield, -⟩ | ⟨-, rfl⟩⟩ | ⟨-, rfl⟩
      · exact Or.inr ⟨u, hu, p, hp, hfield.symm, htoken⟩
      · exact absurd hfield.symm (Field.length_ne_tableText u p.name table)
      · exact Or.inl ⟨p, hp, htoken⟩
      · exact Or.inl (List.mem_flatMap.mp htoken)
  · rintro (⟨p, hp, htoken⟩ | ⟨u, hu, p, hp, hfield, hterm⟩)
    · refine ⟨e.properties.flatMap tokensOf, mem_fieldTerms.mpr (Or.inr ⟨table, htable, ?_⟩), ?_⟩
      · exact List.mem_append_right _ List.mem_cons_self
      · exact List.mem_flatMap.mpr ⟨p, hp, htoken⟩
    · refine ⟨p.content.indexed.terms, mem_fieldTerms.mpr (Or.inr ⟨u, hu, ?_⟩), hterm⟩
      rw [← hfield]
      exact List.mem_append_left _ (List.mem_flatMap.mpr ⟨p, hp, List.mem_cons_self⟩)

/-- In its table, an entry satisfies the search for a token in the field of words of the table if
some property has the token. -/
theorem satisfies_tableText {engine : Regex.Engine} {e : Entry} {table expression token : String}
    (hexpression : SearchExpression.ofText expression = [⟨[token], []⟩]) :
    (e.tables.contains table && e.satisfies engine (.fullText (Field.tableText table) expression))
      = (e.tables.contains table && (e.hasToken token || e.hasNamesakeTerm table token)) := by
  rw [contains_and_eq_iff]
  intro htable
  rw [Bool.eq_iff_iff, Bool.or_eq_true, ← mem_termsIn_tableText htable]
  simp [satisfies, hexpression, meetsClause]

end Entry

/-! ## Plans -/

namespace Plan

variable {rules : PlanRules}

/-- The plan of a query that asks for words anywhere in a base table asks for the table and for the
words in the field of words of the table. -/
theorem predicate_of_contains {q : Query} {selector : Selector}
    (hsource : q.source = .selector selector) {name? : Option String} {expression : String}
    (hconstraint : q.constraint? = some (.contains name? none expression)) {t : Table}
    (ht : rules.schema.table? selector.table = some t) (hbase : t.definition? = none)
    {bindings : Bindings} {plan : Plan} (hplan : ofQuery rules q bindings = .ok plan) :
    plan.predicate = .allOf [.term Field.table selector.table true,
      .fullText (Field.tableText selector.table) expression] := by
  obtain ⟨s, hs, p, hp, hpredicate⟩ := exists_scope_of_ofQuery hsource hconstraint ht hbase hplan
  obtain ⟨x, hx, hp⟩ := Outcome.bind_eq_ok hp
  obtain ⟨name, rfl⟩ := hs.selector hx
  obtain rfl := Except.ok.inj hp
  exact hpredicate

/-- All of a base table can be searched for words. -/
theorem exists_plan_of_contains {table : String} {t : Table}
    (ht : rules.schema.table? table = some t) (hbase : t.definition? = none) (expression : String)
    (bindings : Bindings) :
    ∃ plan, ofQuery rules (.ofTable table (.contains none none expression)) bindings
      = .ok plan := by
  have hvalid : (Constraint.contains none none expression).IsValid rules.validation
      ⟨table, none⟩ := by
    intro node hnode
    obtain rfl := List.mem_singleton.mp hnode
    rfl
  obtain ⟨s, ⟨-, name, hunnamed⟩, -, hmake⟩ := exists_scope_of_base ht hbase hvalid bindings
  have hp : s.predicate (.contains none none expression)
      = .ok (.fullText ((baseSelector name table).textField none) expression) := by
    rw [Scope.predicate, hunnamed, Outcome.ok_bind]
  obtain ⟨plan, hplan, -⟩ := hmake _ hp
  exact ⟨plan, hplan⟩

/-- A base table can be searched for a token without naming a property. Whatever has been added and
removed before, the plan selects the entries of the table that have the token in some property,
whether the property is a column that can be searched or not, and those with a term by a property
whose field is called like the field of words of the table. These are the entries that have the
token in a column that can be searched if and only if no entry in use has it elsewhere only. -/
theorem evaluateWith_tableText {table : String} {t : Table}
    (ht : rules.schema.table? table = some t) (hbase : t.definition? = none)
    {expression token : String}
    (hexpression : SearchExpression.ofText expression = [⟨[token], []⟩]) (bindings : Bindings) :
    (∃ plan, ofQuery rules (.ofTable table (.contains none none expression)) bindings = .ok plan)
      ∧ ∀ {q : Query} {alias? name? : Option String} {plan : Plan},
        q.source = .selector ⟨table, alias?⟩ →
        q.constraint? = some (.contains name? none expression) →
        ofQuery rules q bindings = .ok plan →
        ∀ (engine : Regex.Engine) (history : List Change),
          (Snapshot.ofHistory history).evaluateWith engine plan.predicate
              = .ok ((Snapshot.ofHistory history).docsWhere fun e =>
                  e.tables.contains table && (e.hasToken token || e.hasNamesakeTerm table token))
            ∧ ((Snapshot.ofHistory history).evaluateWith engine plan.predicate
                  = .ok ((Snapshot.ofHistory history).docsWhere fun e =>
                      e.tables.contains table && e.hasSearchableToken t token)
              ↔ ∀ e ∈ (Snapshot.ofHistory history).liveEntries, table ∈ e.tables →
                  (e.hasToken token || e.hasNamesakeTerm table token) = true →
                  e.hasSearchableToken t token = true) := by
  refine ⟨exists_plan_of_contains ht hbase expression bindings, ?_⟩
  intro q alias? name? plan hsource hconstraint hplan engine history
  have h := Snapshot.consistent_ofHistory history
  have hpredicate := predicate_of_contains hsource hconstraint ht hbase hplan
  have htest : ∀ e : Entry, e.satisfies engine plan.predicate
      = (e.tables.contains table && (e.hasToken token || e.hasNamesakeTerm table token)) := by
    intro e
    rw [hpredicate, satisfies_inTable, Entry.satisfies_tableText hexpression]
  have hcompiles : plan.predicate.compiles engine = true := by
    rw [hpredicate, Predicate.compiles_allOf]
    rfl
  have hanswer := (h.evaluateWith_eq_docsWhere htest).2 hcompiles
  refine ⟨hanswer, ?_⟩
  rw [hanswer, Except.ok.injEq, h.docsWhere_eq_iff]
  refine forall₂_congr fun e _ => ?_
  rw [Entry.contains_and_eq_iff]
  refine forall_congr' fun htable => ?_
  rw [Bool.eq_iff_iff]
  refine ⟨Iff.mp, fun hfound => ⟨hfound, fun hsearchable => ?_⟩⟩
  rw [Entry.hasToken_of_hasSearchableToken hsearchable, Bool.true_or]

/-! ## Pages about the moon -/

/-- Pages have a title, and a body that can be searched. -/
def pageTable : Table :=
  Table.ofColumns "page"
    [Column.plain "title" .string, ⟨"body", .string, true, Operator.all⟩]

def pageRules : PlanRules :=
  { schema := Schema.empty.withTable pageTable
    caseSensitive := true
    checksColumns := true
    resolvePath := fun _ => none }

def page (identifier title body : String) : Entry :=
  (((Entry.named identifier identifier).inTable "page").withProperty
    (Property.single "title" (Value.string title))).withProperty
    (Property.single "body" (Value.string body))

/-- The moon is in the title of the first page, and in the body of the second one. -/
def pages : List Change :=
  [.insert (page "a" "Moon" "high tide"), .insert (page "b" "Tides" "full moon")]

def moonQuery : Query :=
  .ofTable "page" (.contains none none "moon")

theorem ofText_moon : SearchExpression.ofText "moon" = [⟨["moon"], []⟩] := by
  have hchars : "moon".toList = ['m', 'o', 'o', 'n'] := rfl
  have hnone : ['m', 'o', 'o', 'n'].any Text.isBlank = false := by decide
  have hblank : ∀ c ∈ ['m', 'o', 'o', 'n'], Text.isBlank c = false := fun c hc =>
    Bool.eq_false_of_not_eq_true (List.any_eq_false.mp hnone c hc)
  have htokens : Text.tokens "moon" = ["moon"] := by decide
  exact SearchExpression.ofText_word hchars hblank (by decide) (by decide) (by decide) htokens

/-- Both pages are found, wherever on them the moon is. -/
theorem evaluateWith_tableText_pages :
    ∃ plan, ofQuery pageRules moonQuery OrderedMap.empty = .ok plan
      ∧ (Snapshot.ofHistory pages).evaluateWith Regex.engine plan.predicate
        = .ok ((Snapshot.ofHistory pages).docsWhere fun e =>
            e.tables.contains "page" && (e.hasToken "moon" || e.hasNamesakeTerm "page" "moon"))
      ∧ ((Snapshot.ofHistory pages).docsWhere fun e =>
            e.tables.contains "page"
              && (e.hasToken "moon" || e.hasNamesakeTerm "page" "moon")).toList = [0, 1] := by
  have htable : pageRules.schema.table? "page" = some pageTable := rfl
  obtain ⟨⟨plan, hplan⟩, hselects⟩ :=
    evaluateWith_tableText htable rfl ofText_moon OrderedMap.empty
  exact ⟨plan, hplan, (hselects rfl rfl hplan Regex.engine pages).1, by decide +kernel⟩

/-- The page with the moon in its title is found, although titles cannot be searched. -/
theorem evaluateWith_moon_ne :
    ∃ plan, ofQuery pageRules moonQuery OrderedMap.empty = .ok plan
      ∧ ((Snapshot.ofHistory pages).evaluateWith Regex.engine plan.predicate).toOption.map
          (·.toList) = some [0, 1]
      ∧ ((Snapshot.ofHistory pages).docsWhere fun e =>
          e.tables.contains "page" && e.hasSearchableToken pageTable "moon").toList = [1]
      ∧ (Snapshot.ofHistory pages).evaluateWith Regex.engine plan.predicate
        ≠ .ok ((Snapshot.ofHistory pages).docsWhere fun e =>
            e.tables.contains "page" && e.hasSearchableToken pageTable "moon") := by
  have htable : pageRules.schema.table? "page" = some pageTable := rfl
  obtain ⟨plan, hplan⟩ := exists_plan_of_contains htable rfl "moon" OrderedMap.empty
  have hfound : ((Snapshot.ofHistory pages).evaluateWith Regex.engine plan.predicate).toOption.map
      (·.toList) = some [0, 1] := by
    rw [predicate_of_contains rfl rfl htable rfl hplan]
    decide +kernel
  have hsearchable : ((Snapshot.ofHistory pages).docsWhere fun e =>
      e.tables.contains "page" && e.hasSearchableToken pageTable "moon").toList = [1] := by
    decide +kernel
  refine ⟨plan, hplan, hfound, hsearchable, fun hsame => ?_⟩
  rw [hsame] at hfound
  have htwo : [1] = [0, 1] := hsearchable.symm.trans (Option.some.inj hfound)
  cases htwo

end Plan

end ContentSearch
