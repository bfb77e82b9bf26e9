import ContentSearch.Proofs.Index.FieldKey
import ContentSearch.Proofs.Plan.Table

/-!
# Properties that are there

Whether an entry has a property is answered from the field that keeps the terms of the property. The
main statement says which entries are selected: those with a term of the property, and those with a
term that is kept in the field for something else. These are the entries that carry a value only if
all bytes of the property are text, as other bytes have no term.
-/

namespace ContentSearch

/-! ## Values and terms -/

namespace PropertyContent

/-- Whether a property holds a value; bytes are one. -/
def hasValue : PropertyContent → Bool
  | .values vs => !vs.isEmpty
  | .binary _ => true

/-- Whether a property holds no bytes that are not text. -/
def isText : PropertyContent → Bool
  | .values _ => true
  | .binary b => b.text?.isSome

/-- Whether a property has a term. -/
def hasTerm (content : PropertyContent) : Bool :=
  !content.indexed.terms.isEmpty

/-- Simple values have terms, whatever they are. -/
theorem hasTerm_values (vs : List Value) :
    (PropertyContent.values vs).hasTerm = (PropertyContent.values vs).hasValue := by
  cases vs <;> rfl

/-- Bytes have a term if they are text. -/
theorem hasTerm_binary (b : BinaryContent) :
    (PropertyContent.binary b).hasTerm = b.text?.isSome := by
  rw [hasTerm, indexed]
  cases b.text? <;> rfl

theorem hasTerm_eq_hasValue {content : PropertyContent} (h : content.isText = true) :
    content.hasTerm = content.hasValue := by
  cases content with
  | values vs => exact hasTerm_values vs
  | binary b =>
    rw [hasTerm_binary, hasValue]
    exact h

theorem hasValue_of_hasTerm {content : PropertyContent} (h : content.hasTerm = true) :
    content.hasValue = true := by
  cases content with
  | values vs => rwa [← hasTerm_values]
  | binary b => rfl

end PropertyContent

namespace Entry

/-- Whether the entry has a property of the name that holds a value. -/
def carries (e : Entry) (property : String) : Bool :=
  e.properties.any fun p => p.name == property && p.content.hasValue

/-- Whether the entry has a property of the name that has a term. -/
def carriesTerm (e : Entry) (property : String) : Bool :=
  e.properties.any fun p => p.name == property && p.content.hasTerm

theorem carries_of_carriesTerm {e : Entry} {property : String}
    (h : e.carriesTerm property = true) : e.carries property = true := by
  obtain ⟨p, hp, hboth⟩ := List.any_eq_true.mp h
  obtain ⟨hname, hterm⟩ := Bool.and_eq_true_iff.mp hboth
  exact List.any_eq_true.mpr ⟨p, hp, Bool.and_eq_true_iff.mpr
    ⟨hname, PropertyContent.hasValue_of_hasTerm hterm⟩⟩

/-- Whether all bytes that the entry holds under a name are text. -/
def holdsText (e : Entry) (property : String) : Bool :=
  e.properties.all fun p => p.name != property || p.content.isText

/-- If all bytes are text, every value has a term. -/
theorem carriesTerm_of_carries {e : Entry} {property : String}
    (h : e.holdsText property = true) (hcarries : e.carries property = true) :
    e.carriesTerm property = true := by
  obtain ⟨p, hp, hboth⟩ := List.any_eq_true.mp hcarries
  obtain ⟨hname, hvalue⟩ := Bool.and_eq_true_iff.mp hboth
  have htext := List.all_eq_true.mp h p hp
  rw [bne, hname, Bool.not_true, Bool.false_or] at htext
  refine List.any_eq_true.mpr ⟨p, hp, Bool.and_eq_true_iff.mpr ⟨hname, ?_⟩⟩
  rwa [PropertyContent.hasTerm_eq_hasValue htext]

/-! ## Terms by what they are kept for -/

/-- The terms of the entry in its tables, each list with what it is kept for. -/
def keyTerms (e : Entry) : List (Field.Key × List String) :=
  e.tables.flatMap fun table =>
    (e.properties.flatMap fun p =>
      [(.ofProperty .values table p.name, p.content.indexed.terms),
        (.ofProperty .lengths table p.name, p.content.indexed.lengths),
        (.ofProperty .words table p.name, tokensOf p)])
      ++ [(.ofTable table, e.properties.flatMap tokensOf)]

/-- The fields of the tables are named for what they are kept for. -/
theorem map_keyTerms (e : Entry) :
    e.keyTerms.map (fun listed => (listed.1.name, listed.2)) = e.tables.flatMap e.tableFields := by
  simp only [keyTerms, List.map_flatMap, List.map_append, List.map_cons, List.map_nil]
  rfl

theorem mem_termsIn_key {e : Entry} {k : Field.Key} {t : String} :
    t ∈ e.termsIn k.name ↔ ∃ listed ∈ e.keyTerms, listed.1.name = k.name ∧ t ∈ listed.2 := by
  rw [mem_termsIn]
  constructor
  · rintro ⟨ts, hlisted, ht⟩
    rcases mem_fieldTerms.mp hlisted with hbuiltIn | htables
    · -- no such field is a built-in one
      exact absurd (isPlain_of_mem_builtInTerms hbuiltIn) k.not_isPlain_name
    · rw [← List.mem_flatMap, ← map_keyTerms] at htables
      obtain ⟨⟨k', ts'⟩, hkept, heq⟩ := List.mem_map.mp htables
      obtain ⟨hname, rfl⟩ := Prod.mk.inj heq
      exact ⟨_, hkept, hname, ht⟩
  · rintro ⟨⟨k', ts⟩, hkept, hname, ht⟩
    refine ⟨ts, mem_fieldTerms.mpr (Or.inr ?_), ht⟩
    rw [← List.mem_flatMap, ← map_keyTerms]
    exact List.mem_map.mpr ⟨_, hkept, Prod.ext hname rfl⟩

theorem mem_keyTerms_values {e : Entry} {table property : String} {ts : List String} :
    (Field.Key.ofProperty .values table property, ts) ∈ e.keyTerms
      ↔ table ∈ e.tables
        ∧ ∃ p ∈ e.properties, p.name = property ∧ p.content.indexed.terms = ts := by
  simp only [keyTerms, List.mem_flatMap, List.mem_append, List.mem_cons, List.not_mem_nil, or_false,
    Prod.mk.injEq, Field.Key.ofProperty.injEq, reduceCtorEq, false_and, true_and]
  constructor
  · rintro ⟨u, hu, p, hp, ⟨rfl, rfl⟩, rfl⟩
    exact ⟨hu, p, hp, rfl, rfl⟩
  · rintro ⟨hu, p, hp, rfl, rfl⟩
    exact ⟨table, hu, p, hp, ⟨rfl, rfl⟩, rfl⟩

/-- Whether the entry has a term that is kept for something else in a field of the same name. -/
def hasNamesakeOf (e : Entry) (k : Field.Key) : Bool :=
  e.keyTerms.any fun listed => listed.1 != k && listed.1.name == k.name && !listed.2.isEmpty

/-- A field with a name of its own keeps nothing else. -/
theorem hasNamesakeOf_eq_false {e : Entry} {k : Field.Key} (h : k.IsUnshared) :
    e.hasNamesakeOf k = false := by
  rw [hasNamesakeOf, List.any_eq_false]
  rintro ⟨k', ts⟩ -
  simp only [Bool.and_eq_true, bne_iff_ne, beq_iff_eq]
  rintro ⟨⟨hne, hname⟩, -⟩
  exact hne (h k' hname)

/-- In its table, an entry has a term in the field of a property if the property has one, or if
something else in the field has one. -/
theorem satisfies_hasTerm_property (engine : Regex.Engine) {e : Entry} {table property : String}
    (htable : table ∈ e.tables) :
    e.satisfies engine (.hasTerm (Field.property table property))
      = (e.carriesTerm property || e.hasNamesakeOf (.ofProperty .values table property)) := by
  rw [← Field.Key.name_values, satisfies, Bool.eq_iff_iff, Bool.not_eq_true',
    List.isEmpty_eq_false_iff_exists_mem, Bool.or_eq_true]
  simp only [mem_termsIn_key, carriesTerm, hasNamesakeOf, PropertyContent.hasTerm, List.any_eq_true,
    Bool.and_eq_true, bne_iff_ne, beq_iff_eq, Bool.not_eq_true',
    List.isEmpty_eq_false_iff_exists_mem]
  constructor
  · rintro ⟨t, ⟨k, ts⟩, hkept, hname, ht⟩
    by_cases hk : k = .ofProperty .values table property
    · subst hk
      obtain ⟨-, p, hp, hproperty, rfl⟩ := mem_keyTerms_values.mp hkept
      exact Or.inl ⟨p, hp, hproperty, t, ht⟩
    · exact Or.inr ⟨_, hkept, ⟨hk, hname⟩, t, ht⟩
  · rintro (⟨p, hp, hproperty, t, ht⟩ | ⟨listed, hkept, ⟨-, hname⟩, t, ht⟩)
    · exact ⟨t, _, mem_keyTerms_values.mpr ⟨htable, p, hp, hproperty, rfl⟩, rfl, ht⟩
    · exact ⟨t, listed, hkept, hname, ht⟩

end Entry

/-! ## Plans -/

namespace Plan

variable {rules : PlanRules} {table property : String} {t : Table}

/-- The plan of a query of a base table that asks for a property asks for a term in its field. -/
theorem predicate_of_hasValue (ht : rules.schema.table? table = some t)
    (hbase : t.definition? = none) {q : Query} {alias? name? : Option String}
    (hsource : q.source = .selector ⟨table, alias?⟩)
    (hconstraint : q.constraint? = some (.hasValue ⟨name?, property⟩)) {bindings : Bindings}
    {plan : Plan} (hplan : ofQuery rules q bindings = .ok plan) :
    plan.predicate = .allOf [.term Field.table table true,
      .hasTerm (Field.property table property)] := by
  obtain ⟨s, hs, p, hp, hpredicate⟩ := exists_scope_of_ofQuery hsource hconstraint ht hbase hplan
  obtain ⟨found, hfound, hp⟩ := Outcome.bind_eq_ok hp
  obtain ⟨name, rfl⟩ := hs.selector hfound
  obtain rfl := Except.ok.inj hp
  exact hpredicate

/-- All columns of a base table can be asked for. -/
theorem exists_plan_of_hasValue (ht : rules.schema.table? table = some t)
    (hbase : t.definition? = none) {column : Column} (hcolumn : t.column? property = some column)
    (bindings : Bindings) :
    ∃ plan, ofQuery rules (.ofTable table (.hasValue ⟨none, property⟩)) bindings = .ok plan := by
  have hvalid : (Constraint.hasValue ⟨none, property⟩).IsValid rules.validation
      ⟨table, none⟩ := by
    intro node hnode
    obtain rfl := List.mem_singleton.mp hnode
    exact ValidationRules.propertyProblems_of_column ht hcolumn .hasValue
  obtain ⟨s, ⟨-, name, hunnamed⟩, -, hmake⟩ := exists_scope_of_base ht hbase hvalid bindings
  have hp : s.predicate (.hasValue ⟨none, property⟩)
      = .ok (.hasTerm ((baseSelector name table).propertyField property)) := by
    rw [Scope.predicate, hunnamed, Outcome.ok_bind]
  obtain ⟨plan, hplan, -⟩ := hmake _ hp
  exact ⟨plan, hplan⟩

/-- Every column of a base table can be asked for. Whatever has been added and removed before, the
plan selects the entries of the table that have a term of the property, and those with a term that
is kept for something else in a field of the same name. These are the entries that carry a value of
the property if and only if every entry of the table in use carries one exactly if it has such a
term; for a field with a name of its own, if and only if every such entry that carries a value has a
term of the property. This is so if all bytes that they hold under the name are text. -/
theorem evaluateWith_hasValue (ht : rules.schema.table? table = some t)
    (hbase : t.definition? = none) {column : Column} (hcolumn : t.column? property = some column)
    (bindings : Bindings) :
    (∃ plan, ofQuery rules (.ofTable table (.hasValue ⟨none, property⟩)) bindings = .ok plan)
      ∧ ∀ {q : Query} {alias? name? : Option String} {plan : Plan},
        q.source = .selector ⟨table, alias?⟩ →
        q.constraint? = some (.hasValue ⟨name?, property⟩) →
        ofQuery rules q bindings = .ok plan →
        ∀ (engine : Regex.Engine) (history : List Change),
          (Snapshot.ofHistory history).evaluateWith engine plan.predicate
              = .ok ((Snapshot.ofHistory history).docsIn table fun e =>
                  e.carriesTerm property || e.hasNamesakeOf (.ofProperty .values table property))
            ∧ ((Snapshot.ofHistory history).evaluateWith engine plan.predicate
                  = .ok ((Snapshot.ofHistory history).docsIn table (·.carries property))
              ↔ ∀ e ∈ (Snapshot.ofHistory history).liveEntries, table ∈ e.tables →
                  (e.carriesTerm property || e.hasNamesakeOf (.ofProperty .values table property))
                    = e.carries property)
            ∧ ((Field.Key.ofProperty .values table property).IsTellable →
                ((Snapshot.ofHistory history).evaluateWith engine plan.predicate
                    = .ok ((Snapshot.ofHistory history).docsIn table (·.carries property))
                  ↔ ∀ e ∈ (Snapshot.ofHistory history).liveEntries, table ∈ e.tables →
                      e.carries property = true → e.carriesTerm property = true))
            ∧ ((Field.Key.ofProperty .values table property).IsTellable →
                (∀ e ∈ (Snapshot.ofHistory history).liveEntries, table ∈ e.tables →
                  e.holdsText property = true) →
                (Snapshot.ofHistory history).evaluateWith engine plan.predicate
                  = .ok ((Snapshot.ofHistory history).docsIn table (·.carries property))) := by
  refine ⟨exists_plan_of_hasValue ht hbase hcolumn bindings, ?_⟩
  intro q alias? name? plan hsource hconstraint hplan engine history
  have h := Snapshot.consistent_ofHistory history
  rw [predicate_of_hasValue ht hbase hsource hconstraint hplan]
  have hanswer := h.evaluateWith_inTable table
    (rfl : (Predicate.hasTerm (Field.property table property)).compiles engine = true)
    fun e htable => Entry.satisfies_hasTerm_property engine htable
  rw [hanswer]
  refine ⟨rfl, ?_⟩
  rw [Except.ok.injEq, h.docsIn_eq_iff]
  have hunshared : (Field.Key.ofProperty .values table property).IsTellable → ∀ e : Entry,
      (e.carriesTerm property || e.hasNamesakeOf (.ofProperty .values table property))
          = e.carries property
        ↔ (e.carries property = true → e.carriesTerm property = true) := by
    intro htellable e
    rw [Entry.hasNamesakeOf_eq_false (Field.Key.isUnshared_ofProperty htellable), Bool.or_false,
      Bool.eq_iff_iff]
    exact ⟨Iff.mpr, fun hterm => ⟨Entry.carries_of_carriesTerm, hterm⟩⟩
  refine ⟨Iff.rfl, fun htellable => ?_, fun htellable htext e he htable => ?_⟩
  · exact forall₂_congr fun e _ => forall_congr' fun _ => hunshared htellable e
  · exact (hunshared htellable e).mpr (Entry.carriesTerm_of_carries (htext e he htable))

/-! ## Attached files -/

/-- Letters may have a file attached, and have any number of subjects. -/
def letterTable : Table :=
  Table.ofColumns "letter" [Column.plain "file" .binary, Column.plain "subject" .string]

def letterRules : PlanRules :=
  { schema := Schema.empty.withTable letterTable
    caseSensitive := true
    checksColumns := true
    resolvePath := fun _ => none }

def letter (identifier : String) (properties : List Property) : Entry :=
  properties.foldl Entry.withProperty ((Entry.named identifier identifier).inTable "letter")

/-- The file of the first letter is text, and the file of the second one is not. The other letters
have no file. -/
def letters : List Change :=
  [.insert (letter "a" [Property.binary "file" (BinaryContent.ofBytes [0x68, 0x69])]),
    .insert (letter "b" [Property.binary "file" (BinaryContent.ofBytes [0xff])]),
    .insert (letter "c" []),
    .insert (letter "d" [Property.multi "subject" .string [], Property.multi "file" .binary []])]

def attachedQuery : Query :=
  .ofTable "letter" (.hasValue ⟨none, "file"⟩)

/-- The letters without the second one. -/
def textLetters : List Change :=
  letters ++ [.remove "b"]

/-- The field of the files has a name that no other field has. -/
theorem isTellable_file : (Field.Key.ofProperty .values "letter" "file").IsTellable :=
  Field.Key.isTellable_of_isPlain ⟨by decide, by decide⟩

/-- As long as there is a letter whose file is no text, the answer is the one of the terms. Without
it, the answer is the one of the values, and a file without values does not count. -/
theorem evaluateWith_hasValue_letters :
    ∃ plan, ofQuery letterRules attachedQuery OrderedMap.empty = .ok plan
      ∧ (Snapshot.ofHistory letters).evaluateWith Regex.engine plan.predicate
        = .ok ((Snapshot.ofHistory letters).docsIn "letter" fun e =>
            e.carriesTerm "file" || e.hasNamesakeOf (.ofProperty .values "letter" "file"))
      ∧ (Snapshot.ofHistory textLetters).evaluateWith Regex.engine plan.predicate
        = .ok ((Snapshot.ofHistory textLetters).docsIn "letter" (·.carries "file"))
      ∧ ((Snapshot.ofHistory textLetters).docsIn "letter" (·.carries "file")).toList = [0] := by
  have htable : letterRules.schema.table? "letter" = some letterTable := rfl
  have hfile : letterTable.column? "file" = some (Column.plain "file" .binary) := rfl
  have htext : ((Snapshot.ofHistory textLetters).liveEntries.all (·.holdsText "file")) = true := by
    decide +kernel
  obtain ⟨⟨plan, hplan⟩, hselects⟩ := evaluateWith_hasValue htable rfl hfile OrderedMap.empty
  refine ⟨plan, hplan, (hselects rfl rfl hplan Regex.engine letters).1, ?_, by decide +kernel⟩
  exact (hselects rfl rfl hplan Regex.engine textLetters).2.2.2 isTellable_file
    fun e he _ => List.all_eq_true.mp htext e he

/-- The letter whose file is no text is not found, although it has a file. -/
theorem evaluateWith_letters_ne :
    ∃ plan, ofQuery letterRules attachedQuery OrderedMap.empty = .ok plan
      ∧ ((Snapshot.ofHistory letters).evaluateWith Regex.engine plan.predicate).toOption.map
          (·.toList) = some [0]
      ∧ ((Snapshot.ofHistory letters).docsIn "letter" (·.carries "file")).toList = [0, 1]
      ∧ (Snapshot.ofHistory letters).evaluateWith Regex.engine plan.predicate
        ≠ .ok ((Snapshot.ofHistory letters).docsIn "letter" (·.carries "file")) := by
  have htable : letterRules.schema.table? "letter" = some letterTable := rfl
  have hfile : letterTable.column? "file" = some (Column.plain "file" .binary) := rfl
  obtain ⟨plan, hplan⟩ := exists_plan_of_hasValue htable rfl hfile OrderedMap.empty
  have hfound : ((Snapshot.ofHistory letters).evaluateWith Regex.engine
      plan.predicate).toOption.map (·.toList) = some [0] := by
    rw [predicate_of_hasValue htable rfl rfl rfl hplan]
    decide +kernel
  have hcarried : ((Snapshot.ofHistory letters).docsIn "letter" (·.carries "file")).toList
      = [0, 1] := by
    decide +kernel
  exact ⟨plan, hplan, hfound, hcarried, Snapshot.evaluateWith_ne_ok hfound hcarried (by decide)⟩

end Plan

end ContentSearch
