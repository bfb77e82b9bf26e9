import ContentSearch.Proofs.Plan.Like
import ContentSearch.Proofs.Plan.Table
import ContentSearch.Proofs.Text.Casing

/-!
# Comparisons in one case

A column within a case function is compared by what the index keeps, which is the lower case of its
texts. The main statement says which entries are selected. Within `LOWER` these are the entries with
a text whose lower case is the one that is asked for. Within `UPPER` they are the ones that `UPPER`
asks for if all texts are of regular case, but not in general.
-/

namespace ContentSearch

/-! ## Case functions -/

/-- The functions that change the case of an operand. -/
inductive CaseFunction
  | upper | lower

namespace CaseFunction

/-- What the function makes of a text. -/
def map : CaseFunction → String → String
  | .upper => Text.upper
  | .lower => Text.lower

/-- The function of an operand. -/
def operand : CaseFunction → Operand → Operand
  | .upper => .upper
  | .lower => .lower

/-- Whether a text counts as one that the function takes to `w`: `w` is in the case of the function,
and the two have one lower case. -/
def accepts (f : CaseFunction) (w t : String) : Bool :=
  f.map w == w && Text.lower t == Text.lower w

/-- Whether one of the texts is taken to `w` by the function or, for inequality, whether there is a
text and none is taken to `w`. -/
def holdsAmong (f : CaseFunction) (op : Operator) (w : String) (ts : List String) : Bool :=
  op.holdsAmong (fun _ t => f.map t == w) ts

/-- The same for texts that count as ones that the function takes to `w`. -/
def findsAmong (f : CaseFunction) (op : Operator) (w : String) (ts : List String) : Bool :=
  op.holdsAmong (fun _ t => f.accepts w t) ts

theorem accepts_lower (w t : String) : CaseFunction.lower.accepts w t = (Text.lower t == w) := by
  rw [accepts, map, Bool.eq_iff_iff, Bool.and_eq_true, beq_iff_eq, beq_iff_eq, beq_iff_eq]
  constructor
  · rintro ⟨hw, ht⟩
    rw [ht, hw]
  · rintro rfl
    rw [Text.lower_lower]
    exact ⟨rfl, rfl⟩

theorem accepts_upper {w t : String} (hw : Text.IsCaseRegular w) (ht : Text.IsCaseRegular t) :
    CaseFunction.upper.accepts w t = (Text.upper t == w) := by
  rw [accepts, map, Bool.eq_iff_iff, Bool.and_eq_true, beq_iff_eq, beq_iff_eq, beq_iff_eq,
    ht.upper_eq_iff hw]

/-- The case of texts is regular where the function needs it. -/
def IsRegularOn (f : CaseFunction) (w : String) (ts : List String) : Prop :=
  f = .lower ∨ Text.IsCaseRegular w ∧ ∀ t ∈ ts, Text.IsCaseRegular t

/-- Where the case of texts is regular, the texts that count are those that the function takes to
the one that is asked for. -/
theorem findsAmong_eq_holdsAmong {f : CaseFunction} {w : String} {ts : List String}
    (h : f.IsRegularOn w ts) (op : Operator) : f.findsAmong op w ts = f.holdsAmong op w ts := by
  refine Operator.holdsAmong_map (f := id) (fun t => by simp) (fun _ t ht => ?_) op
  rcases h with rfl | ⟨hw, hts⟩
  · exact accepts_lower w t
  · cases f with
    | upper => exact accepts_upper hw (hts t ht)
    | lower => exact accepts_lower w t

/-- The texts that are asked about matter, and neither their order nor how often they come. -/
theorem findsAmong_congr {ts ts' : List String} (h : ∀ t, t ∈ ts ↔ t ∈ ts') (f : CaseFunction)
    (op : Operator) (w : String) : f.findsAmong op w ts = f.findsAmong op w ts' :=
  Operator.holdsAmong_map (fun t => by simp [h]) (fun _ _ _ => rfl) op

end CaseFunction

/-! ## Texts -/

theorem PropertyType.isText_iff {type : PropertyType} :
    type.isText = true ↔ ∃ kind, type = .text kind := by
  cases type <;> simp [isText]

/-- The texts that an entry holds under a name. -/
def Entry.textsOf (e : Entry) (property : String) : List String :=
  (e.valuesOf property).filterMap Value.asText?

/-- The terms of a property that stores text are its texts. -/
theorem Snapshot.Stores.mem_termsIn_iff_mem_textsOf {s : Snapshot} {table property : String}
    {type : PropertyType} (h : s.Stores table property type) (htext : type.isText = true)
    (hplain : Field.IsPlain table) {d : Nat} {e : Entry} (he : s.entry? d = some e)
    (htable : table ∈ e.tables) (t : String) :
    t ∈ e.termsIn (Field.property table property) ↔ t ∈ e.textsOf property := by
  obtain ⟨kind, rfl⟩ := PropertyType.isText_iff.mp htext
  rw [h.mem_termsIn hplain he htable, Entry.textsOf, List.mem_filterMap]
  refine exists_congr fun v => and_congr_right fun hv => ?_
  have hlike := h.isLike_of_mem he htable hv
  cases v with
  | text kind' w =>
    show w = t ↔ some w = some t
    rw [Option.some.injEq]
  | _ => cases hlike

/-! ## Predicates -/

theorem Value.cast_text (kind kind' : TextKind) (w : String) :
    (Value.text kind w).cast (.text kind') = .ok (.text kind' w) := by
  unfold cast
  split
  · rename_i htype
    obtain rfl := PropertyType.text.inj htype
    rfl
  · cases kind' <;> rfl

theorem Entry.satisfies_differing (engine : Regex.Engine) (e : Entry) (field : String)
    (p : Predicate) :
    e.satisfies engine (Comparison.differing field p)
      = (!(e.termsIn field).isEmpty && !e.satisfies engine p) := by
  simp [Comparison.differing, Predicate.without, satisfies, satisfiesAll, satisfiesAny]

namespace CaseFunction

/-- Equality or inequality of a column of text within a case function. No text within the function
equals one that the function would change. -/
def predicate (f : CaseFunction) (op : Operator) (field w : String) : Predicate :=
  if f.map w = w then
    if op = .notEqualTo then Comparison.differing field (.term field (Text.lower w) false)
    else .term field (Text.lower w) false
  else if op = .notEqualTo then .hasTerm field
  else .nothing

theorem compiles_predicate (f : CaseFunction) (engine : Regex.Engine) (op : Operator)
    (field w : String) : (f.predicate op field w).compiles engine = true := by
  unfold predicate
  split <;> split <;> rfl

theorem satisfies_folded (engine : Regex.Engine) (e : Entry) (field w : String) :
    e.satisfies engine (.term field (Text.lower w) false)
      = (e.termsIn field).any fun t => Text.lower t == Text.lower w := by
  rw [Entry.satisfies, Entry.anyTerm]
  simp only [FieldIndex.lookupKey, Bool.false_eq_true, if_false, Text.lower_lower]

/-- An entry satisfies the predicate if equality or inequality holds among its terms by what the
index compares. -/
theorem satisfies_predicate {f : CaseFunction} {op : Operator}
    (hop : op = .equalTo ∨ op = .notEqualTo) (engine : Regex.Engine) (e : Entry)
    (field w : String) :
    e.satisfies engine (f.predicate op field w) = f.findsAmong op w (e.termsIn field) := by
  have hne : Operator.equalTo ≠ .notEqualTo := by decide
  unfold predicate
  by_cases hw : f.map w = w
  · have haccepts : f.accepts w = fun t => Text.lower t == Text.lower w := by
      funext t
      rw [accepts, hw, beq_self_eq_true, Bool.true_and]
    rcases hop with rfl | rfl
    · rw [if_pos hw, if_neg hne, satisfies_folded, findsAmong, haccepts]
      rfl
    · rw [if_pos hw, if_pos rfl, Entry.satisfies_differing, satisfies_folded, findsAmong, haccepts]
      rfl
  · have haccepts : f.accepts w = fun _ => false := by
      funext t
      rw [accepts, beq_eq_false_iff_ne.mpr hw, Bool.false_and]
    rcases hop with rfl | rfl
    · rw [if_neg hw, if_neg hne, findsAmong, haccepts]
      simp [Entry.satisfies, Operator.holdsAmong]
    · rw [if_neg hw, if_pos rfl, findsAmong, haccepts]
      simp [Entry.satisfies, Operator.holdsAmong]

/-- The operators that are allowed within the function are those of the column. -/
theorem restrictingProperty?_operand (f : CaseFunction) (ref : PropertyRef) :
    Scope.restrictingProperty? (f.operand (.property ref)) = some ref := by
  cases f <;> rfl

end CaseFunction

/-- A column of text is compared with the key that a text is looked up by. -/
theorem Comparison.propertyTerm_text (op : Operator) (kind : TextKind) (w : String)
    (caseSensitive : Bool) {type : PropertyType} (htext : type.isText = true) :
    (Comparison.mk op (.text kind w) caseSensitive).propertyTerm (some type)
      = .ok (FieldIndex.lookupKey caseSensitive w, caseSensitive) := by
  obtain ⟨kind', rfl⟩ := PropertyType.isText_iff.mp htext
  unfold propertyTerm castTo
  simp only [Option.getD_some, Value.cast_text]
  cases caseSensitive <;> rfl

namespace Scope

variable {s : Scope}

theorem comparison_operand (f : CaseFunction) (inner : Operand) (op : Operator) (v : Value) :
    s.comparison (f.operand inner) op v = s.caseComparison f.map inner op v := by
  cases f <;> rfl

/-- Equality or inequality of a column of text within a case function is planned as its predicate on
the field of the column. -/
theorem comparison_caseFunction (f : CaseFunction) {op : Operator}
    (hop : op = .equalTo ∨ op = .notEqualTo) {ref : PropertyRef} {table : String}
    {column : Column} (hcolumn : s.ReadsColumn ref table column)
    (htext : column.type.isText = true) (kind : TextKind) (w : String) :
    s.comparison (f.operand (.property ref)) op (.text kind w)
      = .ok (f.predicate op (Field.property table ref.property) w) := by
  have hinCase : isInCase f.map (.text kind w) = true ↔ f.map w = w := beq_iff_eq
  rw [comparison_operand, CaseFunction.predicate]
  unfold caseComparison
  by_cases hw : f.map w = w
  · simp only [if_pos hw, if_pos (hinCase.mpr hw), withoutCase]
    rw [hcolumn.plainComparison]
    rcases hop with rfl | rfl
    · simp only [Comparison.onProperty, Comparison.propertyTerm_text _ kind w false htext]
      rfl
    · simp only [Comparison.onProperty, Comparison.propertyTerm_text _ kind w false htext]
      rfl
  · simp only [if_neg hw, if_neg (hinCase.not.mpr hw), withoutCase]
    rcases hop with rfl | rfl
    · rfl
    · -- inequality asks for a text of any form
      show s.plainComparison (.property ref) _ = _
      obtain ⟨kind', hkind⟩ := PropertyType.isText_iff.mp htext
      rw [hcolumn.plainComparison, hkind]
      rfl

end Scope

/-! ## Plans -/

namespace Plan

variable {rules : PlanRules} {table property : String} {t : Table} {column : Column}

/-- The plan of a query of a base table that compares a column of text within a case function. -/
theorem predicate_of_caseFunction (ht : rules.schema.table? table = some t)
    (hbase : t.definition? = none) (hcolumn : t.column? property = some column)
    (htext : column.type.isText = true) {f : CaseFunction} {op : Operator}
    (hop : op = .equalTo ∨ op = .notEqualTo) {q : Query} {alias? name? : Option String}
    (hsource : q.source = .selector ⟨table, alias?⟩) {right : StaticOperand}
    (hconstraint : q.constraint? =
      some (.compare (f.operand (.property ⟨name?, property⟩)) op right))
    {bindings : Bindings} {kind : TextKind} {w : String}
    (hvalue : right.value? bindings = some (.text kind w)) {plan : Plan}
    (hplan : ofQuery rules q bindings = .ok plan) :
    plan.predicate = .allOf [.term Field.table table true,
      f.predicate op (Field.property table property) w] := by
  apply predicate_of_column ht hbase hcolumn hsource (f.restrictingProperty?_operand _) hconstraint
    hvalue hplan
  intro s _ hreads
  exact Scope.comparison_caseFunction f hop hreads htext kind w

/-- A column of text that allows the operator can be compared within a case function. -/
theorem exists_plan_of_caseFunction (ht : rules.schema.table? table = some t)
    (hbase : t.definition? = none) (hcolumn : t.column? property = some column)
    (htext : column.type.isText = true) (f : CaseFunction) {op : Operator}
    (hop : op = .equalTo ∨ op = .notEqualTo) (hallowed : column.supports op = true)
    (kind : TextKind) (w : String) (bindings : Bindings) :
    ∃ plan, ofQuery rules (.ofTable table (.compare (f.operand (.property ⟨none, property⟩)) op
      (.literal (Literal.ofValue (.text kind w))))) bindings = .ok plan := by
  apply exists_plan_of_column ht hbase hcolumn (f.restrictingProperty?_operand ⟨none, property⟩)
    hallowed bindings
  intro s _ hreads
  exact Scope.comparison_caseFunction f hop hreads htext kind w

/-- Equality and inequality with a text, for a column of text of a base table within `UPPER` or
`LOWER`. Whatever has been added and removed before, the plan selects the entries of the table for
which the comparison holds among the terms of the column by their lower case, as long as the text is
in the case of the function. These are the entries for which it holds among the texts by what the
function makes of them if and only if the two agree on all entries of the table that are in use.
They do so within `LOWER` if the names are plain and the column stores text, and within `UPPER` if
besides all these texts are of regular case. -/
theorem evaluateWith_caseFunction (ht : rules.schema.table? table = some t)
    (hbase : t.definition? = none) (hcolumn : t.column? property = some column)
    (htext : column.type.isText = true) (f : CaseFunction) {op : Operator}
    (hop : op = .equalTo ∨ op = .notEqualTo) (kind : TextKind) (w : String)
    (bindings : Bindings) :
    (column.supports op = true →
      ∃ plan, ofQuery rules (.ofTable table (.compare (f.operand (.property ⟨none, property⟩)) op
        (.literal (Literal.ofValue (.text kind w))))) bindings = .ok plan)
      ∧ ∀ {q : Query} {alias? name? : Option String} {right : StaticOperand} {plan : Plan},
        q.source = .selector ⟨table, alias?⟩ →
        q.constraint? = some (.compare (f.operand (.property ⟨name?, property⟩)) op right) →
        right.value? bindings = some (.text kind w) →
        ofQuery rules q bindings = .ok plan →
        ∀ (engine : Regex.Engine) (history : List Change),
          (Snapshot.ofHistory history).evaluateWith engine plan.predicate
              = .ok ((Snapshot.ofHistory history).docsIn table fun e =>
                  f.findsAmong op w (e.termsIn (Field.property table property)))
            ∧ ((Snapshot.ofHistory history).evaluateWith engine plan.predicate
                  = .ok ((Snapshot.ofHistory history).docsIn table fun e =>
                      f.holdsAmong op w (e.textsOf property))
              ↔ ∀ e ∈ (Snapshot.ofHistory history).liveEntries, table ∈ e.tables →
                  f.findsAmong op w (e.termsIn (Field.property table property))
                    = f.holdsAmong op w (e.textsOf property))
            ∧ (Field.IsPlain table →
                (Snapshot.ofHistory history).Stores table property column.type →
                (∀ e ∈ (Snapshot.ofHistory history).liveEntries, table ∈ e.tables →
                  f.IsRegularOn w (e.textsOf property)) →
                (Snapshot.ofHistory history).evaluateWith engine plan.predicate
                  = .ok ((Snapshot.ofHistory history).docsIn table fun e =>
                      f.holdsAmong op w (e.textsOf property))) := by
  refine ⟨fun hallowed => exists_plan_of_caseFunction ht hbase hcolumn htext f hop hallowed kind w
    bindings, ?_⟩
  intro q alias? name? right plan hsource hconstraint hvalue hplan engine history
  have h := Snapshot.consistent_ofHistory history
  rw [predicate_of_caseFunction ht hbase hcolumn htext hop hsource hconstraint hvalue hplan]
  have hanswer := h.evaluateWith_inTable table (f.compiles_predicate engine op _ w) fun e _ =>
    CaseFunction.satisfies_predicate hop engine e (Field.property table property) w
  rw [hanswer]
  refine ⟨rfl, ?_⟩
  rw [Except.ok.injEq, h.docsIn_eq_iff]
  refine ⟨Iff.rfl, fun hplain hstores hregular e he htable => ?_⟩
  obtain ⟨d, hd⟩ := h.mem_liveEntries.mp he
  rw [CaseFunction.findsAmong_congr
      (hstores.mem_termsIn_iff_mem_textsOf htext hplain hd htable) f op w,
    CaseFunction.findsAmong_eq_holdsAmong (hregular e he htable)]

/-! ## Titles in capitals -/

/-- The books whose title differs from a title in capitals. -/
def differsInCapitals (capitals : String) : Query :=
  .ofTable "book" (.compare (CaseFunction.upper.operand (.property ⟨none, "title"⟩)) .notEqualTo
    (.literal (Literal.ofValue (Value.string capitals))))

/-- Both books called Emma are left out. The titles are ASCII, so that the lower case of a title
tells its capitals. -/
theorem evaluateWith_caseFunction_shelf :
    ∃ plan, ofQuery bookRules (differsInCapitals "EMMA") OrderedMap.empty = .ok plan
      ∧ (Snapshot.ofHistory shelf).evaluateWith Regex.engine plan.predicate
        = .ok ((Snapshot.ofHistory shelf).docsIn "book" fun e =>
            CaseFunction.upper.holdsAmong .notEqualTo "EMMA" (e.textsOf "title"))
      ∧ ((Snapshot.ofHistory shelf).docsIn "book" fun e =>
            CaseFunction.upper.holdsAmong .notEqualTo "EMMA" (e.textsOf "title")).toList
        = [4] := by
  have htable : bookRules.schema.table? "book" = some bookTable := rfl
  have htitle : bookTable.column? "title" = some (Column.plain "title" .string) := rfl
  have hall : ((Snapshot.ofHistory shelf).liveEntries.all fun e =>
      (e.textsOf "title").all fun t => Text.isAscii t.toList) = true := by
    decide +kernel
  obtain ⟨hexists, hselects⟩ := evaluateWith_caseFunction htable rfl htitle rfl .upper
    (.inr rfl) .string "EMMA" OrderedMap.empty
  obtain ⟨plan, hplan⟩ := hexists rfl
  refine ⟨plan, hplan, ?_, by decide +kernel⟩
  refine (hselects rfl rfl rfl hplan Regex.engine shelf).2.2 (by decide +kernel) shelf_stores_title
    fun e he _ => ?_
  have hascii := List.all_eq_true.mp (List.all_eq_true.mp hall e he)
  exact .inr ⟨Text.isCaseRegular_of_isAscii (by decide +kernel),
    fun w hw => Text.isCaseRegular_of_isAscii (hascii w hw)⟩

/-- The titles of both books are the same in capitals. -/
def streets : List Change :=
  [.insert (book "a" "Straße" []), .insert (book "b" "Strasse" [])]

def streetsQuery : Query :=
  .ofTable "book" (.compare (.upper (.property ⟨none, "title"⟩)) .equalTo
    (.literal (Literal.ofValue (Value.string "STRASSE"))))

/-- The title with a sharp s is not found by its capitals, as the lower case of the capitals has two
letters instead. -/
theorem evaluateWith_streets_ne :
    ∃ plan, ofQuery bookRules streetsQuery OrderedMap.empty = .ok plan
      ∧ ((Snapshot.ofHistory streets).evaluateWith Regex.engine plan.predicate).toOption.map
          (·.toList) = some [1]
      ∧ ((Snapshot.ofHistory streets).docsIn "book" fun e =>
          (e.textsOf "title").any fun t => Text.upper t == "STRASSE").toList = [0, 1]
      ∧ (Snapshot.ofHistory streets).evaluateWith Regex.engine plan.predicate
        ≠ .ok ((Snapshot.ofHistory streets).docsIn "book" fun e =>
            (e.textsOf "title").any fun t => Text.upper t == "STRASSE") := by
  have hisOk : (ofQuery bookRules streetsQuery OrderedMap.empty).isOk = true := by decide +kernel
  obtain ⟨plan, hplan⟩ := Outcome.exists_of_isOk hisOk
  have hfound : ((Snapshot.ofHistory streets).evaluateWith Regex.engine
      plan.predicate).toOption.map (·.toList) = some [1] := by
    have htable : bookRules.schema.table? "book" = some bookTable := rfl
    have htitle : bookTable.column? "title" = some (Column.plain "title" .string) := rfl
    rw [predicate_of_caseFunction (f := .upper) htable rfl htitle rfl (.inl rfl) rfl rfl rfl hplan]
    decide +kernel
  have hasked : ((Snapshot.ofHistory streets).docsIn "book" fun e =>
      (e.textsOf "title").any fun t => Text.upper t == "STRASSE").toList = [0, 1] := by
    decide +kernel
  exact ⟨plan, hplan, hfound, hasked, Snapshot.evaluateWith_ne_ok hfound hasked (by decide)⟩

end Plan

end ContentSearch
