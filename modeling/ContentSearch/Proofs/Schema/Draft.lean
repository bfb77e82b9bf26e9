import ContentSearch.Proofs.Schema.View

/-!
# Schemas that drafts build

When names are not used twice, a schema still has every table that a view was resolved from: each
view is what its definition gives with the tables of the schema, so that each column of a view of
one table can be followed to a column of that table with the same type and operators.
-/

namespace ContentSearch

/-! ## Tables of a schema -/

/-- Every table has its columns under their names, and the source of every view of one selector is
there as the view was resolved from it. -/
structure TablesResolved (tables : OrderedMap String Table) : Prop where
  keyed : ∀ {name t}, tables.get? name = some t → KeyedByName t.columns
  view : ∀ {name t q s}, tables.get? name = some t → t.definition? = some q →
    q.source = .selector s → ∃ source, tables.get? s.table = some source
      ∧ (q.Renames → t.Shows source q.sourceColumn)

/-- Every view is what its definition gives with the tables that are there. -/
def ViewsCurrent (tables : OrderedMap String Table) : Prop :=
  ∀ name t q, tables.get? name = some t → t.definition? = some q →
    View.resolve name q tables = .ok t

/-- A table of a new name changes nothing about the sources that are found. -/
theorem View.sources_insert {view name : String} {t : Table} {tables : OrderedMap String Table}
    (hnew : tables.get? name = none) {selectors : List Selector} {found : OrderedMap String Table}
    (h : sources view tables selectors = .ok found) :
    sources view (tables.insert name t) selectors = .ok found := by
  unfold sources at h ⊢
  generalize OrderedMap.empty = before at h ⊢
  induction selectors generalizing before with
  | nil => exact h
  | cons s rest ih =>
    rw [List.foldlM_cons] at h ⊢
    obtain ⟨next, hnext, h⟩ := Outcome.bind_eq_ok h
    split at hnext
    · rename_i source hsource
      obtain rfl := Except.ok.inj hnext
      have hother : s.table ≠ name := by
        rintro rfl
        rw [hnew] at hsource
        cases hsource
      rw [OrderedMap.get?_insert, if_neg hother, hsource]
      exact ih _ h
    · cases hnext

theorem View.resolve_insert {view name : String} {t t' : Table} {q : Query}
    {tables : OrderedMap String Table} (hnew : tables.get? name = none)
    (h : resolve view q tables = .ok t') : resolve view q (tables.insert name t) = .ok t' := by
  unfold resolve at h ⊢
  obtain ⟨found, hfound, h⟩ := Outcome.bind_eq_ok h
  rw [sources_insert hnew hfound]
  exact h

/-- A view that is resolved gets a name that no table has. -/
theorem ViewsCurrent.insert {tables : OrderedMap String Table} (h : ViewsCurrent tables)
    {name : String} (hnew : tables.get? name = none) {q : Query} {t : Table}
    (ht : View.resolve name q tables = .ok t) : ViewsCurrent (tables.insert name t) := by
  intro other found q' hfound hdefinition
  rw [OrderedMap.get?_insert] at hfound
  split at hfound
  · rename_i hsame
    subst hsame
    obtain rfl := Option.some.inj hfound
    rw [View.definition?_of_resolve ht] at hdefinition
    obtain rfl := Option.some.inj hdefinition
    exact View.resolve_insert hnew ht
  · exact View.resolve_insert hnew (h _ _ _ hfound hdefinition)

/-- Views with new and different names stay as they are resolved. -/
theorem ViewsCurrent.resolveViews {views : List (String × Query)}
    {tables : OrderedMap String Table} (h : ViewsCurrent tables)
    (hnew : ∀ v ∈ views, tables.get? v.1 = none) (hdistinct : (views.map Prod.fst).Nodup) :
    ViewsCurrent (SchemaDraft.resolveViews tables views).1 := by
  induction views generalizing tables with
  | nil => exact h
  | cons v rest ih =>
    obtain ⟨name, q⟩ := v
    rw [List.map_cons, List.nodup_cons] at hdistinct
    have hrest : ∀ v ∈ rest, tables.get? v.1 = none := fun v hv =>
      hnew v (List.mem_cons_of_mem _ hv)
    unfold SchemaDraft.resolveViews
    split
    · rename_i t ht
      refine ih (h.insert (hnew _ List.mem_cons_self) ht) (fun v hv => ?_) hdistinct.2
      rw [OrderedMap.get?_insert, if_neg, hrest v hv]
      rintro rfl
      exact hdistinct.1 (List.mem_map.mpr ⟨v, hv, rfl⟩)
    · exact ih h hrest hdistinct.2

/-- Resolved views have their columns under the names of the columns. -/
theorem keyedByName_resolveViews {views : List (String × Query)}
    {tables : OrderedMap String Table}
    (h : ∀ {name t}, tables.get? name = some t → KeyedByName t.columns) {name : String} {t : Table}
    (ht : (SchemaDraft.resolveViews tables views).1.get? name = some t) :
    KeyedByName t.columns := by
  induction views generalizing tables with
  | nil => exact h ht
  | cons v rest ih =>
    unfold SchemaDraft.resolveViews at ht
    split at ht
    · rename_i view hview
      refine ih (fun {other found} hfound => ?_) ht
      rw [OrderedMap.get?_insert] at hfound
      split at hfound
      · obtain rfl := Option.some.inj hfound
        exact View.keyedByName_of_resolve hview
      · exact h hfound
    · exact ih h ht

/-- Views of one selector that are current can be followed to their sources. -/
theorem ViewsCurrent.tablesResolved {tables : OrderedMap String Table} (h : ViewsCurrent tables)
    (hkeyed : ∀ {name t}, tables.get? name = some t → KeyedByName t.columns) :
    TablesResolved tables := by
  refine ⟨hkeyed, fun ht hdefinition hsource => ?_⟩
  obtain ⟨source, hget, hshows⟩ := View.shows_of_resolve (h _ _ _ ht hdefinition) hsource
  exact ⟨source, hget, hshows (hkeyed hget)⟩

/-! ## Drafts -/

/-- What can be asked of a draft. -/
inductive SchemaCall
  | addTable (name : String) (columns : List String)
  | addColumn (table : String) (column : Column)
  | makeSearchable (table column : String)
  | addView (name : String) (definition : Query)

namespace SchemaDraft

/-- The draft after a call. -/
def call (d : SchemaDraft) : SchemaCall → SchemaDraft
  | .addTable name columns => d.addTable name columns
  | .addColumn table column => d.addColumn table column
  | .makeSearchable table column => d.makeSearchable table column
  | .addView name definition => d.addView name definition

/-- The draft after a sequence of calls. -/
def ofCalls (calls : List SchemaCall) : SchemaDraft :=
  calls.foldl call empty

/-- The names of the tables and views of a draft. -/
def names (d : SchemaDraft) : List String :=
  d.tables.keys ++ d.views.map Prod.fst

/-- The tables of a draft have no definitions, and their columns stand under their names. -/
structure HasBaseTables (d : SchemaDraft) : Prop where
  base : ∀ {name t}, d.tables.get? name = some t → t.definition? = none
  keyed : ∀ {name t}, d.tables.get? name = some t → KeyedByName t.columns

variable {d : SchemaDraft}

theorem HasBaseTables.insert (h : d.HasBaseTables) {name : String} {t : Table}
    (hbase : t.definition? = none) (hkeyed : KeyedByName t.columns) :
    { d with tables := d.tables.insert name t }.HasBaseTables := by
  constructor
  all_goals
    intro other found hfound
    rw [OrderedMap.get?_insert] at hfound
    split at hfound
  · rwa [← Option.some.inj hfound]
  · exact h.base hfound
  · rwa [← Option.some.inj hfound]
  · exact h.keyed hfound

theorem HasBaseTables.call (h : d.HasBaseTables) (c : SchemaCall) : (d.call c).HasBaseTables := by
  cases c with
  | addTable name columns =>
    refine h.insert rfl fun x c hc => ?_
    obtain ⟨c', -, hpair⟩ := List.mem_map.mp (OrderedMap.mem_of_get?_ofList hc)
    obtain ⟨rfl, rfl⟩ := Prod.mk.inj hpair
    rfl
  | addColumn table column =>
    unfold SchemaDraft.call addColumn
    simp only
    split
    · rename_i t ht
      have hbase : t.definition? = none := h.base ht
      exact h.insert hbase ((h.keyed ht).insert column)
    · exact ⟨h.base, h.keyed⟩
  | makeSearchable table column =>
    unfold SchemaDraft.call makeSearchable
    simp only
    split
    · exact ⟨h.base, h.keyed⟩
    · rename_i t ht
      split
      · exact ⟨h.base, h.keyed⟩
      · rename_i c _
        have hbase : t.definition? = none := h.base ht
        exact h.insert hbase ((h.keyed ht).insert { c with searchable := true })
  | addView name definition => exact ⟨h.base, h.keyed⟩

theorem HasBaseTables.foldl_call (h : d.HasBaseTables) (calls : List SchemaCall) :
    (calls.foldl SchemaDraft.call d).HasBaseTables := by
  induction calls generalizing d with
  | nil => exact h
  | cons c rest ih => exact ih (h.call c)

theorem HasBaseTables.empty : SchemaDraft.empty.HasBaseTables where
  base := fun h => by cases h
  keyed := fun h => by cases h

theorem hasBaseTables_ofCalls (calls : List SchemaCall) : (ofCalls calls).HasBaseTables :=
  HasBaseTables.empty.foldl_call calls

theorem tables_of_build {schema : Schema} (h : d.build = .ok schema) :
    schema.tables = (resolveViews d.tables d.views).1 := by
  unfold build at h
  simp only at h
  split at h
  · obtain rfl := Except.ok.inj h
    rfl
  · cases h

theorem keyedByName_of_build {calls : List SchemaCall} {schema : Schema}
    (h : (ofCalls calls).build = .ok schema) {name : String} {t : Table}
    (ht : schema.table? name = some t) : KeyedByName t.columns := by
  rw [Schema.table?, tables_of_build h] at ht
  exact keyedByName_resolveViews (hasBaseTables_ofCalls calls).keyed ht

/-- In a schema that a draft builds, all views are current, if no name is used twice. -/
theorem viewsCurrent_of_build {calls : List SchemaCall} {schema : Schema}
    (h : (ofCalls calls).build = .ok schema) (hnames : (ofCalls calls).names.Nodup) :
    ViewsCurrent schema.tables := by
  have hdistinct := List.nodup_append.mp hnames
  rw [tables_of_build h]
  refine ViewsCurrent.resolveViews (fun _ _ _ ht hdefinition => ?_) ?_ hdistinct.2.1
  · rw [(hasBaseTables_ofCalls calls).base ht] at hdefinition
    cases hdefinition
  · intro v hv
    cases hget : (ofCalls calls).tables.get? v.1 with
    | none => rfl
    | some t =>
      have hkey := OrderedMap.mem_keys_iff.mpr ⟨t, hget⟩
      exact absurd rfl (hdistinct.2.2 _ hkey _ (List.mem_map_of_mem hv))

/-- In a schema that a draft builds, all views can be followed to their sources, if no name is used
twice. -/
theorem tablesResolved_of_build {calls : List SchemaCall} {schema : Schema}
    (h : (ofCalls calls).build = .ok schema) (hnames : (ofCalls calls).names.Nodup) :
    TablesResolved schema.tables :=
  (viewsCurrent_of_build h hnames).tablesResolved (keyedByName_of_build h)

end SchemaDraft

end ContentSearch
