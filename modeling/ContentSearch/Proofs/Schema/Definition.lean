import ContentSearch.Proofs.Query.WellFormed
import ContentSearch.Proofs.Schema.Draft

/-!
# Definitions of views as queries

Building a schema resolves the source and the columns of a view's definition with the tables before
the view. It asks nothing of the constraint and the orderings, and does not come back to a view when
a later one takes the name of its source. The main statement says which definitions in a schema that
was built are valid queries of this schema.
-/

namespace ContentSearch

/-! ## Valid queries of one selector -/

theorem ResolvedQuery.Knows.ofSelector (s : Selector) : (ResolvedQuery.ofSelector s).Knows [s] :=
  rfl

theorem Selector.IsMeant.eq_of_singleton {s s' : Selector} {name? : Option String}
    (h : s'.IsMeant [s] name?) : s' = s :=
  List.mem_singleton.mp h.mem

namespace Query

/-- The references of the constraint and the orderings of a query. -/
def innerReferences (q : Query) : List Reference :=
  q.constraint?.toList.flatMap Constraint.references
    ++ q.orderings.map fun o => o.operand.reference

theorem references_eq (q : Query) :
    q.references = q.innerReferences ++ q.columns.map fun c => ⟨c.selector?, c.property?⟩ :=
  rfl

/-- The properties that a query lists are columns of a table. -/
def ListsColumnsOf (q : Query) (source : Table) : Prop :=
  ∀ c ∈ q.columns, ∀ property, c.property? = some property →
    ∃ named, source.column? property = some named

end Query

namespace ValidationRules

variable {rules : ValidationRules} {q : Query} {s : Selector} {source : Table}

/-- A query of one selector is valid exactly if its table exists, its references are resolved and
its conditions are sound. -/
theorem resolve_of_selector_iff (hs : q.source = .selector s) :
    (∃ r, rules.resolve q = .ok r)
      ↔ (∃ t, rules.schema.table? s.table = some t)
        ∧ (∀ ref ∈ q.references, ref.Resolves rules [s])
        ∧ ∀ part ∈ q.conditions, part.IsSound rules [s] := by
  rw [resolve_eq_ok_iff hs]
  refine and_congr_right fun htable => ?_
  exact afterSource_sound_iff (.ofSelector s) (List.forall_mem_singleton.mpr htable) q

/-- The only selector has the columns of its table. -/
theorem hasColumn_singleton_iff (hsource : rules.schema.table? s.table = some source)
    {name? : Option String} (hmeant : s.IsMeant [s] name?) {property : String} {c : Column} :
    rules.HasColumn [s] name? property c ↔ source.column? property = some c := by
  constructor
  · rintro ⟨s', hs', t, ht, hc⟩
    obtain rfl := hs'.eq_of_singleton
    obtain rfl := Option.some.inj (ht.symm.trans hsource)
    exact hc
  · exact fun hc => ⟨s, hmeant, source, hsource, hc⟩

/-- With the selectors of its columns known, a query lists columns of the table exactly if the
references of the columns are resolved. -/
theorem columnReferences_resolve_iff (hchecks : rules.checksColumns = true)
    (hsource : rules.schema.table? s.table = some source)
    (hmeant : ∀ c ∈ q.columns, s.IsMeant [s] c.selector?) :
    (∀ ref ∈ q.columns.map fun c => Reference.mk c.selector? c.property?, ref.Resolves rules [s])
      ↔ q.ListsColumnsOf source := by
  rw [List.forall_mem_map]
  refine forall₂_congr fun c hc => ?_
  simp only [Reference.Resolves, hchecks, true_imp_iff,
    hasColumn_singleton_iff hsource (hmeant c hc)]
  exact and_iff_right ⟨s, hmeant c hc⟩

end ValidationRules

/-! ## What building asks of a definition -/

namespace View

variable {view : String} {q : Query} {tables : OrderedMap String Table} {t : Table} {s : Selector}

theorem isMeant_of_sourceOf {source found : Table} {c : ResultColumn}
    (h : sourceOf view (OrderedMap.empty.insert s.name source) c = .ok found) :
    s.IsMeant [s] c.selector? := by
  unfold sourceOf at h
  split at h
  · rename_i name hname
    rw [hname]
    by_cases hsame : name = s.name
    · exact ⟨List.mem_singleton.mpr rfl, hsame.symm⟩
    · rw [OrderedMap.get?_insert, if_neg hsame] at h
      cases h
  · rename_i hname
    rw [hname]
    rfl

/-- A view of one selector has a source, refers in its columns to the selector, and lists columns of
the source. -/
theorem listsColumnsOf_of_resolve (h : resolve view q tables = .ok t)
    (hs : q.source = .selector s) :
    ∃ source, tables.get? s.table = some source ∧ q.ListsColumnsOf source
      ∧ ∀ c ∈ q.columns, s.IsMeant [s] c.selector? := by
  unfold resolve at h
  obtain ⟨found, hfound, h⟩ := Outcome.bind_eq_ok h
  rw [hs] at hfound
  obtain ⟨source, hget, rfl⟩ := sources_eq_ok hfound
  refine ⟨source, hget, ?_⟩
  split at h
  · rename_i hempty
    rw [Query.ListsColumnsOf, List.isEmpty_iff.mp hempty]
    exact ⟨List.forall_mem_nil _, List.forall_mem_nil _⟩
  · obtain ⟨columns, hcolumns, -⟩ := Outcome.bind_eq_ok h
    refine ⟨fun c hc property => exists_column_of_foldlM hcolumns hc, fun c hc => ?_⟩
    obtain ⟨before, after, hadd⟩ := exists_addColumn_of_foldlM hcolumns hc
    obtain ⟨table, htable, -⟩ := addColumn_eq_ok hadd
    exact isMeant_of_sourceOf htable

end View

/-! ## Views of a schema -/

/-- Every view was resolved with tables whose names are still used. -/
def ViewsResolved (tables : OrderedMap String Table) : Prop :=
  ∀ name t q, tables.get? name = some t → t.definition? = some q →
    ∃ before, before.keys ⊆ tables.keys ∧ View.resolve name q before = .ok t

theorem OrderedMap.keys_subset_insert {κ ν : Type} [DecidableEq κ] (m : OrderedMap κ ν) (k : κ)
    (v : ν) : m.keys ⊆ (m.insert k v).keys := by
  intro k' hk'
  obtain ⟨v', hv'⟩ := OrderedMap.mem_keys_iff.mp hk'
  by_cases hk : k' = k
  · exact OrderedMap.mem_keys_iff.mpr ⟨v, by rw [OrderedMap.get?_insert, if_pos hk]⟩
  · exact OrderedMap.mem_keys_iff.mpr ⟨v', by rw [OrderedMap.get?_insert, if_neg hk, hv']⟩

namespace ViewsResolved

variable {tables : OrderedMap String Table}

/-- A view may take a name that is used. -/
theorem insert (h : ViewsResolved tables) {name : String} {q : Query} {t : Table}
    (ht : View.resolve name q tables = .ok t) : ViewsResolved (tables.insert name t) := by
  intro other found q' hfound hdefinition
  rw [OrderedMap.get?_insert] at hfound
  split at hfound
  · rename_i hsame
    obtain rfl := Option.some.inj hfound
    obtain rfl := Option.some.inj ((View.definition?_of_resolve ht).symm.trans hdefinition)
    exact ⟨tables, tables.keys_subset_insert name t, hsame ▸ ht⟩
  · obtain ⟨before, hkeys, hresolve⟩ := h other found q' hfound hdefinition
    exact ⟨before, List.Subset.trans hkeys (tables.keys_subset_insert name t), hresolve⟩

theorem resolveViews {views : List (String × Query)} (h : ViewsResolved tables) :
    ViewsResolved (SchemaDraft.resolveViews tables views).1 := by
  induction views generalizing tables with
  | nil => exact h
  | cons v rest ih =>
    unfold SchemaDraft.resolveViews
    split
    · rename_i t ht
      exact ih (h.insert ht)
    · exact ih h

end ViewsResolved

namespace SchemaDraft

theorem viewsResolved_of_build {calls : List SchemaCall} {schema : Schema}
    (h : (ofCalls calls).build = .ok schema) : ViewsResolved schema.tables := by
  rw [tables_of_build h]
  refine ViewsResolved.resolveViews fun name t q ht hdefinition => ?_
  rw [(hasBaseTables_ofCalls calls).base ht] at hdefinition
  cases hdefinition

/-- In a schema that was built, the definition of a view of one selector is valid exactly if it
still lists columns of its source, and its constraint and orderings are in order. It does list
columns of its source if no name was used twice. -/
theorem valid_definition_iff {calls : List SchemaCall} {schema : Schema}
    (h : (ofCalls calls).build = .ok schema) {view : String} {t : Table}
    (ht : schema.table? view = some t) {q : Query} (hdefinition : t.definition? = some q)
    {s : Selector} (hs : q.source = .selector s) :
    ∃ source, schema.table? s.table = some source
      ∧ ((∃ r, (ValidationRules.mk schema true).resolve q = .ok r)
        ↔ q.ListsColumnsOf source
          ∧ (∀ ref ∈ q.innerReferences, ref.Resolves ⟨schema, true⟩ [s])
          ∧ ∀ part ∈ q.conditions, part.IsSound ⟨schema, true⟩ [s])
      ∧ ((ofCalls calls).names.Nodup → q.ListsColumnsOf source) := by
  obtain ⟨before, hkeys, hresolve⟩ := viewsResolved_of_build h view t q ht hdefinition
  obtain ⟨old, hold, -, hmeant⟩ := View.listsColumnsOf_of_resolve hresolve hs
  obtain ⟨source, hsource⟩ : ∃ source, schema.table? s.table = some source :=
    OrderedMap.mem_keys_iff.mp (hkeys (OrderedMap.mem_keys_iff.mpr ⟨old, hold⟩))
  refine ⟨source, hsource, ?_, fun hnames => ?_⟩
  · rw [ValidationRules.resolve_of_selector_iff hs, and_iff_right ⟨source, hsource⟩,
      Query.references_eq, List.forall_mem_append,
      ValidationRules.columnReferences_resolve_iff rfl hsource hmeant,
      and_comm (b := q.ListsColumnsOf source), and_assoc]
  · have hcurrent := viewsCurrent_of_build h hnames view t q ht hdefinition
    obtain ⟨source', hsource', hlists, -⟩ := View.listsColumnsOf_of_resolve hcurrent hs
    obtain rfl := Option.some.inj (hsource'.symm.trans hsource)
    exact hlists

/-! ## Documents with a value -/

/-- The titles of the documents that have a value of the property. -/
def titlesWith (property : String) : Query :=
  { Query.all (.selector ⟨"doc", none⟩) with
    constraint? := some (.hasValue ⟨none, property⟩)
    columns := [⟨none, some "title", none⟩] }

/-- Documents have titles, but no status. -/
def documentCalls : List SchemaCall :=
  [.addTable "doc" ["title"], .addView "titled" (titlesWith "title"),
    .addView "open" (titlesWith "status")]

def documentSchema : Schema :=
  (ofCalls documentCalls).build.toOption.getD Schema.empty

theorem build_documents : (ofCalls documentCalls).build = .ok documentSchema :=
  Outcome.eq_ok_getD (by decide) Schema.empty

/-- The first view is defined by a valid query. -/
theorem valid_definition_titled :
    ∃ r, (ValidationRules.mk documentSchema true).resolve (titlesWith "title") = .ok r := by
  have hview :
      (documentSchema.table? "titled").bind (·.definition?) = some (titlesWith "title") := by
    decide +kernel
  obtain ⟨t, ht, hdefinition⟩ := Option.bind_eq_some_iff.mp hview
  obtain ⟨source, hsource, hvalid, hlists⟩ :=
    valid_definition_iff build_documents ht hdefinition rfl
  have hlists := hlists (by decide +kernel)
  have htitle : ∃ named, source.column? "title" = some named :=
    hlists ⟨none, some "title", none⟩ List.mem_cons_self "title" rfl
  refine hvalid.mpr ⟨hlists, ?_, ?_⟩
  · refine List.forall_mem_singleton.mpr ⟨⟨⟨"doc", none⟩, rfl⟩, fun _ property hproperty => ?_⟩
    obtain rfl := Option.some.inj hproperty
    obtain ⟨named, hnamed⟩ := htitle
    exact ⟨named, ⟨"doc", none⟩, rfl, source, hsource, hnamed⟩
  · exact List.forall_mem_singleton.mpr trivial

/-- The second one is built as well, but not defined by a valid query. -/
theorem not_valid_open :
    ¬∀ calls schema view t q s, (ofCalls calls).build = .ok schema → schema.table? view = some t →
      t.definition? = some q → q.source = .selector s →
      ∃ r, (ValidationRules.mk schema true).resolve q = .ok r := by
  intro hall
  have hview :
      (documentSchema.table? "open").bind (·.definition?) = some (titlesWith "status") := by
    decide +kernel
  obtain ⟨t, ht, hdefinition⟩ := Option.bind_eq_some_iff.mp hview
  obtain ⟨r, hr⟩ := hall _ _ _ _ _ _ build_documents ht hdefinition rfl
  have hrefused : ((ValidationRules.mk documentSchema true).resolve (titlesWith "status")).isOk
      = false := by
    decide +kernel
  rw [hr] at hrefused
  cases hrefused

end SchemaDraft

end ContentSearch
