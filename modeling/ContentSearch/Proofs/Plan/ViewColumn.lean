import ContentSearch.Proofs.Plan.View

/-!
# Columns of views and their properties

A column of a view is known twice: the schema has its type, its operators and whether it can be
searched, and plans have the property of the base table that stands for it. The main statement says
for which chains of views the two agree.
-/

namespace ContentSearch

/-! ## Chains of views -/

/-- A table stands upon a base table, on top of the listed views of one selector, the outermost
first. -/
inductive Schema.StandsUpon (schema : Schema) : String → List String → String → Prop
  | base {name : String} {t : Table} (ht : schema.table? name = some t)
      (hbase : t.definition? = none) : StandsUpon schema name [] name
  | view {name base : String} {t : Table} {q : Query} {s : Selector} {views : List String}
      (ht : schema.table? name = some t) (hdefinition : t.definition? = some q)
      (hsource : q.source = .selector s) (below : StandsUpon schema s.table views base) :
      StandsUpon schema name (name :: views) base

/-- The view is what its definition gives with the tables of the schema. -/
def Schema.IsCurrent (schema : Schema) (view : String) : Prop :=
  ∀ t q, schema.table? view = some t → t.definition? = some q →
    View.resolve view q schema.tables = .ok t

/-- The definition of the view lets no column of its source take the name of a column of another
kind. -/
def Schema.KeepsColumns (schema : Schema) (view : String) : Prop :=
  ∀ t q s source, schema.table? view = some t → t.definition? = some q → q.source = .selector s →
    schema.table? s.table = some source → q.KeepsColumns source

/-- However a selector of the table is taken back to its base table, every column of the table has
the type and the operators of the column that plans use for it, and can be searched if that one
can. -/
def PlanRules.AgreesOn (rules : PlanRules) (table base : String) : Prop :=
  ∀ t tb levels name found, rules.schema.table? table = some t →
    rules.schema.table? base = some tb →
    Plan.expandSelector rules levels name table = .ok found →
    found.indexTable = base ∧ ∀ x c, t.column? x = some c →
      ∃ c', tb.column? (found.physicalProperty x) = some c' ∧ c.type = c'.type
        ∧ c.operators = c'.operators ∧ c.searchable = c'.searchable

/-- In a schema that a draft builds without using a name twice, all views are current. -/
theorem Schema.isCurrent_of_build {calls : List SchemaCall} {schema : Schema}
    (h : (SchemaDraft.ofCalls calls).build = .ok schema)
    (hnames : (SchemaDraft.ofCalls calls).names.Nodup) (view : String) : schema.IsCurrent view :=
  SchemaDraft.viewsCurrent_of_build h hnames view

/-! ## One view -/

theorem Schema.keepsColumns_iff {schema : Schema} {view : String} {t source : Table} {q : Query}
    {s : Selector} (ht : schema.table? view = some t) (hdefinition : t.definition? = some q)
    (hsource : q.source = .selector s) (hs : schema.table? s.table = some source) :
    schema.KeepsColumns view ↔ q.KeepsColumns source := by
  refine ⟨fun h => h t q s source ht hdefinition hsource hs, ?_⟩
  intro h t' q' s' source' ht' hdefinition' hsource' hs'
  obtain rfl := Option.some.inj (ht.symm.trans ht')
  obtain rfl := Option.some.inj (hdefinition.symm.trans hdefinition')
  obtain rfl := Source.selector.inj (hsource.symm.trans hsource')
  obtain rfl := Option.some.inj (hs.symm.trans hs')
  exact h

/-- What a column of a view is in the base table depends on what the property behind it is there. -/
theorem Plan.expandSelector_view {rules : PlanRules} {levels : Nat} {name view : String} {t : Table}
    {q : Query} {s : Selector} {found : PlanSelector} (ht : rules.schema.table? view = some t)
    (hdefinition : t.definition? = some q) (hsource : q.source = .selector s)
    (h : expandSelector rules levels name view = .ok found) :
    ∃ below source, expandSelector rules below s.name s.table = .ok source
      ∧ found.indexTable = source.indexTable
      ∧ ∀ x, found.physicalProperty x = source.physicalProperty (q.propertyBehind x) := by
  obtain ⟨below, plan, hplan, hview⟩ := expandSelector_of_view ht hdefinition hsource h
  obtain ⟨-, source, -, -, hexpand, -, hselectors, -⟩ := ofQueryWith_of_selector hsource hplan
  simp only [viewSelector, hselectors] at hview
  obtain rfl := Except.ok.inj hview
  exact ⟨below, source, hexpand, rfl, getD_viewPropertyNames source q⟩

section
variable {rules : PlanRules}

theorem PlanRules.agreesOn_base {table : String} {t : Table}
    (ht : rules.schema.table? table = some t) (hbase : t.definition? = none) :
    rules.AgreesOn table table := by
  intro t₁ t₂ levels name found ht₁ ht₂ hfound
  obtain rfl := Option.some.inj (ht₁.symm.trans ht₂)
  rw [Plan.expandSelector_of_base ht hbase] at hfound
  obtain rfl := Except.ok.inj hfound
  exact ⟨rfl, Table.shows_iff.mp (.refl t₁)⟩

/-- A view whose source agrees with the base table agrees with it, too, if and only if the
definition of the view keeps its columns. -/
theorem PlanRules.agreesOn_view_iff
    (hkeyed : ∀ {name t}, rules.schema.table? name = some t → KeyedByName t.columns)
    {base view : String} {tb t : Table} {q : Query} {s : Selector}
    (htb : rules.schema.table? base = some tb) (ht : rules.schema.table? view = some t)
    (hdefinition : t.definition? = some q) (hsource : q.source = .selector s)
    (hcurrent : rules.schema.IsCurrent view) (hbelow : rules.AgreesOn s.table base)
    {levels : Nat} {name : String} {found : PlanSelector}
    (hfound : Plan.expandSelector rules levels name view = .ok found) :
    rules.AgreesOn view base ↔ rules.schema.KeepsColumns view := by
  obtain ⟨source, hs, hrecords⟩ :=
    View.records_of_resolve (hcurrent t q ht hdefinition) hsource
  have hs : rules.schema.table? s.table = some source := hs
  have hrecords := hrecords (hkeyed hs)
  rw [Schema.keepsColumns_iff ht hdefinition hsource hs, ← hrecords.shows_iff_keepsColumns]
  constructor
  · intro hagrees x c hc
    obtain ⟨below, inner, hinner, -, hphysical⟩ :=
      Plan.expandSelector_view ht hdefinition hsource hfound
    -- the column and the property behind it are the same column of the base table
    obtain ⟨-, houter⟩ := hagrees t tb levels name found ht htb hfound
    obtain ⟨-, hbase⟩ := hbelow source tb below s.name inner hs htb hinner
    obtain ⟨named, hnamed⟩ := hrecords.exists_column_behind hc
    obtain ⟨c₁, hc₁, hcopy₁⟩ := Table.shows_iff.mpr houter x c hc
    obtain ⟨c₂, hc₂, hcopy₂⟩ := Table.shows_iff.mpr hbase _ named hnamed
    rw [hphysical, hc₂] at hc₁
    obtain rfl := Option.some.inj hc₁
    exact ⟨named, hnamed, hcopy₁.of_same hcopy₂⟩
  · intro hshows t' tb' levels' name' found' ht' htb' hfound'
    obtain rfl := Option.some.inj (ht.symm.trans ht')
    obtain rfl := Option.some.inj (htb.symm.trans htb')
    obtain ⟨below, inner, hinner, hindex, hphysical⟩ :=
      Plan.expandSelector_view ht hdefinition hsource hfound'
    obtain ⟨hinnerIndex, hbase⟩ := hbelow source tb below s.name inner hs htb hinner
    refine ⟨hindex.trans hinnerIndex, Table.shows_iff.mp ?_⟩
    rw [funext hphysical]
    exact hshows.trans (Table.shows_iff.mpr hbase)

/-! ## Chains -/

namespace Schema.StandsUpon

theorem base_table {schema : Schema} {table base : String} {views : List String}
    (h : schema.StandsUpon table views base) :
    ∃ tb, schema.table? base = some tb ∧ tb.definition? = none := by
  induction h with
  | base ht hbase => exact ⟨_, ht, hbase⟩
  | view _ _ _ _ ih => exact ih

/-- The table of a chain agrees with the base table if all views of the chain do. -/
theorem agreesOn {table base : String} {views : List String}
    (h : rules.schema.StandsUpon table views base) (hviews : ∀ v ∈ views, rules.AgreesOn v base) :
    rules.AgreesOn table base := by
  cases h with
  | base ht hbase => exact PlanRules.agreesOn_base ht hbase
  | view => exact hviews table List.mem_cons_self

/-- On a chain of views that are current, in a schema that a draft builds: the columns of all views
agree with the columns of the base table that plans use for them, if and only if all definitions
keep their columns. -/
theorem agreesOn_iff {calls : List SchemaCall}
    (hbuild : (SchemaDraft.ofCalls calls).build = .ok rules.schema) {view base : String}
    {views : List String} (h : rules.schema.StandsUpon view views base)
    (hcurrent : ∀ v ∈ views, rules.schema.IsCurrent v) {levels : Nat} {name : String}
    {found : PlanSelector} (hfound : Plan.expandSelector rules levels name view = .ok found) :
    (∀ v ∈ views, rules.AgreesOn v base) ↔ ∀ v ∈ views, rules.schema.KeepsColumns v := by
  have hkeyed : ∀ {name t}, rules.schema.table? name = some t → KeyedByName t.columns :=
    SchemaDraft.keyedByName_of_build hbuild
  obtain ⟨tb, htb, -⟩ := h.base_table
  induction h generalizing levels name found with
  | base => simp only [List.not_mem_nil, false_implies, implies_true]
  | @view view base t q s views ht hdefinition hsource below ih =>
    rw [List.forall_mem_cons] at hcurrent
    obtain ⟨levels', inner, hinner, -⟩ := Plan.expandSelector_view ht hdefinition hsource hfound
    have hrest := ih hcurrent.2 hinner htb
    rw [List.forall_mem_cons, List.forall_mem_cons]
    refine Iff.trans (and_congr_left fun hagrees => ?_) (and_congr_right fun _ => hrest)
    exact PlanRules.agreesOn_view_iff hkeyed htb ht hdefinition hsource hcurrent.1
      (below.agreesOn hagrees) hfound

end Schema.StandsUpon

end

namespace Plan

/-! ## Views of a catalog -/

/-- All columns of a table and then some under other names, or the other way round. -/
def withRenamed (table : String) (renamed : List ResultColumn) (allFirst : Bool) : Query :=
  { Query.all (.selector ⟨table, none⟩) with
    columns := if allFirst then ⟨none, none, none⟩ :: renamed else renamed ++ [⟨none, none, none⟩] }

/-- Books have pages, and a title that can be searched. The sizes are pages, and in the second view
they have the name of the title. The third view lists all columns after it has given that name to
the pages. -/
def catalogCalls : List SchemaCall :=
  [.addTable "book" [], .addColumn "book" (Column.plain "pages" .long),
    .addColumn "book" ⟨"title", .string, true, Operator.all⟩,
    .addView "sizes" (withRenamed "book" [⟨none, some "pages", some "size"⟩] true),
    .addView "swapped" (withRenamed "sizes" [⟨some "sizes", some "size", some "title"⟩,
      ⟨none, some "title", some "pages"⟩] true),
    .addView "mixed" (withRenamed "book" [⟨none, some "pages", some "title"⟩] false)]

def catalogRules : PlanRules where
  schema := (SchemaDraft.ofCalls catalogCalls).build.toOption.getD Schema.empty
  caseSensitive := true
  checksColumns := true
  resolvePath := fun _ => none

theorem build_catalog : (SchemaDraft.ofCalls catalogCalls).build = .ok catalogRules.schema :=
  Outcome.eq_ok_getD (by decide) Schema.empty

/-- The definitions of the first two views. -/
theorem definitions_catalog :
    (catalogRules.schema.table? "sizes").bind (·.definition?)
        = some (withRenamed "book" [⟨none, some "pages", some "size"⟩] true)
      ∧ (catalogRules.schema.table? "swapped").bind (·.definition?)
        = some (withRenamed "sizes" [⟨some "sizes", some "size", some "title"⟩,
          ⟨none, some "title", some "pages"⟩] true) := by
  constructor <;> decide

theorem standsUpon_swapped :
    catalogRules.schema.StandsUpon "swapped" ["swapped", "sizes"] "book" := by
  obtain ⟨hsizes, hswapped⟩ := definitions_catalog
  obtain ⟨sizes, hsizes, hsizesView⟩ := Option.bind_eq_some_iff.mp hsizes
  obtain ⟨swapped, hswapped, hswappedView⟩ := Option.bind_eq_some_iff.mp hswapped
  have hbase : (catalogRules.schema.table? "book").map (·.definition?) = some none := by
    decide
  obtain ⟨book, hbook, hbookBase⟩ := Option.map_eq_some_iff.mp hbase
  exact .view hswapped hswappedView rfl (.view hsizes hsizesView rfl (.base hbook hbookBase))

theorem keepsColumns_catalog :
    ∀ v ∈ ["swapped", "sizes"], catalogRules.schema.KeepsColumns v := by
  obtain ⟨hsizes, hswapped⟩ := definitions_catalog
  intro v hv t q s source ht hdefinition _ _
  have hbind : (catalogRules.schema.table? v).bind (·.definition?) = some q := by
    rw [ht, Option.bind_some, hdefinition]
  simp only [List.mem_cons, List.not_mem_nil, or_false] at hv
  rcases hv with rfl | rfl
  · obtain rfl := Option.some.inj (hswapped.symm.trans hbind)
    exact Query.keepsColumns_of_pairwise (by decide) source
  · obtain rfl := Option.some.inj (hsizes.symm.trans hbind)
    exact Query.keepsColumns_of_pairwise (by decide) source

/-- The title of the second view is pages, and has the type of pages. -/
theorem agreesOn_iff_swapped :
    ∃ found, expandSelector catalogRules maxViewDepth "s" "swapped" = .ok found
      ∧ found.physicalProperty "title" = "pages" ∧ catalogRules.AgreesOn "swapped" "book" := by
  have hmade : (expandSelector catalogRules maxViewDepth "s" "swapped").toOption.map
      (·.physicalProperty "title") = some "pages" := by
    decide +kernel
  obtain ⟨found, hfound, htitle⟩ := Option.map_eq_some_iff.mp hmade
  have hfound := Outcome.toOption_eq_some hfound
  have hcurrent : ∀ v ∈ ["swapped", "sizes"], catalogRules.schema.IsCurrent v := fun v _ =>
    Schema.isCurrent_of_build build_catalog (by decide +kernel) v
  have hagree := standsUpon_swapped.agreesOn_iff build_catalog hcurrent hfound
  exact ⟨found, hfound, htitle, hagree.mpr keepsColumns_catalog "swapped" List.mem_cons_self⟩

/-- The titles of the third view have the type of titles, but plans take the pages for them. -/
theorem not_agreesOn_mixed :
    (SchemaDraft.ofCalls catalogCalls).build = .ok catalogRules.schema
      ∧ (∃ found, expandSelector catalogRules maxViewDepth "mixed" "mixed" = .ok found
        ∧ found.indexTable = "book" ∧ found.physicalProperty "title" = "pages")
      ∧ ((catalogRules.schema.table? "mixed").bind (·.column? "title")).map (·.type)
        = some .string
      ∧ ((catalogRules.schema.table? "book").bind (·.column? "pages")).map (·.type)
        = some .long := by
  have hmade : (expandSelector catalogRules maxViewDepth "mixed" "mixed").toOption.map
      (fun found => (found.indexTable, found.physicalProperty "title"))
        = some ("book", "pages") := by
    decide +kernel
  obtain ⟨found, hfound, hboth⟩ := Option.map_eq_some_iff.mp hmade
  obtain ⟨hindex, hphysical⟩ := Prod.mk.inj hboth
  exact ⟨build_catalog, ⟨found, Outcome.toOption_eq_some hfound, hindex, hphysical⟩,
    by decide +kernel, by decide +kernel⟩

/-! ## A view that is left behind -/

/-- The view that another one stands upon is replaced later. -/
def replacedCalls : List SchemaCall :=
  [.addTable "book" ["title"], .addColumn "book" (Column.plain "pages" .long),
    .addView "shown" (withRenamed "book" [⟨none, some "title", some "x"⟩] true),
    .addView "copy" (withRenamed "shown" [] true),
    .addView "shown" (withRenamed "book" [⟨none, some "pages", some "x"⟩] true)]

def replacedRules : PlanRules :=
  { catalogRules with
    schema := (SchemaDraft.ofCalls replacedCalls).build.toOption.getD Schema.empty }

/-- The upper view still has the type of titles, although plans already take the pages. -/
example :
    ((replacedRules.schema.table? "copy").bind (·.column? "x")).map (·.type) = some .string
      ∧ (expandSelector replacedRules maxViewDepth "copy" "copy").toOption.map
        (·.physicalProperty "x") = some "pages" := by
  decide

end Plan

end ContentSearch
