import ContentSearch.Proofs.Outcome
import ContentSearch.Schema.Draft

/-!
# Columns of resolved views

A view of one table shows columns of this table, under names of its own. A definition may list
properties, the last one of a name counting, and all columns of the table. The columns of the view
are those of the table under the names that the definition gives them exactly if the definition does
not give a name to another column later on.
-/

namespace ContentSearch

/-! ## Entries of maps -/

namespace OrderedMap

variable {κ ν α : Type} [DecidableEq κ]

/-- What is found after insertions was inserted or was there before. -/
theorem mem_of_get?_foldl_insert {key : α → κ} {value : α → ν} {xs : List α} {m : OrderedMap κ ν}
    {k : κ} {v : ν} (h : (xs.foldl (fun m x => m.insert (key x) (value x)) m).get? k = some v) :
    (∃ x ∈ xs, key x = k ∧ value x = v) ∨ m.get? k = some v := by
  induction xs generalizing m with
  | nil => exact Or.inr h
  | cons x rest ih =>
    rcases ih h with ⟨y, hy, hyv⟩ | hm
    · exact Or.inl ⟨y, List.mem_cons_of_mem x hy, hyv⟩
    · rw [get?_insert] at hm
      split at hm
      · rename_i hk
        exact Or.inl ⟨x, List.mem_cons_self, hk.symm, Option.some.inj hm⟩
      · exact Or.inr hm

/-- What is found in a map made of a list stands in the list. -/
theorem mem_of_get?_ofList {es : List (κ × ν)} {k : κ} {v : ν}
    (h : (ofList es).get? k = some v) : (k, v) ∈ es := by
  rcases mem_of_get?_foldl_insert h with ⟨e, he, rfl, rfl⟩ | hempty
  · exact he
  · cases hempty

/-- Values that are inserted under their own keys stand before what was there. -/
theorem get?_foldl_insert_values {key : ν → κ} {es : List (κ × ν)}
    (hkeys : ∀ e ∈ es, key e.2 = e.1) (hdistinct : (es.map Prod.fst).Nodup) (m : OrderedMap κ ν)
    (k : κ) :
    ((es.map Prod.snd).foldl (fun m v => m.insert (key v) v) m).get? k
      = (findEntry k es).or (m.get? k) := by
  induction es generalizing m with
  | nil => rfl
  | cons e rest ih =>
    rw [List.map_cons, List.nodup_cons] at hdistinct
    rw [List.map_cons, List.foldl_cons, ih (fun e' he' => hkeys e' (List.mem_cons_of_mem e he'))
      hdistinct.2, get?_insert, hkeys e List.mem_cons_self, findEntry]
    by_cases hk : k = e.1
    · -- the key comes only once
      have hnone : findEntry k rest = none := by
        rw [Option.eq_none_iff_forall_ne_some]
        intro v hv
        exact hdistinct.1 (hk ▸ List.mem_map.mpr ⟨(k, v), mem_of_findEntry hv, rfl⟩)
      rw [if_pos hk, if_pos hk.symm, hnone, Option.none_or, Option.some_or]
    · rw [if_neg hk, if_neg (Ne.symm hk)]

theorem exists_get?_of_mem_values {m : OrderedMap κ ν} {v : ν} (h : v ∈ m.values) :
    ∃ k, m.get? k = some v := by
  obtain ⟨e, he, rfl⟩ := List.mem_map.mp h
  exact ⟨e.1, get?_eq_some_iff.mpr he⟩

end OrderedMap

/-! ## Columns and their names -/

/-- Columns stand under their own names. -/
def KeyedByName (columns : OrderedMap String Column) : Prop :=
  ∀ x c, columns.get? x = some c → c.name = x

namespace KeyedByName

theorem empty : KeyedByName OrderedMap.empty := fun _ _ h => by cases h

/-- A column is put in under its own name. -/
theorem insert {columns : OrderedMap String Column} (h : KeyedByName columns) (c : Column) :
    KeyedByName (columns.insert c.name c) := by
  intro x c' hget
  rw [OrderedMap.get?_insert] at hget
  split at hget
  · rename_i hx
    rw [← Option.some.inj hget, hx]
  · exact h x c' hget

theorem addAll {columns : OrderedMap String Column} (h : KeyedByName columns)
    (more : List Column) : KeyedByName (View.addAll columns more) := by
  induction more generalizing columns with
  | nil => exact h
  | cons c rest ih => exact ih (h.insert c)

/-- The columns of all sources together stand under their names. -/
theorem allColumns (sources : OrderedMap String Table) : KeyedByName (View.allColumns sources) := by
  intro x c hget
  have hmem := List.mem_mergeSort.mp (OrderedMap.mem_of_get?_ofList hget)
  exact empty.addAll _ x c (OrderedMap.get?_eq_some_iff.mpr hmem)

end KeyedByName

/-- The column is the other one under a name of its own. -/
def Column.IsCopyOf (c source : Column) : Prop :=
  c = { source with name := c.name }

theorem Column.IsCopyOf.refl (c : Column) : c.IsCopyOf c := rfl

theorem Column.IsCopyOf.trans {c₁ c₂ c₃ : Column} (h₁ : c₁.IsCopyOf c₂) (h₂ : c₂.IsCopyOf c₃) :
    c₁.IsCopyOf c₃ := by
  rw [IsCopyOf, h₁, h₂]

/-- Columns that copy one column copy each other. -/
theorem Column.IsCopyOf.of_same {c₁ c₂ c : Column} (h₁ : c₁.IsCopyOf c) (h₂ : c₂.IsCopyOf c) :
    c₁.IsCopyOf c₂ := by
  rw [IsCopyOf, h₁, h₂]

/-- A copy has the type, the operators and the searchability of the column, under a name of its own.
-/
theorem Column.isCopyOf_iff {c c' : Column} :
    c.IsCopyOf c' ↔ c.type = c'.type ∧ c.operators = c'.operators
      ∧ c.searchable = c'.searchable := by
  obtain ⟨name, type, searchable, operators⟩ := c
  obtain ⟨name', type', searchable', operators'⟩ := c'
  simp only [IsCopyOf, mk.injEq, true_and]
  rw [and_comm (a := searchable = searchable')]

/-- Every column of the first table is one of the second table, found there under another name. -/
def Table.Shows (t source : Table) (rename : String → String) : Prop :=
  ∀ x c, t.column? x = some c →
    ∃ c', source.column? (rename x) = some c' ∧ c.IsCopyOf c'

/-- A table shows another one through a renaming if each column is a copy of the one it is renamed
to. -/
theorem Table.shows_iff {t source : Table} {f : String → String} :
    t.Shows source f ↔ ∀ x c, t.column? x = some c → ∃ c', source.column? (f x) = some c'
      ∧ c.type = c'.type ∧ c.operators = c'.operators ∧ c.searchable = c'.searchable := by
  simp only [Shows, Column.isCopyOf_iff]

theorem Table.Shows.refl (t : Table) : t.Shows t id :=
  fun _ c h => ⟨c, h, .refl c⟩

/-- What is shown through two tables is shown through the composed renaming. -/
theorem Table.Shows.trans {t₁ t₂ t₃ : Table} {f g : String → String} (h₁ : t₁.Shows t₂ f)
    (h₂ : t₂.Shows t₃ g) : t₁.Shows t₃ (g ∘ f) := by
  intro x c hc
  obtain ⟨c', hc', hcopy'⟩ := h₁ x c hc
  obtain ⟨c'', hc'', hcopy''⟩ := h₂ (f x) c' hc'
  exact ⟨c'', hc'', hcopy'.trans hcopy''⟩

/-! ## Columns of a definition -/

/-- Whether the column is a property that is called so in the result. -/
def ResultColumn.isNamed (c : ResultColumn) (x : String) : Bool :=
  c.property?.isSome && c.resolvedName == x

/-- A column of the result goes by the name under which it is resolved. -/
theorem ResultColumn.isNamed_resolvedName {c : ResultColumn} {property : String}
    (h : c.property? = some property) : c.isNamed c.resolvedName = true := by
  rw [isNamed, h, beq_self_eq_true]
  rfl

/-- What comes last under a name stands before columns that do not have the name. -/
theorem ResultColumn.find?_isNamed_iff {columns : List ResultColumn} {x : String}
    {c : ResultColumn} :
    columns.reverse.find? (·.isNamed x) = some c
      ↔ c.isNamed x = true ∧ ∃ front back, columns = front ++ c :: back
        ∧ ∀ later ∈ back, later.isNamed x = false := by
  rw [List.find?_eq_some_iff_append]
  refine and_congr_right fun _ => ⟨?_, ?_⟩
  · rintro ⟨back, front, hsplit, hback⟩
    refine ⟨front.reverse, back.reverse, ?_, fun later hlater => ?_⟩
    · rw [← List.reverse_reverse columns, hsplit]
      simp
    · simpa using hback later (List.mem_reverse.mp hlater)
  · rintro ⟨front, back, rfl, hback⟩
    refine ⟨back.reverse, front.reverse, by simp, fun later hlater => ?_⟩
    simp [hback later (List.mem_reverse.mp hlater)]

namespace Query

/-- The property behind a name in the result, the last one of this name. A name that no property
has is kept. -/
def propertyBehind (q : Query) (x : String) : String :=
  ((q.columns.reverse.find? (·.isNamed x)).bind (·.property?)).getD x

/-- Of several columns with one name, the last one tells the property behind it. -/
theorem propertyBehind_of_last {q : Query} {front back : List ResultColumn} {c : ResultColumn}
    (hsplit : q.columns = front ++ c :: back) {property : String}
    (hproperty : c.property? = some property)
    (hback : ∀ later ∈ back, later.isNamed c.resolvedName = false) :
    q.propertyBehind c.resolvedName = property := by
  have hnamed := ResultColumn.isNamed_resolvedName hproperty
  rw [propertyBehind, ResultColumn.find?_isNamed_iff.mpr ⟨hnamed, front, back, hsplit, hback⟩,
    Option.bind_some, hproperty, Option.getD_some]

/-- A name in the result is that of a property, which has a last one, or is kept. -/
theorem propertyBehind_cases (q : Query) (x : String) :
    ((∀ c ∈ q.columns, c.isNamed x = false) ∧ q.propertyBehind x = x)
      ∨ ∃ front c back property, q.columns = front ++ c :: back ∧ c.property? = some property
        ∧ c.resolvedName = x ∧ (∀ later ∈ back, later.isNamed x = false)
        ∧ q.propertyBehind x = property := by
  cases hlast : q.columns.reverse.find? (·.isNamed x) with
  | none =>
    refine Or.inl ⟨fun c hc => ?_, by rw [propertyBehind, hlast]; rfl⟩
    simpa using List.find?_eq_none.mp hlast c (List.mem_reverse.mpr hc)
  | some c =>
    obtain ⟨hnamed, front, back, hsplit, hback⟩ := ResultColumn.find?_isNamed_iff.mp hlast
    rw [ResultColumn.isNamed, Bool.and_eq_true, beq_iff_eq, Option.isSome_iff_exists] at hnamed
    obtain ⟨⟨property, hproperty⟩, rfl⟩ := hnamed
    exact Or.inr ⟨front, c, back, property, hsplit, hproperty, rfl, hback,
      propertyBehind_of_last hsplit hproperty hback⟩

/-- A column of the definition comes last under its name, but all columns of the source come after
it, and one of them has the name, too. -/
structure Overridden (q : Query) (source : Table) (c : ResultColumn) (own : Column) : Prop where
  last : ∃ front back, q.columns = front ++ c :: back
    ∧ (∀ later ∈ back, later.isNamed c.resolvedName = false)
    ∧ ∃ all ∈ back, all.property? = none
  own : source.column? c.resolvedName = some own

/-- No column is overridden by a column of another kind. -/
def KeepsColumns (q : Query) (source : Table) : Prop :=
  ∀ c property own, c.property? = some property → q.Overridden source c own →
    ∃ named, source.column? property = some named ∧ own.IsCopyOf named

/-! ## Definitions that rename columns -/

/-- The property behind a name in the result. A query without columns shows all under their
names. -/
def sourceColumn (q : Query) (x : String) : String :=
  ((q.columns.find? fun c => c.resolvedName == x).bind (·.property?)).getD x

/-- All columns of the query are properties, with different names in the result. -/
structure Renames (q : Query) : Prop where
  explicit : ∀ c ∈ q.columns, ∃ property, c.property? = some property
  distinct : (q.columns.map (·.resolvedName)).Nodup

/-- The column of a name is the only one of this name. -/
theorem Renames.find?_eq {q : Query} (h : q.Renames) {c : ResultColumn} (hc : c ∈ q.columns) :
    q.columns.find? (fun c' => c'.resolvedName == c.resolvedName) = some c := by
  obtain ⟨before, after, hsplit⟩ := List.append_of_mem hc
  have hdistinct := h.distinct
  rw [hsplit, List.map_append, List.map_cons, List.nodup_append] at hdistinct
  rw [hsplit, List.find?_append, List.find?_eq_none.mpr, Option.none_or, List.find?_cons_of_pos]
  · exact beq_self_eq_true _
  · intro c' hc' hname
    exact hdistinct.2.2 _ (List.mem_map_of_mem hc') _ List.mem_cons_self (beq_iff_eq.mp hname)

/-- With different names, the first column of a name is the last one. -/
theorem Renames.propertyBehind_eq {q : Query} (h : q.Renames) (x : String) :
    q.propertyBehind x = q.sourceColumn x := by
  rw [propertyBehind, sourceColumn]
  cases hlast : q.columns.reverse.find? (·.isNamed x) with
  | some c =>
    have hnamed := (ResultColumn.find?_isNamed_iff.mp hlast).1
    rw [ResultColumn.isNamed, Bool.and_eq_true, beq_iff_eq] at hnamed
    rw [← hnamed.2, h.find?_eq (List.mem_reverse.mp (List.mem_of_find?_eq_some hlast))]
  | none =>
    rw [List.find?_eq_none.mpr]
    intro c hc hname
    obtain ⟨property, hproperty⟩ := h.explicit c hc
    refine List.find?_eq_none.mp hlast c (List.mem_reverse.mpr hc) ?_
    rw [← beq_iff_eq.mp hname]
    exact ResultColumn.isNamed_resolvedName hproperty

/-- A definition that lists all columns of the source before its properties keeps its columns. -/
theorem keepsColumns_of_pairwise {q : Query}
    (h : q.columns.Pairwise fun c later => c.property?.isSome → later.property?.isSome)
    (source : Table) : q.KeepsColumns source := by
  rintro c property own hproperty ⟨⟨front, back, hsplit, -, all, hall, hnone⟩, -⟩
  rw [hsplit, List.pairwise_append, List.pairwise_cons] at h
  have hsome := h.2.1.1 all hall (by rw [hproperty]; rfl)
  rw [hnone] at hsome
  cases hsome

/-- A query that only renames keeps the columns of its source. -/
theorem Renames.keepsColumns {q : Query} (h : q.Renames) (source : Table) :
    q.KeepsColumns source := by
  refine keepsColumns_of_pairwise (List.pairwise_of_forall_mem_list fun _ _ later hlater _ => ?_)
    source
  exact Option.isSome_iff_exists.mpr (h.explicit later hlater)

end Query

/-- The columns of a table are those that the columns of a definition leave of the source. -/
structure Table.Records (t : Table) (q : Query) (source : Table) : Prop where
  others : ∀ {x c}, (∀ later ∈ q.columns, later.isNamed x = false) → t.column? x = some c →
    source.column? x = some c
  last : ∀ {front c back property}, q.columns = front ++ c :: back → c.property? = some property →
    (∀ later ∈ back, later.isNamed c.resolvedName = false) →
    t.column? c.resolvedName
      = if back.any (·.property?.isNone) then
          (source.column? c.resolvedName).or
            ((source.column? property).map ({ · with name := c.resolvedName }))
        else (source.column? property).map ({ · with name := c.resolvedName })
  found : ∀ {c}, c ∈ q.columns → ∀ {property}, c.property? = some property →
    ∃ named, source.column? property = some named

/-! ## Resolved views -/

namespace View

variable {view : String} {q : Query} {tables : OrderedMap String Table} {t : Table}

/-- A view of one selector has the table of the selector as its only source. -/
theorem sources_eq_ok {s : Selector} {found : OrderedMap String Table}
    (h : sources view tables [s] = .ok found) :
    ∃ t, tables.get? s.table = some t ∧ found = OrderedMap.empty.insert s.name t := by
  rw [sources, List.foldlM_cons] at h
  cases ht : tables.get? s.table with
  | none =>
    rw [ht] at h
    cases h
  | some t =>
    rw [ht] at h
    exact ⟨t, rfl, (Except.ok.inj h).symm⟩

/-- With a single source, a column can only come from there. -/
theorem sourceOf_eq_ok {name : String} {source found : Table} {c : ResultColumn}
    (h : sourceOf view (OrderedMap.empty.insert name source) c = .ok found) : found = source := by
  unfold sourceOf at h
  split at h
  · split at h
    · rename_i hget
      obtain rfl := Except.ok.inj h
      rw [OrderedMap.get?_insert] at hget
      split at hget
      · exact (Option.some.inj hget).symm
      · cases hget
    · cases h
  · exact (Except.ok.inj h).symm

/-- A column of a definition adds all columns of its table, or one of them under the name in the
result. -/
theorem addColumn_eq_ok {sources : OrderedMap String Table}
    {into columns : OrderedMap String Column} {c : ResultColumn}
    (h : addColumn view sources into c = .ok columns) :
    ∃ source, sourceOf view sources c = .ok source
      ∧ ((c.property? = none ∧ columns = addAll into source.columns.values)
        ∨ ∃ property named, c.property? = some property ∧ source.column? property = some named
          ∧ columns = into.insert c.resolvedName { named with name := c.resolvedName }) := by
  unfold addColumn at h
  obtain ⟨source, hsource, hadded⟩ := Outcome.bind_eq_ok h
  refine ⟨source, hsource, ?_⟩
  split at hadded
  · rename_i hnone
    exact Or.inl ⟨hnone, (Except.ok.inj hadded).symm⟩
  · rename_i property hproperty
    split at hadded
    · rename_i named hnamed
      exact Or.inr ⟨property, named, hproperty, hnamed, (Except.ok.inj hadded).symm⟩
    · cases hadded

/-- Columns of views stand under the names they are given in the view. -/
theorem keyedByName_addColumn {sources : OrderedMap String Table}
    {into columns : OrderedMap String Column} {c : ResultColumn}
    (h : addColumn view sources into c = .ok columns) (hinto : KeyedByName into) :
    KeyedByName columns := by
  obtain ⟨source, -, ⟨-, rfl⟩ | ⟨property, named, -, -, rfl⟩⟩ := addColumn_eq_ok h
  · exact hinto.addAll _
  · exact hinto.insert { named with name := c.resolvedName }

theorem keyedByName_foldlM {sources : OrderedMap String Table} {columns : List ResultColumn}
    {into out : OrderedMap String Column}
    (h : columns.foldlM (addColumn view sources) into = .ok out) (hinto : KeyedByName into) :
    KeyedByName out := by
  induction columns generalizing into with
  | nil =>
    obtain rfl := Except.ok.inj h
    exact hinto
  | cons c rest ih =>
    rw [List.foldlM_cons] at h
    obtain ⟨next, hnext, h⟩ := Outcome.bind_eq_ok h
    exact ih h (keyedByName_addColumn hnext hinto)

/-- What is under a name after a column of a definition over one source. -/
def columnAfter (source : Table) (x : String) (before : Option Column) (c : ResultColumn) :
    Option Column :=
  match c.property? with
  | none => (source.column? x).or before
  | some property =>
    if c.resolvedName = x then (source.column? property).map ({ · with name := x }) else before

/-- Adding a column changes what is found under its name, and nothing else. -/
theorem get?_addColumn {name : String} {source : Table} (hkeyed : KeyedByName source.columns)
    {into columns : OrderedMap String Column} {c : ResultColumn}
    (h : addColumn view (OrderedMap.empty.insert name source) into c = .ok columns) (x : String) :
    columns.get? x = columnAfter source x (into.get? x) c := by
  obtain ⟨found, hfound, hadded⟩ := addColumn_eq_ok h
  obtain rfl := sourceOf_eq_ok hfound
  rcases hadded with ⟨hnone, rfl⟩ | ⟨property, named, hproperty, hnamed, rfl⟩
  · simp only [columnAfter, hnone]
    refine OrderedMap.get?_foldl_insert_values (fun e he => ?_) found.columns.nodup into x
    exact hkeyed e.1 e.2 (OrderedMap.get?_eq_some_iff.mpr he)
  · simp only [columnAfter, hproperty, hnamed, Option.map_some, OrderedMap.get?_insert]
    by_cases hx : c.resolvedName = x
    · rw [if_pos hx, if_pos hx.symm, hx]
    · rw [if_neg hx, if_neg (Ne.symm hx)]

/-- What is found under a name once all columns are added depends on the source alone. -/
theorem get?_foldlM_addColumn {name : String} {source : Table}
    (hkeyed : KeyedByName source.columns) {columns : List ResultColumn}
    {into out : OrderedMap String Column}
    (h : columns.foldlM (addColumn view (OrderedMap.empty.insert name source)) into = .ok out)
    (x : String) : out.get? x = columns.foldl (columnAfter source x) (into.get? x) := by
  induction columns generalizing into with
  | nil =>
    obtain rfl := Except.ok.inj h
    rfl
  | cons c rest ih =>
    rw [List.foldlM_cons] at h
    obtain ⟨next, hnext, h⟩ := Outcome.bind_eq_ok h
    rw [ih h, get?_addColumn hkeyed hnext, List.foldl_cons]

/-- Every column of a definition has been added. -/
theorem exists_addColumn_of_foldlM {sources : OrderedMap String Table}
    {columns : List ResultColumn} {into out : OrderedMap String Column}
    (h : columns.foldlM (addColumn view sources) into = .ok out) {c : ResultColumn}
    (hc : c ∈ columns) : ∃ before after, addColumn view sources before c = .ok after := by
  induction columns generalizing into with
  | nil => exact absurd hc List.not_mem_nil
  | cons first rest ih =>
    rw [List.foldlM_cons] at h
    obtain ⟨next, hnext, h⟩ := Outcome.bind_eq_ok h
    rcases List.mem_cons.mp hc with rfl | hc
    · exact ⟨into, next, hnext⟩
    · exact ih h hc

/-- Every property of a definition is a column of the source. -/
theorem exists_column_of_foldlM {name : String} {source : Table} {columns : List ResultColumn}
    {into out : OrderedMap String Column}
    (h : columns.foldlM (addColumn view (OrderedMap.empty.insert name source)) into = .ok out)
    {c : ResultColumn} (hc : c ∈ columns) {property : String}
    (hproperty : c.property? = some property) : ∃ named, source.column? property = some named := by
  obtain ⟨before, after, hadd⟩ := exists_addColumn_of_foldlM h hc
  obtain ⟨found, hfound, hadded⟩ := addColumn_eq_ok hadd
  obtain rfl := sourceOf_eq_ok hfound
  rcases hadded with ⟨hnone, -⟩ | ⟨property', named, hproperty', hnamed, -⟩
  · rw [hproperty] at hnone
    cases hnone
  · rw [hproperty] at hproperty'
    obtain rfl := Option.some.inj hproperty'
    exact ⟨named, hnamed⟩

/-- Columns of other names bring what the source has under the name, if any of them stands for all
columns. -/
theorem foldl_columnAfter_of_others {source : Table} {x : String} {back : List ResultColumn}
    (h : ∀ c ∈ back, c.isNamed x = false) (before : Option Column) :
    back.foldl (columnAfter source x) before
      = if back.any (·.property?.isNone) then (source.column? x).or before else before := by
  induction back generalizing before with
  | nil => rfl
  | cons c rest ih =>
    rw [List.foldl_cons, ih fun c' hc' => h c' (List.mem_cons_of_mem c hc')]
    have hc := h c List.mem_cons_self
    cases hproperty : c.property? with
    | none => cases hx : source.column? x <;> simp [columnAfter, hproperty, hx]
    | some property =>
      have hname : c.resolvedName ≠ x := by
        rintro rfl
        rw [ResultColumn.isNamed_resolvedName hproperty] at hc
        cases hc
      simp [columnAfter, hproperty, hname]

/-- A resolved view keeps the query it was resolved from. -/
theorem definition?_of_resolve (h : resolve view q tables = .ok t) : t.definition? = some q := by
  unfold resolve at h
  obtain ⟨found, -, h⟩ := Outcome.bind_eq_ok h
  split at h
  · obtain rfl := Except.ok.inj h
    rfl
  · obtain ⟨columns, -, rfl⟩ := Outcome.bind_ok_eq_ok h
    rfl

/-- The columns of a resolved view stand under their names. -/
theorem keyedByName_of_resolve (h : resolve view q tables = .ok t) : KeyedByName t.columns := by
  unfold resolve at h
  obtain ⟨found, -, h⟩ := Outcome.bind_eq_ok h
  split at h
  · obtain rfl := Except.ok.inj h
    exact KeyedByName.allColumns found
  · obtain ⟨columns, hcolumns, rfl⟩ := Outcome.bind_ok_eq_ok h
    exact keyedByName_foldlM hcolumns KeyedByName.empty

/-- The columns of a view of one selector are those that its definition leaves. -/
theorem records_of_resolve (h : resolve view q tables = .ok t) {s : Selector}
    (hsource : q.source = .selector s) :
    ∃ source, tables.get? s.table = some source
      ∧ (KeyedByName source.columns → t.Records q source) := by
  unfold resolve at h
  obtain ⟨found, hfound, h⟩ := Outcome.bind_eq_ok h
  rw [hsource] at hfound
  obtain ⟨source, hget, rfl⟩ := sources_eq_ok hfound
  refine ⟨source, hget, fun hkeyed => ?_⟩
  split at h
  · -- without columns, the view has all of them under their names
    rename_i hempty
    have hnil := List.isEmpty_iff.mp hempty
    obtain rfl := Except.ok.inj h
    refine ⟨fun {x c} _ hc => ?_, fun hsplit _ _ => ?_, fun hc _ => ?_⟩
    · have hmem := List.mem_mergeSort.mp (OrderedMap.mem_of_get?_ofList hc)
      have hfold := OrderedMap.get?_eq_some_iff.mpr hmem
      rcases OrderedMap.mem_of_get?_foldl_insert hfold with ⟨c', hc', rfl, rfl⟩ | hnone
      · have hsingle : (OrderedMap.empty.insert s.name source).values = [source] := rfl
        rw [hsingle, List.flatMap_singleton] at hc'
        obtain ⟨key, hkey⟩ := OrderedMap.exists_get?_of_mem_values hc'
        rwa [hkeyed key c' hkey]
      · cases hnone
    · simp [hnil] at hsplit
    · rw [hnil] at hc
      exact absurd hc List.not_mem_nil
  · obtain ⟨columns, hcolumns, rfl⟩ := Outcome.bind_ok_eq_ok h
    have hfold := get?_foldlM_addColumn hkeyed hcolumns
    refine ⟨fun {x c} hothers hc => ?_, fun {front c back property} hsplit hproperty hback => ?_,
      fun hc => exists_column_of_foldlM hcolumns hc⟩
    · have hc : columns.get? x = some c := hc
      rw [hfold, foldl_columnAfter_of_others hothers, OrderedMap.get?_empty, Option.or_none] at hc
      split at hc
      · exact hc
      · cases hc
    · have hlast : ∀ before, columnAfter source c.resolvedName before c
          = (source.column? property).map ({ · with name := c.resolvedName }) := by
        intro before
        simp only [columnAfter, hproperty, if_true]
      show columns.get? c.resolvedName = _
      rw [hfold, hsplit, List.foldl_append, List.foldl_cons, foldl_columnAfter_of_others hback,
        hlast]

end View

namespace Table.Records

variable {t source : Table} {q : Query}

/-- Every column has a property of the source behind it. -/
theorem exists_column_behind (h : t.Records q source) {x : String} {c : Column}
    (hc : t.column? x = some c) : ∃ named, source.column? (q.propertyBehind x) = some named := by
  rcases q.propertyBehind_cases x with ⟨hothers, hbehind⟩ |
    ⟨front, last, back, property, hsplit, hproperty, -, -, hbehind⟩
  · rw [hbehind]
    exact ⟨c, h.others hothers hc⟩
  · rw [hbehind]
    refine h.found ?_ hproperty
    rw [hsplit]
    exact List.mem_append_right front List.mem_cons_self

/-- The columns are the properties behind them, if and only if the definition keeps its columns. -/
theorem shows_iff_keepsColumns (h : t.Records q source) :
    t.Shows source q.propertyBehind ↔ q.KeepsColumns source := by
  constructor
  · rintro hshows c property own hproperty ⟨⟨front, back, hsplit, hback, all, hmem, hnone⟩, hown⟩
    have hstar : back.any (·.property?.isNone) = true :=
      List.any_eq_true.mpr ⟨all, hmem, by rw [hnone]; rfl⟩
    have hc : t.column? c.resolvedName = some own := by
      rw [h.last hsplit hproperty hback, if_pos hstar, hown, Option.some_or]
    rw [← Query.propertyBehind_of_last hsplit hproperty hback]
    exact hshows _ own hc
  · intro hkeeps x c hc
    rcases q.propertyBehind_cases x with ⟨hothers, hbehind⟩ |
      ⟨front, last, back, property, hsplit, hproperty, rfl, hback, hbehind⟩
    · rw [hbehind]
      exact ⟨c, h.others hothers hc, .refl c⟩
    · rw [h.last hsplit hproperty hback] at hc
      rw [hbehind]
      by_cases hover : back.any (·.property?.isNone) = true
          ∧ ∃ own, source.column? last.resolvedName = some own
      · -- the column of the source has taken the name
        obtain ⟨hstar, own, hown⟩ := hover
        rw [if_pos hstar, hown, Option.some_or] at hc
        obtain rfl := Option.some.inj hc
        obtain ⟨all, hmem, hnone⟩ := List.any_eq_true.mp hstar
        have hnone := Option.isNone_iff_eq_none.mp hnone
        exact hkeeps last property own hproperty
          ⟨⟨front, back, hsplit, hback, all, hmem, hnone⟩, hown⟩
      · -- the property has kept its name
        have hkept : (source.column? property).map ({ · with name := last.resolvedName })
            = some c := by
          rw [← hc]
          split
          · rename_i hstar
            cases hown : source.column? last.resolvedName with
            | none => rw [Option.none_or]
            | some own => exact absurd ⟨hstar, own, hown⟩ hover
          · rfl
        obtain ⟨named, hnamed, rfl⟩ := Option.map_eq_some_iff.mp hkept
        exact ⟨named, hnamed, rfl⟩

end Table.Records

/-- A view of one selector whose definition renames columns shows the columns of the table of the
selector, by the names in its definition. -/
theorem View.shows_of_resolve {view : String} {q : Query} {tables : OrderedMap String Table}
    {t : Table} (h : resolve view q tables = .ok t) {s : Selector}
    (hsource : q.source = .selector s) :
    ∃ source, tables.get? s.table = some source
      ∧ (KeyedByName source.columns → q.Renames → t.Shows source q.sourceColumn) := by
  obtain ⟨source, hget, hrecords⟩ := records_of_resolve h hsource
  refine ⟨source, hget, fun hkeyed hrenames => ?_⟩
  rw [← funext hrenames.propertyBehind_eq, (hrecords hkeyed).shows_iff_keepsColumns]
  exact hrenames.keepsColumns source

end ContentSearch
