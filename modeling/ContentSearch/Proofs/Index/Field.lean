import ContentSearch.Proofs.Index.Snapshot
import Mathlib.Data.List.Basic
import Mathlib.Data.List.Nodup

/-!
# Fields are kept apart

The field of a property is named by joining texts. Where table and property are plain names, no
other table and property and no field of another kind has the name, so that the terms in the field
are those of the values of the property alone.
-/

namespace ContentSearch

namespace Field

/-- A name without the characters that fields are put together with. -/
def IsPlain (s : String) : Prop :=
  '.' ∉ s.toList ∧ '$' ∉ s.toList

instance (s : String) : Decidable (IsPlain s) := by
  unfold IsPlain
  infer_instance

theorem toList_property (table property : String) :
    (Field.property table property).toList = table.toList ++ '.' :: property.toList := by
  simp [Field.property]

/-- The built-in fields have no point and no dollar sign in their names. -/
theorem isPlain_of_mem_builtIn {field : String} (h : field ∈ builtIn) : IsPlain field := by
  have hall : ∀ f ∈ builtIn, IsPlain f := by decide
  exact hall field h

/-! ## Fields of properties -/

/-- A table and a property without points share their field with no other table and property. -/
theorem property_inj {table table' property property' : String} (htable : '.' ∉ table.toList)
    (hproperty : '.' ∉ property.toList) :
    Field.property table property = Field.property table' property'
      ↔ table = table' ∧ property = property' := by
  rw [← String.toList_inj, toList_property, toList_property,
    List.append_cons_inj_of_notMem htable hproperty, String.toList_inj, String.toList_inj]
  simp only [true_and]

theorem point_mem_property (table property : String) :
    '.' ∈ (Field.property table property).toList := by
  simp [toList_property]

theorem dollar_notMem_property {table property : String} (htable : IsPlain table)
    (hproperty : IsPlain property) : '$' ∉ (Field.property table property).toList := by
  rw [toList_property, List.mem_append, List.mem_cons]
  rintro (h | h | h)
  · exact htable.2 h
  · cases h
  · exact hproperty.2 h

theorem dollar_mem_length (table property : String) :
    '$' ∈ (Field.length table property).toList := by
  simp [Field.length]

theorem dollar_mem_text (table property : String) :
    '$' ∈ (Field.text table property).toList := by
  simp [Field.text]

theorem dollar_mem_tableText (table : String) : '$' ∈ (Field.tableText table).toList := by
  simp [Field.tableText]

end Field

namespace Entry

/-! ## Terms of an entry -/

/-- The terms in the built-in fields. -/
def builtInTerms (e : Entry) : List (String × List String) :=
  [(Field.id, [e.identifier]), (Field.name, [e.name]), (Field.localName, [e.localName]),
    (Field.ancestor, e.parents), (Field.depth, [Term.ofCount e.depth]), (Field.table, e.tables),
    (Field.parent, e.parent?.toList)]

theorem mem_fieldTerms {e : Entry} {listed : String × List String} :
    listed ∈ e.fieldTerms
      ↔ listed ∈ e.builtInTerms ∨ ∃ table ∈ e.tables, listed ∈ e.tableFields table := by
  show listed ∈ e.builtInTerms ++ e.tables.flatMap e.tableFields ↔ _
  rw [List.mem_append, List.mem_flatMap]

theorem isPlain_of_mem_builtInTerms {e : Entry} {listed : String × List String}
    (h : listed ∈ e.builtInTerms) : Field.IsPlain listed.1 := by
  refine Field.isPlain_of_mem_builtIn ?_
  simp only [builtInTerms, List.mem_cons, List.not_mem_nil, or_false] at h
  rcases h with rfl | rfl | rfl | rfl | rfl | rfl | rfl <;> simp [Field.builtIn]

/-- The fields of a table are those of its properties, and fields with a dollar sign. -/
theorem mem_tableFields {e : Entry} {table : String} {listed : String × List String}
    (h : listed ∈ e.tableFields table) :
    (∃ p ∈ e.properties, listed = (Field.property table p.name, p.content.indexed.terms))
      ∨ '$' ∈ listed.1.toList := by
  simp only [tableFields, propertyFields, List.mem_append, List.mem_flatMap, List.mem_cons,
    List.not_mem_nil, or_false] at h
  rcases h with ⟨p, hp, rfl | rfl | rfl⟩ | rfl
  · exact Or.inl ⟨p, hp, rfl⟩
  · exact Or.inr (Field.dollar_mem_length table p.name)
  · exact Or.inr (Field.dollar_mem_text table p.name)
  · exact Or.inr (Field.dollar_mem_tableText table)

/-- The terms in the field of a property are those of its values, in the tables of the entry. -/
theorem mem_termsIn_property {e : Entry} {table property : String}
    (htable : Field.IsPlain table) (hproperty : Field.IsPlain property) {t : String} :
    t ∈ e.termsIn (Field.property table property)
      ↔ table ∈ e.tables
        ∧ ∃ p ∈ e.properties, p.name = property ∧ t ∈ p.content.indexed.terms := by
  rw [mem_termsIn]
  constructor
  · rintro ⟨ts, hlisted, ht⟩
    rcases mem_fieldTerms.mp hlisted with hbuiltIn | ⟨table', htable', hlisted⟩
    · -- the built-in fields have no point in their names
      exact absurd (Field.point_mem_property table property)
        (isPlain_of_mem_builtInTerms hbuiltIn).1
    · -- the other fields of a table have a dollar sign
      rcases mem_tableFields hlisted with ⟨p, hp, heq⟩ | hdollar
      · obtain ⟨hfield, rfl⟩ := Prod.mk.inj heq
        obtain ⟨rfl, rfl⟩ := (Field.property_inj htable.1 hproperty.1).mp hfield
        exact ⟨htable', p, hp, rfl, ht⟩
      · exact absurd hdollar (Field.dollar_notMem_property htable hproperty)
  · rintro ⟨hmem, p, hp, rfl, ht⟩
    refine ⟨_, mem_fieldTerms.mpr (Or.inr ⟨table, hmem, ?_⟩), ht⟩
    refine List.mem_append_left _ (List.mem_flatMap.mpr ⟨p, hp, ?_⟩)
    exact List.mem_cons_self

/-- A built-in field is listed once. -/
theorem nodup_builtInTerms (e : Entry) : (e.builtInTerms.map (·.1)).Nodup := by
  show [Field.id, Field.name, Field.localName, Field.ancestor, Field.depth, Field.table,
    Field.parent].Nodup
  decide

/-- The terms in a built-in field are those that are listed for it. -/
theorem mem_termsIn_builtIn {e : Entry} {field : String} {ts : List String}
    (h : (field, ts) ∈ e.builtInTerms) {t : String} : t ∈ e.termsIn field ↔ t ∈ ts := by
  have hplain : Field.IsPlain field := isPlain_of_mem_builtInTerms h
  rw [mem_termsIn]
  constructor
  · rintro ⟨ts', hlisted, ht⟩
    rcases mem_fieldTerms.mp hlisted with hbuiltIn | ⟨table', htable', hlisted⟩
    · -- the built-in fields have different names
      have hsame := List.inj_on_of_nodup_map (nodup_builtInTerms e) hbuiltIn h rfl
      rwa [← (Prod.mk.inj hsame).2]
    · rcases mem_tableFields hlisted with ⟨p, hp, heq⟩ | hdollar
      · have hfield : field = Field.property table' p.name := (Prod.mk.inj heq).1
        exact absurd (hfield ▸ Field.point_mem_property table' p.name) hplain.1
      · exact absurd hdollar hplain.2
  · intro ht
    exact ⟨ts, mem_fieldTerms.mpr (Or.inl h), ht⟩

/-- The terms in the field of tables are the tables. -/
theorem mem_termsIn_table {e : Entry} {t : String} :
    t ∈ e.termsIn Field.table ↔ t ∈ e.tables :=
  mem_termsIn_builtIn (by simp [builtInTerms])

theorem mem_termsIn_name {e : Entry} {t : String} : t ∈ e.termsIn Field.name ↔ t = e.name := by
  rw [mem_termsIn_builtIn (by simp [builtInTerms] : (Field.name, [e.name]) ∈ e.builtInTerms),
    List.mem_singleton]

theorem mem_termsIn_localName {e : Entry} {t : String} :
    t ∈ e.termsIn Field.localName ↔ t = e.localName := by
  rw [mem_termsIn_builtIn
    (by simp [builtInTerms] : (Field.localName, [e.localName]) ∈ e.builtInTerms),
    List.mem_singleton]

end Entry

end ContentSearch
