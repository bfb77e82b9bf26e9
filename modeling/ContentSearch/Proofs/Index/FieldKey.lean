import ContentSearch.Proofs.Index.Field

/-!
# Which fields share a name

Next to the built-in fields, there are fields for the values, lengths and words of each property in
each table and for the words of each table, with names that are joined of a table, a property and an
ending. Nothing in a name tells where a part of it ends. The main statement says that no such field
has the name of a built-in one, which of them have a name of their own whatever the tables and
properties are, and that all are different where the parts are plain.
-/

namespace ContentSearch.Field

/-! ## Joined names -/

/-- Joining by points is associative, so that a name does not tell where it was joined. -/
theorem property_assoc (a b c : String) :
    Field.property (Field.property a b) c = Field.property a (Field.property b c) := by
  simp [Field.property, String.append_assoc]

theorem property_ne_left (a b : String) : Field.property a b ≠ a := by
  intro h
  have hlength := congrArg (fun s => s.toList.length) h
  simp [toList_property] at hlength

/-- A name with a point in it is joined of two names. -/
theorem exists_eq_property {s : String} (h : '.' ∈ s.toList) : ∃ a b, s = Field.property a b := by
  obtain ⟨a, b, hs⟩ := List.append_of_mem h
  refine ⟨String.ofList a, String.ofList b, String.toList_inj.mp ?_⟩
  rw [toList_property, String.toList_ofList, String.toList_ofList, hs]

/-- The words of a table named like a property are kept with the words of the property. -/
theorem tableText_property (a b : String) : Field.tableText (Field.property a b) = Field.text a b :=
  rfl

/-- Only the name of the table brings a point into the name of its text field. -/
theorem point_mem_tableText_iff {table : String} :
    '.' ∈ (Field.tableText table).toList ↔ '.' ∈ table.toList := by
  simp [Field.tableText]

/-! ## Kinds of fields -/

/-- What a field of a property is kept for. -/
inductive Kind where
  | values
  | lengths
  | words
  deriving DecidableEq

namespace Kind

/-- The field of a property. -/
def field : Kind → String → String → String
  | values => Field.property
  | lengths => Field.length
  | words => Field.text

/-- What the field of a property ends with. -/
def ending : Kind → String
  | values => ""
  | lengths => "$length"
  | words => "$text"

/-- Every field of a property is named like the values of a property. -/
theorem field_eq (kind : Kind) (table property : String) :
    kind.field table property = Field.property table (property ++ kind.ending) := by
  cases kind <;> simp [field, ending, Field.property, Field.length, Field.text, String.append_assoc]

/-- The endings of derived fields have no points. -/
theorem point_notMem_ending (kind : Kind) : '.' ∉ kind.ending.toList := by
  cases kind <;> decide

theorem ending_inj {kind kind' : Kind} (h : kind.ending = kind'.ending) : kind = kind' := by
  revert h
  cases kind <;> cases kind' <;> decide

/-- A property without a dollar sign stands before its ending. -/
theorem takeWhile_append_ending {property : String} (h : '$' ∉ property.toList) (kind : Kind) :
    (property ++ kind.ending).toList.takeWhile (· != '$') = property.toList := by
  have hending : kind.ending.toList.takeWhile (· != '$') = [] := by
    cases kind <;> decide
  rw [String.toList_append, List.takeWhile_append_of_pos, hending, List.append_nil]
  intro c hc
  exact bne_iff_ne.mpr fun heq => h (heq ▸ hc)

/-- Names without the sign that opens an ending can be told from it. -/
theorem append_ending_inj {property property' : String} {kind kind' : Kind}
    (hproperty : '$' ∉ property.toList) (hproperty' : '$' ∉ property'.toList)
    (h : property ++ kind.ending = property' ++ kind'.ending) :
    property = property' ∧ kind = kind' := by
  have hsame : property = property' := by
    rw [← String.toList_inj, ← takeWhile_append_ending hproperty kind, h,
      takeWhile_append_ending hproperty' kind']
  subst hsame
  exact ⟨rfl, ending_inj ((String.append_right_inj property).mp h)⟩

end Kind

/-- What a field is kept for: something of a property in a table, or the words of all properties of
a table. -/
inductive Key where
  | ofProperty (kind : Kind) (table property : String)
  | ofTable (table : String)
  deriving DecidableEq

namespace Key

/-- The name of the field. -/
def name : Key → String
  | ofProperty kind table property => kind.field table property
  | ofTable table => Field.tableText table

/-- The name of a field of a property: the table, a point, the property and the ending of the kind.
-/
theorem name_ofProperty (kind : Kind) (table property : String) :
    (ofProperty kind table property).name = Field.property table (property ++ kind.ending) :=
  kind.field_eq table property

theorem name_ofTable (table : String) : (ofTable table).name = Field.tableText table :=
  rfl

theorem name_values (table property : String) :
    (ofProperty .values table property).name = Field.property table property :=
  rfl

/-- Names of fields are not plain: they have a point or the sign of an ending. -/
theorem not_isPlain_name (k : Key) : ¬Field.IsPlain k.name := by
  intro hplain
  cases k with
  | ofProperty kind table property =>
    rw [name_ofProperty] at hplain
    exact hplain.1 (point_mem_property table _)
  | ofTable table => exact hplain.2 (dollar_mem_tableText table)

/-- No field of a property or table has the name of a built-in one. -/
theorem name_notMem_builtIn (k : Key) : k.name ∉ builtIn :=
  fun h => k.not_isPlain_name (isPlain_of_mem_builtIn h)

/-! ## Names of their own -/

/-- No other field has the name. -/
def IsUnshared (k : Key) : Prop :=
  ∀ k' : Key, k'.name = k.name → k' = k

/-- The parts of the name can be told: they have no point, and the field is one of values, of a
property that does not end like the other kinds. -/
def IsTellable : Key → Prop
  | ofProperty kind table property => kind = .values ∧ '.' ∉ table.toList ∧ '.' ∉ property.toList
      ∧ ∀ kind' ≠ Kind.values, ∀ p, property ≠ p ++ kind'.ending
  | ofTable table => '.' ∉ table.toList

/-- A name that is not shared can be told: each way to take it apart otherwise is another field. -/
theorem isTellable_of_isUnshared_ofProperty {kind : Kind} {table property : String}
    (h : (ofProperty kind table property).IsUnshared) :
    (ofProperty kind table property).IsTellable := by
  obtain rfl : kind = .values := by
    have hsame := h (ofProperty .values table (property ++ kind.ending))
      (name_ofProperty kind table property).symm
    exact (Key.ofProperty.inj hsame).1.symm
  refine ⟨rfl, fun htable => ?_, fun hproperty => ?_, ?_⟩
  · obtain ⟨a, b, rfl⟩ := exists_eq_property htable
    have hsame := h (ofProperty .values a (Field.property b property))
      (property_assoc a b property).symm
    exact property_ne_left a b (Key.ofProperty.inj hsame).2.1.symm
  · obtain ⟨a, b, rfl⟩ := exists_eq_property hproperty
    have hsame := h (ofProperty .values (Field.property table a) b) (property_assoc table a b)
    exact property_ne_left table a (Key.ofProperty.inj hsame).2.1
  · rintro kind' hkind p rfl
    have hsame := h (ofProperty kind' table p) (name_ofProperty kind' table p)
    exact hkind (Key.ofProperty.inj hsame).1

/-- A name that can be told is not shared, whatever the other field is of. -/
theorem isUnshared_ofProperty {kind : Kind} {table property : String}
    (h : (ofProperty kind table property).IsTellable) :
    (ofProperty kind table property).IsUnshared := by
  obtain ⟨rfl, htable, hproperty, hending⟩ := h
  -- among the fields of properties, only the values of this one have the name
  have hunique : ∀ kind a b, kind.field a b = Field.property table property →
      ofProperty kind a b = ofProperty .values table property := by
    intro kind a b hname
    rw [Kind.field_eq] at hname
    obtain ⟨rfl, rfl⟩ := (property_inj htable hproperty).mp hname.symm
    by_cases hkind : kind = .values
    · rw [hkind, Kind.ending, String.append_empty]
    · exact absurd rfl (hending kind hkind b)
  intro k hname
  rw [name_values] at hname
  cases k with
  | ofProperty kind a b => exact hunique kind a b hname
  | ofTable a =>
    -- with a point in its name the table is named like a property, whose words have the field
    rw [name_ofTable] at hname
    have hpoint := point_mem_tableText_iff.mp (hname ▸ point_mem_property table property)
    obtain ⟨x, y, rfl⟩ := exists_eq_property hpoint
    cases hunique .words x y hname

/-- The text field of a table is shared as soon as there is a point in the name. -/
theorem isUnshared_ofTable_iff {table : String} :
    (ofTable table).IsUnshared ↔ '.' ∉ table.toList := by
  constructor
  · intro h hpoint
    obtain ⟨a, b, rfl⟩ := exists_eq_property hpoint
    cases h (ofProperty .words a b) (tableText_property a b).symm
  · intro hpoint k hname
    rw [name_ofTable] at hname
    cases k with
    | ofProperty kind a b =>
      rw [name_ofProperty] at hname
      exact absurd (point_mem_tableText_iff.mp (hname ▸ point_mem_property a _)) hpoint
    | ofTable a => rw [(String.append_left_inj "$text").mp hname]

/-! ## Plain names -/

/-- The table has no point, and the property neither a point nor a dollar sign. -/
def IsPlain : Key → Prop
  | ofProperty _ table property => '.' ∉ table.toList ∧ Field.IsPlain property
  | ofTable table => '.' ∉ table.toList

/-- The values of a plain property have a field with a name of its own. -/
theorem isTellable_of_isPlain {table property : String}
    (h : (ofProperty .values table property).IsPlain) :
    (ofProperty .values table property).IsTellable := by
  refine ⟨rfl, h.1, h.2.1, fun kind hkind before hproperty => ?_⟩
  have hdollar : '$' ∈ kind.ending.toList := by
    cases kind with
    | values => exact absurd rfl hkind
    | _ => decide
  apply h.2.2
  rw [hproperty, String.toList_append]
  exact List.mem_append_right before.toList hdollar

/-- Fields with plain names are different. -/
theorem eq_of_name_eq {k k' : Key} (h : k.IsPlain) (h' : k'.IsPlain) (hname : k.name = k'.name) :
    k = k' := by
  cases k with
  | ofTable table => exact (isUnshared_ofTable_iff.mpr h k' hname.symm).symm
  | ofProperty kind table property =>
    cases k' with
    | ofTable table' => exact isUnshared_ofTable_iff.mpr h' _ hname
    | ofProperty kind' table' property' =>
      rw [name_ofProperty, name_ofProperty] at hname
      have hpoint : '.' ∉ (property ++ kind.ending).toList := by
        rw [String.toList_append, List.mem_append]
        exact not_or.mpr ⟨h.2.1, kind.point_notMem_ending⟩
      obtain ⟨rfl, hrest⟩ := (property_inj h.1 hpoint).mp hname
      obtain ⟨rfl, rfl⟩ := Kind.append_ending_inj h.2.2 h'.2.2 hrest
      rfl

/-! ## All names -/

/-- No field has the name of a built-in one, and a field has a name of its own if and only if the
parts of its name can be told. Among the fields of plain tables and plain properties, every one has
a name of its own. -/
theorem notMem_builtIn_and_isUnshared_iff (k : Key) :
    k.name ∉ builtIn
      ∧ (k.IsUnshared ↔ k.IsTellable)
      ∧ (k.IsPlain → ∀ k' : Key, k'.IsPlain → k'.name = k.name → k' = k) := by
  refine ⟨k.name_notMem_builtIn, ?_, fun h k' h' hname => eq_of_name_eq h' h hname⟩
  cases k with
  | ofProperty kind table property =>
    exact ⟨isTellable_of_isUnshared_ofProperty, isUnshared_ofProperty⟩
  | ofTable table => exact isUnshared_ofTable_iff

/-- The values of a property and the lengths of another one can be in one field. -/
theorem not_name_ne : ¬∀ k k' : Key, k ≠ k' → k.name ≠ k'.name := by
  intro h
  exact h (ofProperty .values "doc" "title$length") (ofProperty .lengths "doc" "title") (by decide)
    (name_ofProperty .lengths "doc" "title").symm

end Key

end ContentSearch.Field
