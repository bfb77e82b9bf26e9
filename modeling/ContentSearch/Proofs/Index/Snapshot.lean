import ContentSearch.Index.Snapshot
import ContentSearch.Proofs.Index.FieldIndex

/-!
# Snapshots stay consistent

The entries of a snapshot determine its numbers, its documents and the terms of every field. The
main statements are that adding and dropping an entry keep it so, whatever was indexed before.
-/

namespace ContentSearch

/-! ## Terms of an entry in one field -/

/-- All terms of an entry in a field, from every place where the field is listed. -/
def Entry.termsIn (e : Entry) (field : String) : List String :=
  (e.fieldTerms.filter fun p => p.1 == field).flatMap (·.2)

/-- A term of an entry is listed under its field, in whichever of several lists. -/
theorem Entry.mem_termsIn {e : Entry} {field t : String} :
    t ∈ e.termsIn field ↔ ∃ ts, (field, ts) ∈ e.fieldTerms ∧ t ∈ ts := by
  simp only [termsIn, List.mem_flatMap, List.mem_filter, beq_iff_eq]
  constructor
  · rintro ⟨⟨_, ts⟩, ⟨hmem, rfl⟩, ht⟩
    exact ⟨ts, hmem, ht⟩
  · rintro ⟨ts, hmem, ht⟩
    exact ⟨(field, ts), ⟨hmem, rfl⟩, ht⟩

namespace Snapshot

/-! ## The indexes of all fields -/

/-- The terms of a document in a field, none where there is no such field. -/
def termsIn (fields : OrderedMap String FieldIndex) (field : String) (d : Nat) :
    SortedSet String :=
  ((fields.get? field).getD FieldIndex.empty).termsAt d

/-- The index of every field is consistent, and no field is kept without documents. -/
def FieldsConsistent (fields : OrderedMap String FieldIndex) : Prop :=
  ∀ field f, fields.get? field = some f → f.Consistent ∧ ∃ d, d ∈ f.present

/-- A field that is not there counts as an empty one. -/
theorem FieldsConsistent.getD {fields : OrderedMap String FieldIndex}
    (h : FieldsConsistent fields) (field : String) :
    ((fields.get? field).getD FieldIndex.empty).Consistent := by
  cases hget : fields.get? field with
  | none => exact FieldIndex.Consistent.empty
  | some f => exact (h field f hget).1

/-- Adding the terms of one field to a document adds nothing to other fields or documents. -/
theorem mem_termsIn_addTerms {fields : OrderedMap String FieldIndex} {d d' : Nat}
    {listed : String × List String} {field t : String} :
    t ∈ termsIn (addTerms d fields listed) field d'
      ↔ t ∈ termsIn fields field d' ∨ d' = d ∧ listed.1 = field ∧ t ∈ listed.2 := by
  unfold addTerms
  split
  · rename_i hempty
    rw [List.isEmpty_iff] at hempty
    simp [hempty]
  · -- the index of the listed field changes, the others stay
    unfold termsIn
    rw [OrderedMap.get?_insert]
    by_cases hfield : field = listed.1
    · subst hfield
      simp [FieldIndex.mem_termsAt_insert]
    · simp [hfield, Ne.symm hfield]

/-- Fields stay consistent when terms are added. -/
theorem FieldsConsistent.addTerms {fields : OrderedMap String FieldIndex}
    (h : FieldsConsistent fields) (d : Nat) (listed : String × List String) :
    FieldsConsistent (addTerms d fields listed) := by
  unfold Snapshot.addTerms
  split
  · exact h
  · rename_i hne
    intro field f hget
    rw [OrderedMap.get?_insert] at hget
    split at hget
    · -- a term was listed, so the field has a document
      obtain rfl := Option.some.inj hget
      have hcons := (h.getD listed.1).insert d listed.2
      refine ⟨hcons, d, hcons.mem_present.mpr ?_⟩
      obtain ⟨t, ht⟩ := List.exists_mem_of_ne_nil listed.2 (by simpa using hne)
      exact ⟨t, FieldIndex.mem_termsAt_insert.mpr (Or.inr ⟨rfl, ht⟩)⟩
    · exact h field f hget

/-- What a document has after all lists of terms are added: what it had, and all that is listed. -/
theorem mem_termsIn_foldl_addTerms {d d' : Nat} {listed : List (String × List String)}
    {field t : String} {fields : OrderedMap String FieldIndex} :
    t ∈ termsIn (listed.foldl (addTerms d) fields) field d'
      ↔ t ∈ termsIn fields field d' ∨ d' = d ∧ ∃ ts, (field, ts) ∈ listed ∧ t ∈ ts := by
  induction listed generalizing fields with
  | nil => simp
  | cons first rest ih =>
    rw [List.foldl_cons, ih, mem_termsIn_addTerms]
    constructor
    · rintro ((h | ⟨hd, rfl, ht⟩) | ⟨hd, ts, hmem, ht⟩)
      · exact Or.inl h
      · exact Or.inr ⟨hd, first.2, List.mem_cons_self, ht⟩
      · exact Or.inr ⟨hd, ts, List.mem_cons_of_mem first hmem, ht⟩
    · rintro (h | ⟨hd, ts, hmem, ht⟩)
      · exact Or.inl (Or.inl h)
      · rcases List.mem_cons.mp hmem with rfl | hmem
        · exact Or.inl (Or.inr ⟨hd, rfl, ht⟩)
        · exact Or.inr ⟨hd, ts, hmem, ht⟩

theorem FieldsConsistent.foldl_addTerms {fields : OrderedMap String FieldIndex}
    (h : FieldsConsistent fields) (d : Nat) (listed : List (String × List String)) :
    FieldsConsistent (listed.foldl (Snapshot.addTerms d) fields) := by
  induction listed generalizing fields with
  | nil => exact h
  | cons first rest ih => exact ih (h.addTerms d first)

/-- A field without its last document is dropped, and so is not found any more. -/
theorem get?_removeTerms {fields : OrderedMap String FieldIndex} {d : Nat} {field : String} :
    (removeTerms d fields).get? field
      = ((fields.get? field).map (·.remove d)).filter fun f => !f.isEmpty := by
  rw [removeTerms, OrderedMap.get?_filter, OrderedMap.get?_map]

/-- Removal takes all terms from the document and none from the others. -/
theorem mem_termsIn_removeTerms {fields : OrderedMap String FieldIndex}
    (h : FieldsConsistent fields) {d d' : Nat} {field t : String} :
    t ∈ termsIn (removeTerms d fields) field d' ↔ t ∈ termsIn fields field d' ∧ d' ≠ d := by
  unfold termsIn
  rw [get?_removeTerms]
  cases hget : fields.get? field with
  | none => simp
  | some f =>
    have hcons := (h field f hget).1.remove d
    rw [Option.map_some, Option.getD_some, ← FieldIndex.mem_termsAt_remove]
    by_cases hempty : (f.remove d).isEmpty = true
    · -- a field that is dropped has no terms left
      have hnone : t ∉ (f.remove d).termsAt d' := fun ht =>
        SortedSet.isEmpty_iff.mp hempty d' (hcons.mem_present.mpr ⟨t, ht⟩)
      simp [Option.filter, hempty, hnone]
    · simp [Option.filter, hempty]

/-- Fields stay consistent when a document is removed. -/
theorem FieldsConsistent.removeTerms {fields : OrderedMap String FieldIndex}
    (h : FieldsConsistent fields) (d : Nat) : FieldsConsistent (removeTerms d fields) := by
  intro field f hget
  rw [get?_removeTerms, Option.filter_eq_some_iff, Option.map_eq_some_iff] at hget
  obtain ⟨⟨old, hold, rfl⟩, hne⟩ := hget
  refine ⟨(h field old hold).1.remove d, ?_⟩
  -- a field that is kept has passed the test for documents
  by_contra hnone
  have hempty : (old.remove d).isEmpty = true :=
    SortedSet.isEmpty_iff.mpr (not_exists.mp hnone)
  simp [hempty] at hne

/-! ## The whole snapshot -/

/-- Numbers, documents, paths and terms are those of the entries. -/
structure Consistent (s : Snapshot) : Prop where
  fields : FieldsConsistent s.fields
  mem_termsIn : ∀ {field d t},
    t ∈ termsIn s.fields field d ↔ ∃ e, s.entry? d = some e ∧ t ∈ e.termsIn field
  docIds : ∀ {identifier d},
    s.docIds.get? identifier = some d ↔ ∃ e, s.entry? d = some e ∧ e.identifier = identifier
  mem_live : ∀ {d}, d ∈ s.live ↔ ∃ e, s.entry? d = some e
  lt_nextDoc : ∀ {d e}, s.entry? d = some e → d < s.nextDoc
  resolve : ∀ {path identifier}, s.resolve path = some identifier →
    ∃ d e, s.entry? d = some e ∧ e.identifier = identifier ∧ e.path? = some path

/-- The index without entries is consistent. -/
theorem Consistent.empty : Snapshot.empty.Consistent where
  fields := fun field f h => by cases h
  mem_termsIn := iff_of_false FieldIndex.not_mem_termsAt_empty (fun ⟨_, h, _⟩ => by cases h)
  docIds := iff_of_false (fun h => by cases h) (fun ⟨_, h, _⟩ => by cases h)
  mem_live := iff_of_false SortedSet.not_mem_empty (fun ⟨_, h⟩ => by cases h)
  lt_nextDoc := fun h => by cases h
  resolve := fun h => by cases h

/-- Two entries with one identifier have one number. -/
theorem Consistent.doc_unique {s : Snapshot} (h : s.Consistent) {d d' : Nat} {e e' : Entry}
    (he : s.entry? d = some e) (he' : s.entry? d' = some e')
    (hid : e.identifier = e'.identifier) : d = d' := by
  have hd := h.docIds.mpr ⟨e, he, rfl⟩
  have hd' := h.docIds.mpr ⟨e', he', rfl⟩
  rw [hid, hd'] at hd
  exact (Option.some.inj hd).symm

/-! ## Dropping an entry -/

/-- A snapshot without the entry of a number. -/
def drop (s : Snapshot) (identifier : String) (d : Nat) : Snapshot :=
  { s with
    docIds := s.docIds.erase identifier
    live := s.live.erase d
    entries := s.entries.erase d
    paths := releasePath s.paths identifier ((s.entries.get? d).bind (·.path?))
    fields := removeTerms d s.fields }

theorem remove_of_none {s : Snapshot} {identifier : String}
    (h : s.docIds.get? identifier = none) : s.remove identifier = (s, false) := by
  rw [remove, h]

/-- An entry that is there is dropped. -/
theorem remove_of_some {s : Snapshot} {identifier : String} {d : Nat}
    (h : s.docIds.get? identifier = some d) :
    s.remove identifier = (s.drop identifier d, true) := by
  rw [remove, h]
  rfl

/-- The entries that stay are those under other numbers. -/
theorem entry_drop_iff {s : Snapshot} {identifier : String} {d d' : Nat} {e : Entry} :
    Snapshot.entry? (s.drop identifier d) d' = some e ↔ s.entry? d' = some e ∧ d' ≠ d := by
  unfold entry? drop
  rw [OrderedMap.get?_erase]
  by_cases hd : d' = d
  · simp [hd]
  · simp [hd]

/-- A path that is still resolved was not the path of the dropped entry. -/
theorem resolve_releasePath {paths : OrderedMap String String} {path identifier dropped : String}
    {path? : Option String}
    (h : (releasePath paths dropped path?).get? path = some identifier) :
    paths.get? path = some identifier ∧ (identifier = dropped → path? ≠ some path) := by
  unfold releasePath at h
  cases path? with
  | none => exact ⟨h, fun _ hpath => by cases hpath⟩
  | some own =>
    simp only at h
    split at h
    · -- the path belonged to the dropped entry and is erased
      rw [OrderedMap.get?_erase] at h
      split at h
      · cases h
      · rename_i hne
        exact ⟨h, fun _ hpath => hne (Option.some.inj hpath).symm⟩
    · -- the path leads to another entry and stays
      rename_i hother
      refine ⟨h, ?_⟩
      rintro rfl hpath
      rw [Option.some.inj hpath] at hother
      exact hother h

/-- An index stays consistent when an entry is dropped under its own number. -/
theorem Consistent.drop {s : Snapshot} (h : s.Consistent) {identifier : String} {d : Nat}
    (hd : s.docIds.get? identifier = some d) : (s.drop identifier d).Consistent := by
  obtain ⟨dropped, hdropped, hid⟩ := h.docIds.mp hd
  refine
    { fields := h.fields.removeTerms d
      mem_termsIn := ?_
      docIds := ?_
      mem_live := ?_
      lt_nextDoc := fun he => h.lt_nextDoc (entry_drop_iff.mp he).1
      resolve := ?_ }
  · -- the terms of the other documents stay
    intro field d' t
    have hterms : t ∈ termsIn (s.drop identifier d).fields field d'
        ↔ t ∈ termsIn s.fields field d' ∧ d' ≠ d := mem_termsIn_removeTerms h.fields
    simp only [hterms, h.mem_termsIn, entry_drop_iff]
    constructor
    · rintro ⟨⟨e, he, ht⟩, hne⟩
      exact ⟨e, ⟨he, hne⟩, ht⟩
    · rintro ⟨e, ⟨he, hne⟩, ht⟩
      exact ⟨⟨e, he, ht⟩, hne⟩
  · intro identifier' d'
    have hget : (s.drop identifier d).docIds.get? identifier' = some d'
        ↔ identifier' ≠ identifier ∧ s.docIds.get? identifier' = some d' := by
      simp [Snapshot.drop]
    simp only [hget, h.docIds, entry_drop_iff]
    constructor
    · -- the dropped number has the dropped identifier
      rintro ⟨hne, e, he, rfl⟩
      refine ⟨e, ⟨he, ?_⟩, rfl⟩
      rintro rfl
      rw [hdropped] at he
      exact hne ((Option.some.inj he) ▸ hid)
    · -- and no other number has it
      rintro ⟨e, ⟨he, hne⟩, rfl⟩
      exact ⟨fun heq => hne (h.doc_unique he hdropped (heq.trans hid.symm)), e, he, rfl⟩
  · intro d'
    have hmem : d' ∈ (s.drop identifier d).live ↔ d' ∈ s.live ∧ d' ≠ d := SortedSet.mem_erase
    simp only [hmem, h.mem_live, entry_drop_iff, exists_and_right]
  · intro path identifier' hpath
    obtain ⟨hold, hother⟩ := resolve_releasePath hpath
    obtain ⟨d', e, he, hide, hpe⟩ := h.resolve hold
    refine ⟨d', e, entry_drop_iff.mpr ⟨he, ?_⟩, hide, hpe⟩
    -- the dropped entry has given its own path up
    rintro rfl
    have hsame : dropped = e := Option.some.inj (hdropped.symm.trans he)
    subst hsame
    have hentry : s.entries.get? d' = some dropped := hdropped
    exact hother (hide.symm.trans hid) (by rw [hentry]; exact hpe)

theorem Consistent.remove {s : Snapshot} (h : s.Consistent) (identifier : String) :
    (s.remove identifier).1.Consistent := by
  cases hget : s.docIds.get? identifier with
  | none => rwa [remove_of_none hget]
  | some d =>
    rw [remove_of_some hget]
    exact h.drop hget

/-- After removal the identifier has no number, whether it had one before or not. -/
theorem docIds_remove (s : Snapshot) (identifier : String) :
    (s.remove identifier).1.docIds.get? identifier = none := by
  cases hget : s.docIds.get? identifier with
  | none => rwa [remove_of_none hget]
  | some d =>
    rw [remove_of_some hget, drop, OrderedMap.get?_erase, if_pos rfl]

/-! ## Adding an entry -/

/-- A placed entry stands under the next number, and the others stand where they stood. -/
theorem entry_place_iff {s : Snapshot} {e e' : Entry} {d : Nat} :
    Snapshot.entry? (s.place e) d = some e'
      ↔ d = s.nextDoc ∧ e = e' ∨ d ≠ s.nextDoc ∧ s.entry? d = some e' := by
  unfold entry? place
  rw [OrderedMap.get?_insert]
  by_cases hd : d = s.nextDoc
  · simp [hd]
  · simp [hd]

/-- A path resolves to the placed entry if the entry has it, and as before otherwise. -/
theorem resolve_place {s : Snapshot} {e : Entry} {path identifier : String}
    (h : (s.place e).resolve path = some identifier) :
    e.path? = some path ∧ e.identifier = identifier ∨ s.resolve path = some identifier := by
  unfold resolve place at h
  cases hpath : e.path? with
  | none =>
    rw [hpath] at h
    exact Or.inr h
  | some own =>
    rw [hpath] at h
    simp only [OrderedMap.get?_insert] at h
    split at h
    · rename_i heq
      exact Or.inl ⟨congrArg some heq.symm, Option.some.inj h⟩
    · exact Or.inr h

theorem fields_place {s : Snapshot} {e : Entry} :
    (s.place e).fields = e.fieldTerms.foldl (addTerms s.nextDoc) s.fields := by
  rw [place]

/-- A placed entry has its own terms, under the next number. -/
theorem mem_termsIn_place {s : Snapshot} {e : Entry} {field t : String} {d : Nat} :
    t ∈ termsIn (s.place e).fields field d
      ↔ t ∈ termsIn s.fields field d ∨ d = s.nextDoc ∧ t ∈ e.termsIn field := by
  rw [fields_place, mem_termsIn_foldl_addTerms, Entry.mem_termsIn]

theorem docIds_place {s : Snapshot} {e : Entry} {identifier : String} :
    (s.place e).docIds.get? identifier
      = if identifier = e.identifier then some s.nextDoc else s.docIds.get? identifier := by
  rw [place, OrderedMap.get?_insert]

/-- The next number is in use once an entry is placed. -/
theorem mem_live_place {s : Snapshot} {e : Entry} {d : Nat} :
    d ∈ (s.place e).live ↔ d = s.nextDoc ∨ d ∈ s.live := by
  rw [place, SortedSet.mem_insert]

theorem nextDoc_place {s : Snapshot} {e : Entry} : (s.place e).nextDoc = s.nextDoc + 1 := by
  rw [place]

/-- The numbers of the entries after one is added, whose identifier was free. -/
theorem Consistent.docIds_place {s : Snapshot} (h : s.Consistent) {e : Entry}
    (hnew : s.docIds.get? e.identifier = none) {identifier : String} {d : Nat} :
    (s.place e).docIds.get? identifier = some d
      ↔ ∃ e', Snapshot.entry? (s.place e) d = some e' ∧ e'.identifier = identifier := by
  rw [Snapshot.docIds_place]
  simp only [entry_place_iff]
  by_cases hid : identifier = e.identifier
  · subst hid
    rw [if_pos rfl, Option.some.injEq]
    constructor
    · rintro rfl
      exact ⟨e, Or.inl ⟨rfl, rfl⟩, rfl⟩
    · rintro ⟨e', ⟨hd, rfl⟩ | ⟨-, he'⟩, hide⟩
      · exact hd.symm
      · -- no earlier entry has the identifier
        rw [h.docIds.mpr ⟨e', he', hide⟩] at hnew
        cases hnew
  · rw [if_neg hid, h.docIds]
    constructor
    · rintro ⟨e', he', hide⟩
      exact ⟨e', Or.inr ⟨Nat.ne_of_lt (h.lt_nextDoc he'), he'⟩, hide⟩
    · rintro ⟨e', ⟨-, rfl⟩ | ⟨-, he'⟩, hide⟩
      · exact absurd hide.symm hid
      · exact ⟨e', he', hide⟩

/-- An index stays consistent when an entry with a new identifier is placed. -/
theorem Consistent.place {s : Snapshot} (h : s.Consistent) {e : Entry}
    (hnew : s.docIds.get? e.identifier = none) : (s.place e).Consistent := by
  -- the number of the new entry is unused, so that no other entry is overwritten
  have hfresh : ∀ {d e'}, s.entry? d = some e' → d ≠ s.nextDoc :=
    fun he => Nat.ne_of_lt (h.lt_nextDoc he)
  refine
    { fields := by rw [fields_place]; exact h.fields.foldl_addTerms s.nextDoc e.fieldTerms
      mem_termsIn := ?_
      docIds := h.docIds_place hnew
      mem_live := ?_
      lt_nextDoc := ?_
      resolve := ?_ }
  · intro field d t
    simp only [mem_termsIn_place, h.mem_termsIn, entry_place_iff]
    constructor
    · rintro (⟨e', he', ht⟩ | ⟨hd, ht⟩)
      · exact ⟨e', Or.inr ⟨hfresh he', he'⟩, ht⟩
      · exact ⟨e, Or.inl ⟨hd, rfl⟩, ht⟩
    · rintro ⟨e', ⟨hd, rfl⟩ | ⟨-, he'⟩, ht⟩
      · exact Or.inr ⟨hd, ht⟩
      · exact Or.inl ⟨e', he', ht⟩
  · intro d
    simp only [mem_live_place, h.mem_live, entry_place_iff]
    constructor
    · rintro (hd | ⟨e', he'⟩)
      · exact ⟨e, Or.inl ⟨hd, rfl⟩⟩
      · exact ⟨e', Or.inr ⟨hfresh he', he'⟩⟩
    · rintro ⟨e', ⟨hd, -⟩ | ⟨-, he'⟩⟩
      · exact Or.inl hd
      · exact Or.inr ⟨e', he'⟩
  · intro d e' he'
    rw [nextDoc_place]
    rcases entry_place_iff.mp he' with ⟨hd, -⟩ | ⟨-, he'⟩
    · omega
    · have hlt := h.lt_nextDoc he'
      omega
  · intro path identifier hpath
    rcases resolve_place hpath with ⟨hp, hid⟩ | hold
    · exact ⟨s.nextDoc, e, entry_place_iff.mpr (Or.inl ⟨rfl, rfl⟩), hid, hp⟩
    · obtain ⟨d, e', he', hid, hp⟩ := h.resolve hold
      exact ⟨d, e', entry_place_iff.mpr (Or.inr ⟨hfresh he', he'⟩), hid, hp⟩

/-- One insertion keeps an index consistent, refused or not. -/
theorem Consistent.insert {s : Snapshot} (h : s.Consistent) (e : Entry) :
    (s.insert e).1.Consistent := by
  unfold Snapshot.insert
  -- the earlier version goes first, whether or not a number is left for the new one
  have hcleared := h.remove e.identifier
  simp only
  split
  · exact hcleared.place (s.docIds_remove e.identifier)
  · exact hcleared

end Snapshot

end ContentSearch
