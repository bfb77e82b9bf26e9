import ContentSearch.Proofs.Index.Snapshot

/-!
# Histories of snapshots

A snapshot is what a sequence of additions and removals leaves of the empty one. The main
statement says for every sequence how the parts of the snapshot hang together: numbers and
identifiers, documents and entries, the terms of every field, and paths.
-/

namespace ContentSearch

/-- A change of a snapshot. Adding an entry may replace an earlier one. -/
inductive Change
  | insert (entry : Entry)
  | remove (identifier : String)

namespace Snapshot

/-- A snapshot after a change. Where no number is left for an entry, only its earlier version
goes. -/
def apply (s : Snapshot) : Change → Snapshot
  | .insert e => (s.insert e).1
  | .remove identifier => (s.remove identifier).1

/-- What a sequence of changes makes of the empty snapshot. -/
def ofHistory (changes : List Change) : Snapshot :=
  changes.foldl apply empty

theorem apply_ofHistory (history : List Change) (c : Change) :
    (ofHistory history).apply c = ofHistory (history ++ [c]) := by
  rw [ofHistory, ofHistory, List.foldl_append]
  rfl

/-! ## One change and many -/

theorem Consistent.apply {s : Snapshot} (h : s.Consistent) (c : Change) :
    (s.apply c).Consistent := by
  cases c with
  | insert e => exact h.insert e
  | remove identifier => exact h.remove identifier

theorem Consistent.foldl_apply {s : Snapshot} (h : s.Consistent) (changes : List Change) :
    (changes.foldl Snapshot.apply s).Consistent := by
  induction changes generalizing s with
  | nil => exact h
  | cons c rest ih => exact ih (h.apply c)

theorem consistent_ofHistory (changes : List Change) : (ofHistory changes).Consistent :=
  Consistent.empty.foldl_apply changes

/-! ## Questions to one field -/

theorem Consistent.of_field? {s : Snapshot} (h : s.Consistent) {field : String} {f : FieldIndex}
    (hf : s.field? field = some f) : f.Consistent :=
  (h.fields field f hf).1

theorem termsIn_of_field? {s : Snapshot} {field : String} {f : FieldIndex}
    (hf : s.field? field = some f) (d : Nat) : termsIn s.fields field d = f.termsAt d := by
  have hget : s.fields.get? field = some f := hf
  rw [termsIn, hget, Option.getD_some]

/-- Where a field is missing, no entry has a term in it. -/
theorem Consistent.not_mem_termsIn {s : Snapshot} (h : s.Consistent) {field : String}
    (hf : s.field? field = none) {d : Nat} {e : Entry} (he : s.entry? d = some e) (t : String) :
    t ∉ e.termsIn field := by
  intro ht
  have hget : s.fields.get? field = none := hf
  have hmem := h.mem_termsIn.mpr ⟨e, he, ht⟩
  rw [termsIn, hget, Option.getD_none] at hmem
  exact FieldIndex.not_mem_termsAt_empty hmem

/-- A question to a field is answered by the terms of the entries, if the index of the field
answers it by the terms of the documents. -/
theorem Consistent.mem_onField {s : Snapshot} (h : s.Consistent) {field : String}
    (ask : FieldIndex → DocSet) (accepts : String → Prop)
    (hask : ∀ {f : FieldIndex}, f.Consistent →
      ∀ {d}, d ∈ ask f ↔ ∃ t ∈ f.termsAt d, accepts t) {d : Nat} :
    d ∈ s.onField field ask ↔ ∃ e, s.entry? d = some e ∧ ∃ t ∈ e.termsIn field, accepts t := by
  unfold onField
  -- a missing field answers nothing, which is right, as no entry has a term in it
  cases hf : s.field? field with
  | none =>
    refine iff_of_false SortedSet.not_mem_empty ?_
    rintro ⟨e, he, t, ht, -⟩
    exact h.not_mem_termsIn hf he t ht
  | some f =>
    simp only [hask (h.of_field? hf), ← termsIn_of_field? hf, h.mem_termsIn]
    constructor
    · rintro ⟨t, ⟨e, he, ht⟩, hacc⟩
      exact ⟨e, he, t, ht, hacc⟩
    · rintro ⟨e, he, t, ht, hacc⟩
      exact ⟨t, ⟨e, he, ht⟩, hacc⟩

/-! ## How the parts hang together -/

/-- The terms that are kept for a document in a field. -/
def docTerms? (s : Snapshot) (field : String) (d : Nat) : Option (SortedSet String) :=
  (s.field? field).bind (·.termsOf? d)

/-- How the parts of a snapshot hang together.

The first group of properties is about numbers: identifiers have different numbers, the numbers
in use are those of the documents and those of the entries, all of them have been given out, and
each leads to the entry with the identifier. The second group is about every field: the kept terms
of a document are the set of all terms that its entry has in the field, and they determine the
documents of a term, the documents of a term in lower case, and the documents of the field. Nothing
that is empty is kept. The last property is about paths. -/
structure WellIndexed (s : Snapshot) : Prop where
  docIds_injective : ∀ {identifier₁ identifier₂ d},
    s.docIds.get? identifier₁ = some d → s.docIds.get? identifier₂ = some d →
      identifier₁ = identifier₂
  docIds_range : ∀ {d}, (∃ identifier, s.docIds.get? identifier = some d) ↔ d ∈ s.live
  entries_keys : ∀ {d}, d ∈ s.entries.keys ↔ d ∈ s.live
  docIds_entry : ∀ {identifier d}, s.docIds.get? identifier = some d →
    d < s.nextDoc ∧ ∃ e, s.entry? d = some e ∧ e.identifier = identifier
  docTerms_eq : ∀ field d, s.docTerms? field d =
    (s.entries.get? d).bind fun e =>
      if e.termsIn field = [] then none else some (SortedSet.ofList (e.termsIn field))
  mem_terms : ∀ {field t d}, d ∈ s.onField field (·.terms.docs t)
    ↔ ∃ e, s.entry? d = some e ∧ t ∈ e.termsIn field
  mem_folded : ∀ {field k d}, d ∈ s.onField field (·.folded.docs k)
    ↔ ∃ e, s.entry? d = some e ∧ ∃ t ∈ e.termsIn field, Text.lower t = k
  mem_present : ∀ {field d}, d ∈ s.onField field (·.present)
    ↔ ∃ e, s.entry? d = some e ∧ e.termsIn field ≠ []
  terms_nonempty : ∀ {field f t docs}, s.field? field = some f →
    f.terms.get? t = some docs → ∃ d, d ∈ docs
  folded_nonempty : ∀ {field f k docs}, s.field? field = some f →
    f.folded.get? k = some docs → ∃ d, d ∈ docs
  fields_nonempty : ∀ {field f}, s.field? field = some f → ∃ d, d ∈ f.present
  resolve_entry : ∀ {path identifier}, s.resolve path = some identifier →
    ∃ d e, d ∈ s.live ∧ s.entry? d = some e ∧ e.identifier = identifier
      ∧ e.path? = some path

theorem Consistent.docTerms?_eq {s : Snapshot} (h : s.Consistent) (field : String) (d : Nat) :
    s.docTerms? field d = (s.entries.get? d).bind fun e =>
      if e.termsIn field = [] then none else some (SortedSet.ofList (e.termsIn field)) := by
  have hentry : s.entries.get? d = s.entry? d := rfl
  rw [hentry]
  have hterms : ∀ {t}, t ∈ (s.docTerms? field d).getD SortedSet.empty
      ↔ ∃ e, s.entry? d = some e ∧ t ∈ e.termsIn field := by
    intro t
    rw [← h.mem_termsIn, termsIn, docTerms?, field?]
    cases s.fields.get? field with
    | none => rfl
    | some f => rfl
  cases hkept : s.docTerms? field d with
  | none =>
    -- nothing is kept, so the entry has nothing to keep
    rw [hkept] at hterms
    cases he : s.entry? d with
    | none => rfl
    | some e =>
      have hnil : e.termsIn field = [] := List.eq_nil_iff_forall_not_mem.mpr fun t ht =>
        SortedSet.not_mem_empty (hterms.mpr ⟨e, he, ht⟩)
      rw [Option.bind_some, if_pos hnil]
  | some ts =>
    -- what is kept is not empty, so it comes from an entry
    rw [hkept, Option.getD_some] at hterms
    obtain ⟨f, hf, hts⟩ := Option.bind_eq_some_iff.mp hkept
    obtain ⟨t, ht⟩ := (h.of_field? hf).listed hts
    obtain ⟨e, he, hte⟩ := hterms.mp ht
    rw [he, Option.bind_some, if_neg (List.ne_nil_of_mem hte)]
    refine congrArg some (SortedSet.eq_of_mem_iff fun t => ?_)
    rw [hterms, SortedSet.mem_ofList, he]
    simp

/-- Whatever has been added and removed, the parts of the snapshot hang together. -/
theorem ofHistory_wellIndexed (history : List Change) : (ofHistory history).WellIndexed := by
  have h := consistent_ofHistory history
  refine
    { docIds_injective := ?_
      docIds_range := ?_
      entries_keys := ?_
      docIds_entry := ?_
      docTerms_eq := h.docTerms?_eq
      mem_terms := ?_
      mem_folded := ?_
      mem_present := ?_
      terms_nonempty := fun hf hdocs => (h.of_field? hf).terms_tidy _ _ hdocs
      folded_nonempty := fun hf hdocs => (h.of_field? hf).folded_tidy _ _ hdocs
      fields_nonempty := fun hf => (h.fields _ _ hf).2
      resolve_entry := ?_ }
  · intro identifier₁ identifier₂ d h₁ h₂
    obtain ⟨e₁, he₁, rfl⟩ := h.docIds.mp h₁
    obtain ⟨e₂, he₂, rfl⟩ := h.docIds.mp h₂
    rw [Option.some.inj (he₁.symm.trans he₂)]
  · intro d
    simp only [h.docIds, h.mem_live]
    constructor
    · rintro ⟨_, e, he, -⟩
      exact ⟨e, he⟩
    · rintro ⟨e, he⟩
      exact ⟨e.identifier, e, he, rfl⟩
  · intro d
    rw [h.mem_live, OrderedMap.mem_keys_iff]
    rfl
  · intro identifier d hd
    obtain ⟨e, he, hid⟩ := h.docIds.mp hd
    exact ⟨h.lt_nextDoc he, e, he, hid⟩
  · -- a term is its own key, so that terms as they are and in lower case are asked for alike
    intro field t d
    refine (h.mem_onField (·.terms.docs t) (id · = t) fun hf => hf.mem_terms_id).trans ?_
    simp
  · intro field k d
    exact h.mem_onField (·.folded.docs k) (Text.lower · = k) fun hf => hf.mem_folded
  · -- every term will do
    intro field d
    refine (h.mem_onField (·.present) (fun _ => True) fun {_} hf {d} => ?_).trans ?_
    · simpa using hf.mem_present (d := d)
    · simp only [and_true, ← List.length_pos_iff_exists_mem, List.length_pos_iff]
  · intro path identifier hpath
    obtain ⟨d, e, he, hid, hp⟩ := h.resolve hpath
    exact ⟨d, e, h.mem_live.mpr ⟨e, he⟩, he, hid, hp⟩

end Snapshot

end ContentSearch
