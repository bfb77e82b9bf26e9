import ContentSearch.Proofs.Index.Postings

/-!
# The index of a field stays consistent

The terms of the documents determine everything else in the index of a field: the documents of a
term, the documents of a term in lower case, and the documents that are present. Both changes keep
it so, and the questions are answered by the terms alone.
-/

namespace ContentSearch

namespace FieldIndex

/-- The terms of a document, none if the document is not in the index. -/
def termsAt (f : FieldIndex) (d : Nat) : SortedSet String :=
  (f.termsOf? d).getD SortedSet.empty

@[simp] theorem not_mem_termsAt_empty {d : Nat} {t : String} : t ∉ FieldIndex.empty.termsAt d :=
  SortedSet.not_mem_empty

/-- Everything in the index agrees with the terms of the documents, and nothing is kept that is
empty. -/
structure Consistent (f : FieldIndex) : Prop where
  mem_terms : ∀ {t d}, d ∈ f.terms.docs t ↔ t ∈ f.termsAt d
  mem_folded : ∀ {k d}, d ∈ f.folded.docs k ↔ ∃ t ∈ f.termsAt d, Text.lower t = k
  mem_present : ∀ {d}, d ∈ f.present ↔ ∃ t, t ∈ f.termsAt d
  terms_tidy : f.terms.Tidy
  folded_tidy : f.folded.Tidy
  listed : ∀ {d ts}, f.termsOf? d = some ts → ∃ t, t ∈ ts

theorem Consistent.empty : FieldIndex.empty.Consistent where
  mem_terms := iff_of_false Postings.not_mem_docs_empty SortedSet.not_mem_empty
  mem_folded := iff_of_false Postings.not_mem_docs_empty
    (fun ⟨_, ht, _⟩ => SortedSet.not_mem_empty ht)
  mem_present := iff_of_false SortedSet.not_mem_empty
    (fun ⟨_, ht⟩ => SortedSet.not_mem_empty ht)
  terms_tidy := Postings.tidy_empty
  folded_tidy := Postings.tidy_empty
  listed := fun h => by cases h

/-- The documents of a term as it is, each term being its own key. -/
theorem Consistent.mem_terms_id {f : FieldIndex} (h : f.Consistent) {k : String} {d : Nat} :
    d ∈ f.terms.docs k ↔ ∃ t ∈ f.termsAt d, id t = k := by
  rw [h.mem_terms]
  simp

/-! ## Adding terms -/

/-- All terms of a document once some are added. -/
def allTerms (f : FieldIndex) (d : Nat) (added : List String) : SortedSet String :=
  added.foldl SortedSet.insert (f.termsAt d)

theorem mem_allTerms {f : FieldIndex} {d : Nat} {added : List String} {t : String} :
    t ∈ f.allTerms d added ↔ t ∈ f.termsAt d ∨ t ∈ added :=
  SortedSet.mem_foldl_insert

theorem insert_of_isEmpty {f : FieldIndex} {d : Nat} {added : List String}
    (h : (f.allTerms d added).isEmpty = true) : f.insert d added = f :=
  if_pos h

theorem insert_of_not_isEmpty {f : FieldIndex} {d : Nat} {added : List String}
    (h : ¬(f.allTerms d added).isEmpty = true) :
    f.insert d added =
      { terms := (f.allTerms d added).toList.foldl (fun p t => p.add d (id t)) f.terms
        folded := (f.allTerms d added).toList.foldl (fun p t => p.add d (Text.lower t)) f.folded
        present := f.present.insert d
        docTerms := f.docTerms.insert d (f.allTerms d added) } :=
  if_neg h

theorem mem_termsAt_insert {f : FieldIndex} {d d' : Nat} {added : List String} {t : String} :
    t ∈ (f.insert d added).termsAt d' ↔ t ∈ f.termsAt d' ∨ d' = d ∧ t ∈ added := by
  by_cases h : (f.allTerms d added).isEmpty = true
  · -- the document has no terms even after the addition, so none was added
    rw [insert_of_isEmpty h, iff_self_or]
    rintro ⟨-, ht⟩
    exact absurd (mem_allTerms.mpr (Or.inr ht)) (SortedSet.isEmpty_iff.mp h t)
  · rw [insert_of_not_isEmpty h, termsAt, termsOf?, OrderedMap.get?_insert]
    by_cases hd : d' = d
    · subst hd
      simp [mem_allTerms]
    · simp [hd, termsAt, termsOf?]

/-- The documents that are added to a key are those that get a term with this key. -/
theorem Consistent.mem_docs_insert {f : FieldIndex} {p : Postings} {key : String → String}
    (hp : ∀ {k d}, d ∈ p.docs k ↔ ∃ t ∈ f.termsAt d, key t = k) (d : Nat) (added : List String)
    (d' : Nat) (k : String) :
    d' ∈ ((f.allTerms d added).toList.foldl (fun p t => p.add d (key t)) p).docs k
      ↔ ∃ t ∈ (f.insert d added).termsAt d', key t = k := by
  rw [Postings.mem_docs_foldl_add, hp]
  simp only [SortedSet.mem_toList, mem_allTerms, mem_termsAt_insert]
  constructor
  · -- the document is added again to the keys of the terms that it had
    rintro (⟨rfl, t, ht | ht, hk⟩ | ⟨t, ht, hk⟩)
    · exact ⟨t, Or.inl ht, hk⟩
    · exact ⟨t, Or.inr ⟨rfl, ht⟩, hk⟩
    · exact ⟨t, Or.inl ht, hk⟩
  · rintro ⟨t, ht | ⟨rfl, ht⟩, hk⟩
    · exact Or.inr ⟨t, ht, hk⟩
    · exact Or.inl ⟨rfl, t, Or.inr ht, hk⟩

/-- The documents that are present are those with a term, once a term is added. -/
theorem Consistent.mem_present_insert {f : FieldIndex} (h : f.Consistent) {d : Nat}
    {added : List String} (hne : ∃ t, t ∈ f.allTerms d added) (d' : Nat) :
    d' ∈ f.present.insert d ↔ ∃ t, t ∈ (f.insert d added).termsAt d' := by
  rw [SortedSet.mem_insert, h.mem_present]
  simp only [mem_termsAt_insert]
  obtain ⟨t, ht⟩ := hne
  constructor
  · rintro (rfl | ⟨t, ht⟩)
    · exact ⟨t, (mem_allTerms.mp ht).imp_right fun ht => ⟨rfl, ht⟩⟩
    · exact ⟨t, Or.inl ht⟩
  · rintro ⟨t, ht | ⟨rfl, -⟩⟩
    · exact Or.inr ⟨t, ht⟩
    · exact Or.inl rfl

theorem Consistent.insert {f : FieldIndex} (h : f.Consistent) (d : Nat) (added : List String) :
    (f.insert d added).Consistent := by
  by_cases hempty : (f.allTerms d added).isEmpty = true
  · rw [insert_of_isEmpty hempty]
    exact h
  · have hne : ∃ t, t ∈ f.allTerms d added := by
      rwa [SortedSet.isEmpty_iff, not_forall_not] at hempty
    -- both kinds of postings change alike, with different keys
    have hterms := mem_docs_insert h.mem_terms_id d added
    have hfolded := mem_docs_insert h.mem_folded d added
    have hpresent := h.mem_present_insert hne
    rw [insert_of_not_isEmpty hempty] at hterms hfolded hpresent ⊢
    refine
      { mem_terms := fun {t d'} => (hterms d' t).trans (by simp)
        mem_folded := fun {k d'} => hfolded d' k
        mem_present := fun {d'} => hpresent d'
        terms_tidy := h.terms_tidy.foldl_add id d _
        folded_tidy := h.folded_tidy.foldl_add Text.lower d _
        listed := ?_ }
    intro d' ts hts
    rw [termsOf?, OrderedMap.get?_insert] at hts
    split at hts
    · obtain rfl := Option.some.inj hts
      exact hne
    · exact h.listed hts

/-! ## Taking a document out -/

theorem mem_termsAt_remove {f : FieldIndex} {d d' : Nat} {t : String} :
    t ∈ (f.remove d).termsAt d' ↔ t ∈ f.termsAt d' ∧ d' ≠ d := by
  unfold termsAt termsOf? remove
  rw [OrderedMap.get?_erase]
  by_cases hd : d' = d
  · simp [hd]
  · simp [hd]

/-- Taking a document out of the keys of all its terms leaves it under no key. -/
theorem Consistent.mem_docs_remove {f : FieldIndex} {p : Postings} {key : String → String}
    (hp : ∀ {k d}, d ∈ p.docs k ↔ ∃ t ∈ f.termsAt d, key t = k) (d d' : Nat) (k : String) :
    d' ∈ ((f.termsAt d).toList.foldl (fun p t => p.remove d (key t)) p).docs k
      ↔ ∃ t ∈ (f.remove d).termsAt d', key t = k := by
  rw [Postings.mem_docs_foldl_remove, hp]
  simp only [SortedSet.mem_toList, mem_termsAt_remove]
  constructor
  · -- the document that goes has no key left, so this is another one
    rintro ⟨⟨t, ht, hk⟩, hnone⟩
    exact ⟨t, ⟨ht, fun hd => hnone ⟨hd, t, hd ▸ ht, hk⟩⟩, hk⟩
  · rintro ⟨t, ⟨ht, hd⟩, hk⟩
    exact ⟨⟨t, ht, hk⟩, fun hsame => hd hsame.1⟩

theorem Consistent.remove {f : FieldIndex} (h : f.Consistent) (d : Nat) :
    (f.remove d).Consistent where
  mem_terms := by
    intro t d'
    exact (mem_docs_remove h.mem_terms_id d d' t).trans (by simp)
  mem_folded := fun {k d'} => mem_docs_remove h.mem_folded d d' k
  mem_present := by
    intro d'
    have hpresent : d' ∈ (f.remove d).present ↔ d' ∈ f.present ∧ d' ≠ d := SortedSet.mem_erase
    rw [hpresent, h.mem_present]
    simp only [mem_termsAt_remove, exists_and_right]
  terms_tidy := h.terms_tidy.foldl_remove id d _
  folded_tidy := h.folded_tidy.foldl_remove Text.lower d _
  listed := by
    intro d' ts hts
    rw [termsOf?, FieldIndex.remove, OrderedMap.get?_erase] at hts
    split at hts
    · cases hts
    · exact h.listed hts

/-! ## Questions -/

/-- The documents of a key, among the terms as they are or among those in lower case. -/
theorem Consistent.mem_postings {f : FieldIndex} (h : f.Consistent) {caseSensitive : Bool}
    {k : String} {d : Nat} :
    d ∈ (f.postings caseSensitive).docs k
      ↔ ∃ t ∈ f.termsAt d, lookupKey caseSensitive t = k := by
  cases caseSensitive with
  | true => simpa [postings, lookupKey] using h.mem_terms
  | false => exact h.mem_folded

theorem Consistent.mem_term {f : FieldIndex} (h : f.Consistent) {value : String}
    {caseSensitive : Bool} {d : Nat} :
    d ∈ f.term value caseSensitive
      ↔ ∃ t ∈ f.termsAt d, lookupKey caseSensitive t = lookupKey caseSensitive value :=
  h.mem_postings

theorem Consistent.mem_collect {f : FieldIndex} (h : f.Consistent) {test : String → Bool}
    {caseSensitive : Bool} {d : Nat} :
    d ∈ (f.postings caseSensitive).collect test
      ↔ ∃ t ∈ f.termsAt d, test (lookupKey caseSensitive t) = true := by
  rw [Postings.mem_collect]
  constructor
  · rintro ⟨k, htest, hd⟩
    obtain ⟨t, ht, rfl⟩ := h.mem_postings.mp hd
    exact ⟨t, ht, htest⟩
  · rintro ⟨t, ht, htest⟩
    exact ⟨_, htest, h.mem_postings.mpr ⟨t, ht, rfl⟩⟩

theorem Consistent.mem_range {f : FieldIndex} (h : f.Consistent) {lower upper : Bound}
    {caseSensitive : Bool} {d : Nat} :
    d ∈ f.range lower upper caseSensitive
      ↔ ∃ t ∈ f.termsAt d,
        ((lower.map (lookupKey caseSensitive)).admitsAbove (lookupKey caseSensitive t)
          && (upper.map (lookupKey caseSensitive)).admitsBelow (lookupKey caseSensitive t))
            = true :=
  h.mem_collect

end FieldIndex

end ContentSearch
