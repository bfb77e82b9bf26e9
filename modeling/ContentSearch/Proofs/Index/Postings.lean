import ContentSearch.Index.FieldIndex
import Mathlib.Tactic.ByContra

/-!
# Postings

What adding and removing documents does to the documents of a term. Several terms can have one key
(in lower case), so that a document is added to, or taken out of, one key more than once; all
statements about lists of terms are therefore about the keys of the terms.
-/

namespace ContentSearch

namespace Postings

/-- No term is kept without documents. -/
def Tidy (p : Postings) : Prop :=
  ∀ t docs, p.get? t = some docs → ∃ d, d ∈ docs

theorem tidy_empty : Tidy OrderedMap.empty := by
  intro t docs h
  cases h

theorem not_mem_docs_empty {t : String} {d : Nat} : d ∉ docs OrderedMap.empty t :=
  SortedSet.not_mem_empty

/-! ## One document and one term -/

@[simp] theorem mem_docs_add {p : Postings} {d d' : Nat} {k k' : String} :
    d' ∈ (p.add d k).docs k' ↔ d' = d ∧ k' = k ∨ d' ∈ p.docs k' := by
  unfold docs add
  rw [OrderedMap.get?_insert]
  by_cases hk : k' = k
  · simp [hk, docs]
  · simp [hk]

theorem Tidy.add {p : Postings} (h : p.Tidy) (d : Nat) (k : String) : (p.add d k).Tidy := by
  intro k' docs hdocs
  rw [Postings.add, OrderedMap.get?_insert] at hdocs
  split at hdocs
  · obtain rfl := Option.some.inj hdocs
    exact ⟨d, SortedSet.mem_insert.mpr (Or.inl rfl)⟩
  · exact h k' docs hdocs

@[simp] theorem mem_docs_remove {p : Postings} {d d' : Nat} {k k' : String} :
    d' ∈ (p.remove d k).docs k' ↔ d' ∈ p.docs k' ∧ ¬(d' = d ∧ k' = k) := by
  cases hget : p.get? k with
  | none =>
    simp only [remove, hget, iff_self_and]
    -- a key without documents loses none
    rintro hmem ⟨-, rfl⟩
    simp [docs, hget] at hmem
  | some docs =>
    have hrest : ∀ d', d' ∈ docs.erase d ↔ d' ∈ p.docs k ∧ d' ≠ d := by
      simp [Postings.docs, hget]
    simp only [remove, hget]
    split
    · -- the last document goes, and the key goes with it
      rename_i hempty
      rw [SortedSet.isEmpty_iff] at hempty
      by_cases hk : k' = k
      · subst hk
        have hnone : d' ∈ p.docs k' → d' = d := by
          intro hmem
          by_contra hne
          exact hempty d' ((hrest d').mpr ⟨hmem, hne⟩)
        simpa [Postings.docs, hget] using hnone
      · simp [Postings.docs, hk]
    · -- the key keeps its other documents
      by_cases hk : k' = k
      · subst hk
        simp [Postings.docs, hget]
      · simp [Postings.docs, hk]

theorem Tidy.remove {p : Postings} (h : p.Tidy) (d : Nat) (k : String) : (p.remove d k).Tidy := by
  intro k' docs hdocs
  cases hget : p.get? k with
  | none =>
    rw [Postings.remove, hget] at hdocs
    exact h k' docs hdocs
  | some old =>
    simp only [Postings.remove, hget] at hdocs
    split at hdocs
    · rw [OrderedMap.get?_erase] at hdocs
      split at hdocs
      · cases hdocs
      · exact h k' docs hdocs
    · -- what is left under the key is not empty, or the key would have gone
      rename_i hne
      rw [OrderedMap.get?_insert] at hdocs
      split at hdocs
      · obtain rfl := Option.some.inj hdocs
        by_contra hnone
        exact hne (SortedSet.isEmpty_iff.mpr (not_exists.mp hnone))
      · exact h k' docs hdocs

/-! ## One document and many terms -/

theorem mem_docs_foldl_add {key : String → String} {d d' : Nat} {k : String} {ts : List String}
    {p : Postings} :
    d' ∈ (ts.foldl (fun p t => p.add d (key t)) p).docs k
      ↔ (d' = d ∧ ∃ t ∈ ts, key t = k) ∨ d' ∈ p.docs k := by
  induction ts generalizing p with
  | nil => simp
  | cons t rest ih =>
    rw [List.foldl_cons, ih, mem_docs_add]
    simp only [List.mem_cons, exists_eq_or_imp]
    constructor
    · rintro (⟨hd, h⟩ | ⟨hd, hk⟩ | h)
      · exact Or.inl ⟨hd, Or.inr h⟩
      · exact Or.inl ⟨hd, Or.inl hk.symm⟩
      · exact Or.inr h
    · rintro (⟨hd, hk | h⟩ | h)
      · exact Or.inr (Or.inl ⟨hd, hk.symm⟩)
      · exact Or.inl ⟨hd, h⟩
      · exact Or.inr (Or.inr h)

theorem Tidy.foldl_add {p : Postings} (h : p.Tidy) (key : String → String) (d : Nat)
    (ts : List String) : (ts.foldl (fun p t => p.add d (key t)) p).Tidy := by
  induction ts generalizing p with
  | nil => exact h
  | cons t rest ih => exact ih (h.add d (key t))

theorem mem_docs_foldl_remove {key : String → String} {d d' : Nat} {k : String}
    {ts : List String} {p : Postings} :
    d' ∈ (ts.foldl (fun p t => p.remove d (key t)) p).docs k
      ↔ d' ∈ p.docs k ∧ ¬(d' = d ∧ ∃ t ∈ ts, key t = k) := by
  induction ts generalizing p with
  | nil => simp
  | cons t rest ih =>
    rw [List.foldl_cons, ih, mem_docs_remove]
    simp only [List.mem_cons, exists_eq_or_imp]
    constructor
    · rintro ⟨⟨hmem, hfirst⟩, hrest⟩
      refine ⟨hmem, ?_⟩
      rintro ⟨hd, hk | h⟩
      · exact hfirst ⟨hd, hk.symm⟩
      · exact hrest ⟨hd, h⟩
    · -- the document stays under the key of the first term and under those of the rest
      rintro ⟨hmem, hnone⟩
      exact ⟨⟨hmem, fun ⟨hd, hk⟩ => hnone ⟨hd, Or.inl hk.symm⟩⟩,
        fun ⟨hd, h⟩ => hnone ⟨hd, Or.inr h⟩⟩

theorem Tidy.foldl_remove {p : Postings} (h : p.Tidy) (key : String → String) (d : Nat)
    (ts : List String) : (ts.foldl (fun p t => p.remove d (key t)) p).Tidy := by
  induction ts generalizing p with
  | nil => exact h
  | cons t rest ih => exact ih (h.remove d (key t))

/-! ## Many terms -/

theorem mem_docs_iff {p : Postings} {t : String} {d : Nat} :
    d ∈ p.docs t ↔ ∃ docs, (t, docs) ∈ p.entries ∧ d ∈ docs := by
  unfold docs
  cases hget : p.get? t with
  | none =>
    simp only [Option.getD_none, SortedSet.not_mem_empty, false_iff]
    rintro ⟨docs, hmem, -⟩
    rw [← OrderedMap.get?_eq_some_iff, hget] at hmem
    cases hmem
  | some docs =>
    simp only [Option.getD_some]
    constructor
    · intro h
      exact ⟨docs, OrderedMap.get?_eq_some_iff.mp hget, h⟩
    · -- a term is listed once
      rintro ⟨docs', hmem, h⟩
      rw [← OrderedMap.get?_eq_some_iff, hget] at hmem
      obtain rfl := Option.some.inj hmem
      exact h

theorem mem_foldl_union {test : String → Bool} {d : Nat} {es : List (String × DocSet)}
    {found : DocSet} :
    d ∈ es.foldl (fun found e => if test e.1 then found.union e.2 else found) found
      ↔ d ∈ found ∨ ∃ e ∈ es, test e.1 = true ∧ d ∈ e.2 := by
  induction es generalizing found with
  | nil => simp
  | cons e rest ih =>
    rw [List.foldl_cons, ih]
    simp only [List.mem_cons, exists_eq_or_imp]
    by_cases htest : test e.1 = true
    · simp [htest, or_assoc]
    · simp [htest]

/-- A document is collected exactly if one of its terms passes the test. -/
theorem mem_collect {p : Postings} {test : String → Bool} {d : Nat} :
    d ∈ p.collect test ↔ ∃ t, test t = true ∧ d ∈ p.docs t := by
  rw [collect, mem_foldl_union]
  constructor
  · rintro (h | ⟨e, he, htest, hd⟩)
    · exact absurd h SortedSet.not_mem_empty
    · exact ⟨e.1, htest, mem_docs_iff.mpr ⟨e.2, he, hd⟩⟩
  · rintro ⟨t, htest, hd⟩
    obtain ⟨docs, hmem, hd⟩ := mem_docs_iff.mp hd
    exact Or.inr ⟨(t, docs), hmem, htest, hd⟩

end Postings

end ContentSearch
