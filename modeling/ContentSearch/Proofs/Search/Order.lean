import ContentSearch.Proofs.Index.Content
import ContentSearch.Search.Results
import Mathlib.Data.String.Basic

/-!
# The order of results

What decides the order of two entries can be read on their terms: the least term of each key, the
score, and in the end the identifiers. The order in which an index lists its hits is this order,
and no two entries with different identifiers are left without one.
-/

namespace ContentSearch

/-! ## Reading two entries -/

namespace Entry

/-- What the entry is sorted by in a field: its least term, in lower case where case does not
matter. -/
def sortTerm (e : Entry) (field : String) (caseSensitive : Bool) : Option String :=
  (e.termsIn field).min?.map (FieldIndex.lookupKey caseSensitive)

mutual

/-- How many full-text tokens of a predicate the entry has, in the clauses that must or should
hold. -/
def hits (e : Entry) : Predicate → Nat
  | .fullText field expression =>
    (SearchExpression.ofText expression).scoringTerms.countP (e.termsIn field).contains
  | .combined must should _ => e.totalHits must + e.totalHits should
  | _ => 0

/-- The sum over several clauses. -/
def totalHits (e : Entry) : List Predicate → Nat
  | [] => 0
  | p :: rest => e.hits p + e.totalHits rest

end

/-- The score of the entry. -/
def score (e : Entry) (p : Predicate) : Nat :=
  scoreOfHits (e.hits p)

end Entry

namespace SortKey

/-- The first entry has less of what the key sorts by. A missing term is less than any term. -/
def Below (k : SortKey) (p : Predicate) (a b : Entry) : Prop :=
  match k.field with
  | .score => a.score p < b.score p
  | .field field => a.sortTerm field k.caseSensitive < b.sortTerm field k.caseSensitive

/-- The first entry comes before the second one by the key alone. -/
def Before (k : SortKey) (p : Predicate) (a b : Entry) : Prop :=
  match k.direction with
  | .ascending => k.Below p a b
  | .descending => k.Below p b a

end SortKey

/-- The first entry comes before the second one: by the first key that tells them apart, else by
identifier. -/
def Entry.Precedes (p : Predicate) : List SortKey → Entry → Entry → Prop
  | [], a, b => a.identifier < b.identifier
  | k :: rest, a, b => k.Before p a b ∨ ¬k.Before p b a ∧ Entry.Precedes p rest a b

/-! ## Terms and scores of a document -/

/-- The first member in order is the least one of the list. -/
theorem SortedSet.head?_ofList (l : List String) :
    (SortedSet.ofList l).toList.head? = l.min? := by
  refine Option.ext fun t => ?_
  rw [List.min?_eq_some_iff]
  have hmem : ∀ u, u ∈ (SortedSet.ofList l).toList ↔ u ∈ l := fun u => SortedSet.mem_ofList
  have hsorted := (SortedSet.ofList l).sorted
  cases hlist : (SortedSet.ofList l).toList with
  | nil =>
    rw [hlist] at hmem
    refine iff_of_false (by simp) fun h => ?_
    exact absurd ((hmem t).mpr h.1) List.not_mem_nil
  | cons first rest =>
    rw [hlist] at hmem hsorted
    have hfirst : ∀ u ∈ l, first ≤ u := by
      intro u hu
      rcases List.mem_cons.mp ((hmem u).mpr hu) with rfl | hrest
      · exact le_refl u
      · exact le_of_lt ((List.pairwise_cons.mp hsorted).1 u hrest)
    rw [List.head?_cons, Option.some.injEq]
    constructor
    · rintro rfl
      exact ⟨(hmem first).mp List.mem_cons_self, hfirst⟩
    · rintro ⟨ht, hleast⟩
      exact le_antisymm (hfirst t ht) (hleast first ((hmem first).mp List.mem_cons_self))

namespace Snapshot

variable {s : Snapshot}

theorem Consistent.docTerms?_of_entry (h : s.Consistent) {d : Nat} {e : Entry}
    (he : s.entry? d = some e) (field : String) :
    s.docTerms? field d
      = if e.termsIn field = [] then none else some (SortedSet.ofList (e.termsIn field)) := by
  have hget : s.entries.get? d = some e := he
  rw [h.docTerms?_eq, hget, Option.bind_some]

/-- The index keeps what an entry is sorted by. -/
theorem Consistent.sortTerm_eq (h : s.Consistent) {d : Nat} {e : Entry}
    (he : s.entry? d = some e) (field : String) (caseSensitive : Bool) :
    Plan.sortTerm s field caseSensitive d = e.sortTerm field caseSensitive := by
  have hdocTerms : ((s.field? field).bind fun f => f.termsOf? d) = s.docTerms? field d := rfl
  rw [Plan.sortTerm, Entry.sortTerm, hdocTerms, h.docTerms?_of_entry he,
    ← SortedSet.head?_ofList]
  by_cases hnil : e.termsIn field = []
  · rw [if_pos hnil, hnil]
    rfl
  · rw [if_neg hnil, Option.bind_some]

mutual

/-- The index counts the hits of an entry. -/
theorem Consistent.hits_eq (h : s.Consistent) {d : Nat} {e : Entry} (he : s.entry? d = some e) :
    ∀ p : Predicate, s.hits d p = e.hits p
  | .fullText field expression => by
    have hterms := h.docTerms?_of_entry he field
    have hnoTerms : ∀ tokens : List String, tokens.countP ([] : List String).contains = 0 :=
      fun tokens => List.countP_eq_zero.mpr (by simp)
    rw [docTerms?] at hterms
    simp only [hits, Entry.hits]
    cases hf : s.field? field with
    | none =>
      -- without the field, the entry has no term in it
      have hnone := h.not_mem_termsIn hf he
      rw [List.eq_nil_iff_forall_not_mem.mpr hnone, hnoTerms]
    | some f =>
      rw [hf, Option.bind_some] at hterms
      simp only [SearchExpression.hits, hterms]
      by_cases hnil : e.termsIn field = []
      · rw [if_pos hnil, hnil, hnoTerms]
      · rw [if_neg hnil]
        refine List.countP_congr fun t _ => ?_
        rw [SortedSet.contains_iff, SortedSet.mem_ofList, List.contains_iff_mem]
  | .combined must should _ => by
    simp only [hits, Entry.hits, h.totalHits_eq he must, h.totalHits_eq he should]
  | .term .. | .range .. | .wildcard .. | .regex .. | .hasTerm _ | .everything | .nothing => by
    simp only [hits, Entry.hits]

theorem Consistent.totalHits_eq (h : s.Consistent) {d : Nat} {e : Entry}
    (he : s.entry? d = some e) : ∀ clauses : List Predicate,
      s.totalHits d clauses = e.totalHits clauses
  | [] => by
    simp only [totalHits, Entry.totalHits]
  | p :: rest => by
    simp only [totalHits, Entry.totalHits, h.hits_eq he p, h.totalHits_eq he rest]

end

theorem Consistent.score_eq (h : s.Consistent) {d : Nat} {e : Entry} (he : s.entry? d = some e)
    (p : Predicate) : s.score p d = e.score p := by
  rw [score, Entry.score, h.hits_eq he]

end Snapshot

/-! ## Comparisons of hits -/

/-- A hit carries the entry and the score of its document. -/
structure Hit.IsOf (s : Snapshot) (p : Predicate) (h : Hit) : Prop where
  entry : s.entry? h.doc = some h.entry
  score : h.score = s.score p h.doc

namespace Plan

/-- Texts that may be missing are compared in the order of optional texts. -/
theorem compareTerms_eq (a b : Option String) : compareTerms a b = compare a b := by
  cases a with
  | none => cases b <;> rfl
  | some a => cases b <;> rfl

theorem compareTerms_eq_lt {a b : Option String} : compareTerms a b = .lt ↔ a < b := by
  cases a with
  | none => cases b <;> simp [compareTerms]
  | some a =>
    cases b with
    | none => simp [compareTerms]
    | some b =>
      rw [Option.some_lt_some]
      exact compareOfLessAndEq_eq_lt

/-- The order of two hits by what a key sorts by, whatever its direction. -/
def compareUpward (s : Snapshot) (k : SortKey) (a b : Hit) : Ordering :=
  match k.field with
  | .score => compareOfLessAndEq a.score b.score
  | .field field =>
    compareTerms (sortTerm s field k.caseSensitive a.doc)
      (sortTerm s field k.caseSensitive b.doc)

theorem compareByKey_eq (s : Snapshot) (k : SortKey) (a b : Hit) :
    compareByKey s k a b = match k.direction with
      | .ascending => compareUpward s k a b
      | .descending => (compareUpward s k a b).swap :=
  rfl

instance transCmp_compareUpward (s : Snapshot) (k : SortKey) :
    Std.TransCmp (compareUpward s k) := by
  unfold compareUpward
  -- hits are compared by the values that the key reads
  cases k.field with
  | score => exact inferInstanceAs (Std.TransCmp (compareOn fun a : Hit => a.score))
  | field field =>
    simp only [compareTerms_eq]
    exact inferInstanceAs (Std.TransCmp (compareOn fun a : Hit =>
      sortTerm s field k.caseSensitive a.doc))

instance transCmp_compareByKey (s : Snapshot) (k : SortKey) : Std.TransCmp (compareByKey s k) := by
  have hswap : ∀ a b, (compareUpward s k a b).swap = compareUpward s k b a :=
    fun a b => Std.OrientedCmp.eq_swap.symm
  have heq : compareByKey s k = match k.direction with
      | .ascending => compareUpward s k
      | .descending => fun a b => compareUpward s k b a := by
    funext a b
    rw [compareByKey_eq, hswap]
    cases k.direction <;> rfl
  rw [heq]
  cases k.direction with
  | ascending => exact transCmp_compareUpward s k
  | descending => exact Std.TransCmp.opposite

/-- Hits are compared by their keys one after the other, then by identifier. -/
theorem compareHits_cons (s : Snapshot) (k : SortKey) (rest : List SortKey) (a b : Hit) :
    compareHits s (k :: rest) a b = (compareByKey s k a b).then (compareHits s rest a b) :=
  rfl

instance transCmp_compareHits (s : Snapshot) (keys : List SortKey) :
    Std.TransCmp (compareHits s keys) := by
  induction keys with
  | nil => exact inferInstanceAs (Std.TransCmp (compareOn fun a : Hit => a.entry.identifier))
  | cons k rest ih =>
    exact inferInstanceAs (Std.TransCmp (compareLex (compareByKey s k) (compareHits s rest)))

/-- Hits that no key tells apart have one identifier. -/
theorem identifier_eq_of_compareHits {s : Snapshot} {keys : List SortKey} {a b : Hit}
    (h : compareHits s keys a b = .eq) : a.entry.identifier = b.entry.identifier := by
  induction keys with
  | nil => exact Std.LawfulEqOrd.eq_of_compare h
  | cons k rest ih =>
    rw [compareHits_cons, Ordering.then_eq_eq] at h
    exact ih h.2

/-! ## Comparisons of entries -/

section
variable {s : Snapshot} {p : Predicate} {a b : Hit}

theorem compareUpward_eq_lt (hs : s.Consistent) (ha : a.IsOf s p) (hb : b.IsOf s p)
    {k : SortKey} : compareUpward s k a b = .lt ↔ k.Below p a.entry b.entry := by
  unfold compareUpward SortKey.Below
  cases k.field with
  | score =>
    simp only [ha.score, hb.score, hs.score_eq ha.entry, hs.score_eq hb.entry]
    exact compareOfLessAndEq_eq_lt
  | field field =>
    simp only [hs.sortTerm_eq ha.entry, hs.sortTerm_eq hb.entry]
    exact compareTerms_eq_lt

theorem compareByKey_eq_lt (hs : s.Consistent) (ha : a.IsOf s p) (hb : b.IsOf s p)
    {k : SortKey} : compareByKey s k a b = .lt ↔ k.Before p a.entry b.entry := by
  rw [compareByKey_eq]
  unfold SortKey.Before
  cases k.direction with
  | ascending => exact compareUpward_eq_lt hs ha hb
  | descending =>
    simp only [Ordering.swap_eq_lt, Std.OrientedCmp.gt_iff_lt]
    exact compareUpward_eq_lt hs hb ha

/-- Hits are in the order of their entries. -/
theorem compareHits_eq_lt (hs : s.Consistent) (ha : a.IsOf s p) (hb : b.IsOf s p)
    {keys : List SortKey} :
    compareHits s keys a b = .lt ↔ Entry.Precedes p keys a.entry b.entry := by
  induction keys with
  | nil => exact compareOfLessAndEq_eq_lt
  | cons k rest ih =>
    have hlt := compareByKey_eq_lt hs ha hb (k := k)
    have hgt := compareByKey_eq_lt hs hb ha (k := k)
    rw [← Std.OrientedCmp.gt_iff_lt] at hgt
    rw [compareHits_cons, Entry.Precedes, Ordering.then_eq_lt, ih, ← hlt, ← hgt]
    -- a key that puts the entries in neither order leaves it to the keys after it
    cases compareByKey s k a b <;> simp

end

end Plan

/-! ## A strict order -/

theorem SortKey.Below.asymm {k : SortKey} {p : Predicate} {a b : Entry} (h : k.Below p a b) :
    ¬k.Below p b a := by
  intro h'
  unfold SortKey.Below at h h'
  cases hfield : k.field with
  | score =>
    simp only [hfield] at h h'
    exact Nat.lt_asymm h h'
  | field field =>
    simp only [hfield, ← Plan.compareTerms_eq_lt, Plan.compareTerms_eq] at h h'
    exact Std.OrientedCmp.not_lt_of_lt h h'

theorem SortKey.Before.asymm {k : SortKey} {p : Predicate} {a b : Entry} (h : k.Before p a b) :
    ¬k.Before p b a := by
  unfold SortKey.Before at h ⊢
  cases hdirection : k.direction with
  | ascending =>
    simp only [hdirection] at h ⊢
    exact h.asymm
  | descending =>
    simp only [hdirection] at h ⊢
    exact h.asymm

/-- No two entries come before each other. -/
theorem Entry.Precedes.asymm {p : Predicate} {keys : List SortKey} {a b : Entry}
    (h : Entry.Precedes p keys a b) : ¬Entry.Precedes p keys b a := by
  induction keys with
  | nil => exact fun h' => lt_asymm h h'
  | cons k rest ih =>
    rintro (hba | ⟨hnab, hrest⟩)
    · rcases h with hab | ⟨hnba, -⟩
      · exact hab.asymm hba
      · exact hnba hba
    · rcases h with hab | ⟨-, h⟩
      · exact hnab hab
      · exact ih h hrest

end ContentSearch
