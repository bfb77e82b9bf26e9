import ContentSearch.Proofs.Index.History
import Mathlib.Algebra.Ring.Nat

/-!
# Scores

The score of a document counts the tokens that the full-text clauses of a predicate ask for and that
the document has. The main statement says which clauses count, which of their tokens, and that
the tokens of a document are searched by halving a list that is in order, so that none is missed.
-/

namespace ContentSearch

/-! ## Searching by halves -/

namespace SortedSet

section
variable {α : Type} [LT α] [DecidableLT α]

/-- Searches a list that is in ascending order: compares with the element in the middle, and goes on
in the half that is left. -/
def searchHalves (a : α) (l : List α) : Bool :=
  if hmiddle : l.length / 2 < l.length then
    if a < l[l.length / 2] then searchHalves a (l.take (l.length / 2))
    else if l[l.length / 2] < a then searchHalves a (l.drop (l.length / 2 + 1))
    else true
  else false
termination_by l.length
decreasing_by
  all_goals
    simp only [List.length_take, List.length_drop]
    omega

variable [LE α] [Std.LawfulOrderLT α] [Std.IsLinearOrder α]

omit [DecidableLT α] in
theorem mem_front_of_lt {a b : α} {front back : List α} (h : (front ++ b :: back).Pairwise (· < ·))
    (hlt : a < b) : a ∈ front ++ b :: back ↔ a ∈ front := by
  rw [List.pairwise_append, List.pairwise_cons] at h
  rw [List.mem_append, List.mem_cons]
  refine ⟨?_, Or.inl⟩
  rintro (hfront | rfl | hback)
  · exact hfront
  · exact absurd hlt Std.lt_irrefl
  · exact absurd (Std.lt_trans hlt (h.2.1.1 a hback)) Std.lt_irrefl

omit [DecidableLT α] in
theorem mem_back_of_lt {a b : α} {front back : List α} (h : (front ++ b :: back).Pairwise (· < ·))
    (hlt : b < a) : a ∈ front ++ b :: back ↔ a ∈ back := by
  rw [List.pairwise_append] at h
  rw [List.mem_append, List.mem_cons]
  refine ⟨?_, fun hback => Or.inr (Or.inr hback)⟩
  rintro (hfront | rfl | hback)
  · exact absurd (Std.lt_trans hlt (h.2.2 a hfront b List.mem_cons_self)) Std.lt_irrefl
  · exact absurd hlt Std.lt_irrefl
  · exact hback

/-- The search finds all elements of a list that is in order. -/
theorem searchHalves_iff {a : α} {l : List α} (h : l.Pairwise (· < ·)) :
    searchHalves a l = true ↔ a ∈ l := by
  induction hlength : l.length using Nat.strongRecOn generalizing l with
  | ind n ih =>
    subst hlength
    rw [searchHalves]
    split
    · rename_i hmiddle
      -- the list falls into two halves and the element between them
      have hsplit : l = l.take (l.length / 2) ++ l[l.length / 2] :: l.drop (l.length / 2 + 1) := by
        rw [← List.drop_eq_getElem_cons hmiddle, List.take_append_drop]
      have hordered := hsplit ▸ h
      split
      · rename_i hbelow
        rw [ih _ (by rw [List.length_take]; omega)
          (h.sublist (List.take_sublist (l.length / 2) l)) rfl, ← mem_front_of_lt hordered hbelow,
          ← hsplit]
      · rename_i hbelow
        split
        · rename_i habove
          rw [ih _ (by rw [List.length_drop]; omega)
            (h.sublist (List.drop_sublist (l.length / 2 + 1) l)) rfl,
            ← mem_back_of_lt hordered habove, ← hsplit]
        · rename_i habove
          have heq : a = l[l.length / 2] :=
            Std.le_antisymm (Std.not_lt.mp habove) (Std.not_lt.mp hbelow)
          exact iff_of_true rfl (heq ▸ List.getElem_mem hmiddle)
    · rename_i hmiddle
      have hnil : l = [] := List.eq_nil_of_length_eq_zero (by omega)
      simp [hnil]

end

/-- Whether a set has a member can be told by halving its list. -/
theorem contains_eq_searchHalves {α : Type} [LT α] [DecidableLT α] [DecidableEq α] [LE α]
    [Std.LawfulOrderLT α] [Std.IsLinearOrder α] (s : SortedSet α) (a : α) :
    s.contains a = searchHalves a s.toList := by
  rw [Bool.eq_iff_iff, contains_iff, searchHalves_iff s.sorted, mem_toList]

end SortedSet

/-! ## Clauses that count -/

namespace Predicate

mutual

/-- The fields and expressions of the full-text clauses that count for the score. -/
def scoredClauses : Predicate → List (String × String)
  | .fullText field expression => [(field, expression)]
  | .combined must should _ => scoredClausesOf must ++ scoredClausesOf should
  | .term .. | .range .. | .wildcard .. | .regex .. | .hasTerm _ | .everything | .nothing => []

/-- Those of several clauses. -/
def scoredClausesOf : List Predicate → List (String × String)
  | [] => []
  | p :: rest => p.scoredClauses ++ scoredClausesOf rest

end

/-- A full-text clause that counts is the predicate itself, or it counts in a clause that must or
should hold. -/
inductive Counts : Predicate → String → String → Prop
  | self (field expression : String) : Counts (.fullText field expression) field expression
  | must {must should mustNot : List Predicate} {p : Predicate} {field expression : String}
      (hp : p ∈ must) (h : Counts p field expression) :
      Counts (.combined must should mustNot) field expression
  | should {must should mustNot : List Predicate} {p : Predicate} {field expression : String}
      (hp : p ∈ should) (h : Counts p field expression) :
      Counts (.combined must should mustNot) field expression

theorem mem_scoredClausesOf {clauses : List Predicate} {c : String × String} :
    c ∈ scoredClausesOf clauses ↔ ∃ p ∈ clauses, c ∈ p.scoredClauses := by
  induction clauses with
  | nil => simp [scoredClausesOf]
  | cons p rest ih => simp [scoredClausesOf, ih]

theorem Counts.mem_scoredClauses {p : Predicate} {field expression : String}
    (h : p.Counts field expression) : (field, expression) ∈ p.scoredClauses := by
  induction h with
  | self field expression => exact List.mem_singleton.mpr rfl
  | must hp _ ih =>
    rw [scoredClauses, List.mem_append]
    exact Or.inl (mem_scoredClausesOf.mpr ⟨_, hp, ih⟩)
  | should hp _ ih =>
    rw [scoredClauses, List.mem_append]
    exact Or.inr (mem_scoredClausesOf.mpr ⟨_, hp, ih⟩)

mutual

theorem counts_of_mem_scoredClauses {field expression : String} :
    ∀ {p : Predicate}, (field, expression) ∈ p.scoredClauses → p.Counts field expression
  | .fullText _ _, h => by
    obtain ⟨rfl, rfl⟩ := Prod.mk.inj (List.mem_singleton.mp h)
    exact .self _ _
  | .combined must should mustNot, h => by
    rw [scoredClauses, List.mem_append] at h
    rcases h with h | h
    · obtain ⟨p, hp, hcounts⟩ := exists_counts_of_mem h
      exact .must hp hcounts
    · obtain ⟨p, hp, hcounts⟩ := exists_counts_of_mem h
      exact .should hp hcounts
  | .term .., h | .range .., h | .wildcard .., h | .regex .., h | .hasTerm _, h
  | .everything, h | .nothing, h => (List.not_mem_nil h).elim

theorem exists_counts_of_mem {field expression : String} :
    ∀ {clauses : List Predicate}, (field, expression) ∈ scoredClausesOf clauses →
      ∃ p ∈ clauses, p.Counts field expression
  | [], h => (List.not_mem_nil h).elim
  | p :: rest, h => by
    rw [scoredClausesOf, List.mem_append] at h
    rcases h with h | h
    · exact ⟨p, List.mem_cons_self, counts_of_mem_scoredClauses h⟩
    · obtain ⟨p', hp', hcounts⟩ := exists_counts_of_mem h
      exact ⟨p', List.mem_cons_of_mem p hp', hcounts⟩

end

theorem mem_scoredClauses_iff {p : Predicate} {field expression : String} :
    (field, expression) ∈ p.scoredClauses ↔ p.Counts field expression :=
  ⟨counts_of_mem_scoredClauses, Counts.mem_scoredClauses⟩

end Predicate

/-! ## Tokens that count -/

/-- How many of the required tokens of all alternatives are among these; a token that is required
again counts again. -/
def SearchExpression.matched (e : SearchExpression) (tokens : List String) : Nat :=
  (e.map fun k => k.required.countP tokens.contains).sum

theorem SearchExpression.countP_scoringTerms (e : SearchExpression) (tokens : List String) :
    e.scoringTerms.countP tokens.contains = e.matched tokens := by
  rw [scoringTerms, List.countP_flatMap]
  rfl

/-- What counts is which tokens there are, not how often. -/
theorem SearchExpression.matched_congr (e : SearchExpression) {tokens tokens' : List String}
    (h : ∀ t, t ∈ tokens ↔ t ∈ tokens') : e.matched tokens = e.matched tokens' := by
  have hcontains : tokens.contains = tokens'.contains := by
    funext t
    rw [Bool.eq_iff_iff, List.contains_iff_mem, List.contains_iff_mem, h]
  rw [matched, matched, hcontains]

namespace Snapshot

variable {s : Snapshot} {doc : Nat}

/-- The score of one clause is the number of its tokens that are kept for the document. -/
theorem hits_fullText (field expression : String) :
    s.hits doc (.fullText field expression)
      = (SearchExpression.ofText expression).matched (termsIn s.fields field doc).toList := by
  have hnone : (SearchExpression.ofText expression).matched [] = 0 := by
    simp [← SearchExpression.countP_scoringTerms]
  rw [hits, field?, termsIn]
  cases s.fields.get? field with
  | none => exact hnone.symm
  | some f =>
    rw [Option.getD_some, FieldIndex.termsAt]
    simp only [SearchExpression.hits]
    cases f.termsOf? doc with
    | none => exact hnone.symm
    | some terms =>
      have hcontains : terms.contains = terms.toList.contains := by
        funext t
        rw [Bool.eq_iff_iff, SortedSet.contains_iff, List.contains_iff_mem, SortedSet.mem_toList]
      show (SearchExpression.ofText expression).scoringTerms.countP terms.contains = _
      rw [hcontains, SearchExpression.countP_scoringTerms]
      rfl

mutual

/-- The score of a predicate is the sum over the clauses that count. -/
theorem hits_eq_sum :
    ∀ p : Predicate, s.hits doc p
      = (p.scoredClauses.map fun c => s.hits doc (.fullText c.1 c.2)).sum
  | .fullText field expression => by simp [Predicate.scoredClauses]
  | .combined must should mustNot => by
    rw [hits, totalHits_eq_sum must, totalHits_eq_sum should, Predicate.scoredClauses,
      List.map_append, List.sum_append]
  | .term .. | .range .. | .wildcard .. | .regex .. | .hasTerm _ | .everything | .nothing => rfl

theorem totalHits_eq_sum :
    ∀ clauses : List Predicate, s.totalHits doc clauses
      = ((Predicate.scoredClausesOf clauses).map fun c => s.hits doc (.fullText c.1 c.2)).sum
  | [] => rfl
  | p :: rest => by
    rw [totalHits, hits_eq_sum p, totalHits_eq_sum rest, Predicate.scoredClausesOf,
      List.map_append, List.sum_append]

end

/-- The tokens kept for a document are those of its entry. -/
theorem Consistent.termsIn_eq (h : s.Consistent) {e : Entry} (he : s.entry? doc = some e)
    (field : String) : termsIn s.fields field doc = SortedSet.ofList (e.termsIn field) := by
  refine SortedSet.eq_of_mem_iff fun t => ?_
  rw [h.mem_termsIn, SortedSet.mem_ofList, he]
  simp

/-- Whatever has been added and removed, the score of a document in use is a sum over the full-text
clauses that count, which are reached through clauses that must or should hold: the number of their
required tokens, of all alternatives and with repetition, that the entry of the document has in the
field. The tokens of the entry are kept in order, so that a search by halves finds each of them. -/
theorem hits_ofHistory (history : List Change) {doc : Nat}
    (hlive : doc ∈ (ofHistory history).live) :
    ∃ e, Snapshot.entry? (ofHistory history) doc = some e
      ∧ (∀ p : Predicate, (ofHistory history).hits doc p
          = (p.scoredClauses.map fun c =>
              (SearchExpression.ofText c.2).matched (e.termsIn c.1)).sum
        ∧ ∀ field expression, (field, expression) ∈ p.scoredClauses ↔ p.Counts field expression)
      ∧ ∀ field, termsIn (ofHistory history).fields field doc
          = SortedSet.ofList (e.termsIn field)
        ∧ ∀ t, (termsIn (ofHistory history).fields field doc).contains t
            = SortedSet.searchHalves t (termsIn (ofHistory history).fields field doc).toList
          ∧ ((termsIn (ofHistory history).fields field doc).contains t = true
            ↔ t ∈ e.termsIn field) := by
  have h := consistent_ofHistory history
  obtain ⟨e, he⟩ := h.mem_live.mp hlive
  have hkept : ∀ field t, t ∈ (termsIn (ofHistory history).fields field doc).toList
      ↔ t ∈ e.termsIn field := by
    intro field t
    rw [h.termsIn_eq he, SortedSet.mem_toList, SortedSet.mem_ofList]
  refine ⟨e, he, fun p => ⟨?_, fun field expression => Predicate.mem_scoredClauses_iff⟩, ?_⟩
  · rw [hits_eq_sum]
    refine congrArg List.sum (List.map_congr_left fun c _ => ?_)
    rw [hits_fullText]
    exact SearchExpression.matched_congr _ (hkept c.1)
  · intro field
    refine ⟨h.termsIn_eq he field, fun t => ⟨SortedSet.contains_eq_searchHalves _ t, ?_⟩⟩
    rw [SortedSet.contains_iff]
    exact hkept field t

/-- A saga with its title. -/
def saga (identifier title : String) : Entry :=
  ((Entry.named identifier identifier).inTable "saga").withProperty
    (Property.single "title" (Value.string title))

/-- The first saga gets another title. -/
def sagas : List Change :=
  [.insert (saga "a" "Ice"), .insert (saga "b" "Fire and ice"), .insert (saga "a" "Fire on fire")]

/-- The fire is asked for twice, in two alternatives; another clause is below one that should hold,
and the last one must not hold. -/
def aboutFire : Predicate :=
  .combined [.fullText (Field.text "saga" "title") "fire OR ice -moon fire"]
    [.combined [] [.fullText (Field.text "saga" "title") "on \x22the fire\x22"] []]
    [.fullText (Field.text "saga" "title") "on"]

/-- Repeated words count again: the fire counts twice in the alternatives and once in the phrase,
the word beside the phrase counts once, and what must not hold counts nothing. -/
theorem hits_ofHistory_sagas :
    2 ∈ (ofHistory sagas).live ∧ (ofHistory sagas).hits 2 aboutFire = 4 := by
  have hlive : 2 ∈ (ofHistory sagas).live := SortedSet.contains_iff.mp (by decide +kernel)
  have hentry : Snapshot.entry? (ofHistory sagas) 2 = some (saga "a" "Fire on fire") := by
    decide +kernel
  obtain ⟨e, he, hhits, -⟩ := hits_ofHistory sagas hlive
  obtain rfl := Option.some.inj (hentry.symm.trans he)
  refine ⟨hlive, ?_⟩
  rw [(hhits aboutFire).1]
  decide +kernel

end Snapshot

end ContentSearch
