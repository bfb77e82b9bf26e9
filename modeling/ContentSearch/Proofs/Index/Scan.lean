import ContentSearch.Proofs.Index.History
import ContentSearch.Proofs.Outcome

/-!
# Answers are those of a scan

What a predicate says of an entry can be read on the terms of the entry alone. The main statement
is that asking the indexes of a snapshot gives the documents that reading their entries one by one
gives, for every history of the snapshot and every engine for expressions.
-/

namespace ContentSearch

/-! ## Reading an entry -/

namespace Entry

/-- Whether a term of the entry in a field passes a test, in lower case where case does not
matter. -/
def anyTerm (e : Entry) (field : String) (caseSensitive : Bool) (test : String → Bool) : Bool :=
  (e.termsIn field).any fun t => test (FieldIndex.lookupKey caseSensitive t)

/-- Whether a term of the entry in a field matches an expression. Nothing matches an expression
that the engine refuses. -/
def anyMatch (engine : Regex.Engine) (e : Entry) (field expression : String)
    (caseSensitive : Bool) : Bool :=
  match engine.compile expression caseSensitive with
  | .ok test => e.anyTerm field caseSensitive test
  | .error _ => false

/-- Whether the entry has all required and no excluded tokens of a clause in a field. -/
def meetsClause (e : Entry) (field : String) (k : SearchClause) : Bool :=
  k.required.all (e.termsIn field).contains && !k.excluded.any (e.termsIn field).contains

mutual

/-- Whether the entry satisfies a predicate. -/
def satisfies (engine : Regex.Engine) (e : Entry) : Predicate → Bool
  | .term field value cs => e.anyTerm field cs (· == FieldIndex.lookupKey cs value)
  | .range field lower upper cs => e.anyTerm field cs fun t =>
    (lower.map (FieldIndex.lookupKey cs)).admitsAbove t
      && (upper.map (FieldIndex.lookupKey cs)).admitsBelow t
  | .wildcard field pattern cs => e.anyMatch engine field (Wildcard.regex pattern) cs
  | .regex field pattern cs => e.anyMatch engine field pattern cs
  | .hasTerm field => !(e.termsIn field).isEmpty
  | .fullText field expression => (SearchExpression.ofText expression).any (e.meetsClause field)
  | .everything => true
  | .nothing => false
  | .combined must should mustNot =>
    e.satisfiesAll engine must && (should.isEmpty || e.satisfiesAny engine should)
      && !e.satisfiesAny engine mustNot

/-- Whether the entry satisfies all clauses. -/
def satisfiesAll (engine : Regex.Engine) (e : Entry) : List Predicate → Bool
  | [] => true
  | p :: rest => e.satisfies engine p && e.satisfiesAll engine rest

/-- Whether the entry satisfies one of the clauses. -/
def satisfiesAny (engine : Regex.Engine) (e : Entry) : List Predicate → Bool
  | [] => false
  | p :: rest => e.satisfies engine p || e.satisfiesAny engine rest

end

end Entry

/-- Whether the engine accepts an expression. -/
def Regex.Engine.accepts (engine : Regex.Engine) (expression : String) (caseSensitive : Bool) :
    Bool :=
  (engine.compile expression caseSensitive).isOk

namespace Predicate

mutual

/-- Whether the engine accepts all expressions of a predicate. -/
def compiles (engine : Regex.Engine) : Predicate → Bool
  | .wildcard _ pattern cs => engine.accepts (Wildcard.regex pattern) cs
  | .regex _ pattern cs => engine.accepts pattern cs
  | .combined must should mustNot =>
    allCompile engine must && allCompile engine should && allCompile engine mustNot
  | _ => true

/-- Whether the engine accepts all expressions of several predicates. -/
def allCompile (engine : Regex.Engine) : List Predicate → Bool
  | [] => true
  | p :: rest => p.compiles engine && allCompile engine rest

end

end Predicate

namespace Snapshot

variable {s : Snapshot} {engine : Regex.Engine}

/-- The documents in use whose entries pass a test, by reading every entry. -/
def docsWhere (s : Snapshot) (test : Entry → Bool) : DocSet :=
  s.live.filter fun d => s.entry? d |>.any test

/-- The documents in use whose entries satisfy a predicate. -/
def scan (engine : Regex.Engine) (s : Snapshot) (p : Predicate) : DocSet :=
  s.docsWhere (·.satisfies engine p)

/-! ## Tests of documents -/

/-- A document passes a test of entries. -/
def Passes (s : Snapshot) (d : Nat) (test : Entry → Bool) : Prop :=
  ∃ e, s.entry? d = some e ∧ test e = true

/-- A document passes a test if its entry does. -/
theorem passes_iff {d : Nat} {e : Entry} (he : s.entry? d = some e) {test : Entry → Bool} :
    s.Passes d test ↔ test e = true := by
  constructor
  · rintro ⟨e', he', htest⟩
    rwa [Option.some.inj (he.symm.trans he')] at *
  · intro htest
    exact ⟨e, he, htest⟩

/-- Only the entry of the document counts for the test. -/
theorem passes_congr {d : Nat} {test₁ test₂ : Entry → Bool}
    (h : ∀ e, s.entry? d = some e → test₁ e = test₂ e) : s.Passes d test₁ ↔ s.Passes d test₂ := by
  refine exists_congr fun e => and_congr_right fun he => ?_
  rw [h e he]

theorem passes_and {d : Nat} {test₁ test₂ : Entry → Bool} :
    s.Passes d (fun e => test₁ e && test₂ e) ↔ s.Passes d test₁ ∧ s.Passes d test₂ := by
  constructor
  · rintro ⟨e, he, htest⟩
    rw [Bool.and_eq_true] at htest
    exact ⟨⟨e, he, htest.1⟩, ⟨e, he, htest.2⟩⟩
  · rintro ⟨⟨e, he, htest⟩, h₂⟩
    rw [passes_iff he] at h₂
    exact ⟨e, he, by simp only [htest, h₂, Bool.and_self]⟩

theorem passes_or {d : Nat} {test₁ test₂ : Entry → Bool} :
    s.Passes d (fun e => test₁ e || test₂ e) ↔ s.Passes d test₁ ∨ s.Passes d test₂ := by
  simp only [Passes, Bool.or_eq_true, and_or_left, exists_or]

theorem passes_and_not {d : Nat} {test₁ test₂ : Entry → Bool} :
    s.Passes d (fun e => test₁ e && !test₂ e) ↔ s.Passes d test₁ ∧ ¬s.Passes d test₂ := by
  rw [passes_and]
  refine and_congr_right fun ⟨e, he, _⟩ => ?_
  rw [passes_iff he, passes_iff he, Bool.not_eq_true', Bool.not_eq_true]

/-- A test that every entry passes selects what is in use. -/
theorem Consistent.passes_true (h : s.Consistent) {d : Nat} :
    s.Passes d (fun _ => true) ↔ d ∈ s.live := by
  simp [Passes, h.mem_live]

theorem Consistent.live_of_passes (h : s.Consistent) {d : Nat} {test : Entry → Bool}
    (hd : s.Passes d test) : d ∈ s.live :=
  h.mem_live.mpr (hd.imp fun _ he => he.1)

theorem not_passes_false {d : Nat} : ¬s.Passes d (fun _ => false) := by
  rintro ⟨e, -, htest⟩
  cases htest

/-- Documents are selected by their entries. -/
theorem Consistent.mem_docsWhere (h : s.Consistent) {test : Entry → Bool} {d : Nat} :
    d ∈ s.docsWhere test ↔ s.Passes d test := by
  rw [docsWhere, SortedSet.mem_filter, Option.any_eq_true, h.mem_live]
  constructor
  · rintro ⟨-, e, he, htest⟩
    exact ⟨e, he, htest⟩
  · rintro ⟨e, he, htest⟩
    exact ⟨⟨e, he⟩, e, he, htest⟩

/-! ## One field -/

/-- A question to a field is answered by testing the terms of the entries, if the index of the
field answers it by testing the terms of the documents. -/
theorem Consistent.mem_onField_anyTerm (h : s.Consistent) {field : String}
    {ask : FieldIndex → DocSet} {caseSensitive : Bool} {test : String → Bool}
    (hask : ∀ {f : FieldIndex}, f.Consistent → ∀ {d},
      d ∈ ask f ↔ ∃ t ∈ f.termsAt d, test (FieldIndex.lookupKey caseSensitive t) = true)
    {d : Nat} :
    d ∈ s.onField field ask ↔ s.Passes d (·.anyTerm field caseSensitive test) := by
  rw [h.mem_onField ask _ hask]
  simp only [Passes, Entry.anyTerm, List.any_eq_true]

/-- Documents with a matching term are those whose entry has one. -/
theorem Consistent.mem_matchingDocs (h : s.Consistent) {field expression : String}
    {caseSensitive : Bool} {docs : DocSet}
    (hok : s.matchingDocs engine field expression caseSensitive = .ok docs) {d : Nat} :
    d ∈ docs ↔ s.Passes d (·.anyMatch engine field expression caseSensitive) := by
  unfold matchingDocs at hok
  unfold Entry.anyMatch
  cases hcompile : engine.compile expression caseSensitive with
  | error problem =>
    rw [hcompile] at hok
    cases hok
  | ok test =>
    rw [hcompile] at hok
    cases hok
    exact h.mem_onField_anyTerm fun hf => hf.mem_collect

/-- The documents present in a field are those whose entry has a term there. -/
theorem Consistent.mem_hasTerm (h : s.Consistent) {field : String} {d : Nat} :
    d ∈ s.onField field (·.present) ↔ s.Passes d fun e => !(e.termsIn field).isEmpty := by
  rw [h.mem_onField (·.present) (fun _ => True) fun {_} hf {d} => by
    simpa using hf.mem_present (d := d)]
  simp only [Passes, and_true, ← List.length_pos_iff_exists_mem, List.length_pos_iff,
    Bool.not_eq_true', List.isEmpty_eq_false_iff]

/-! ## Full-text expressions -/

/-- Words that are required narrow down what is found. -/
theorem mem_foldl_inter {f : FieldIndex} {d : Nat} {ts : List String} {docs : DocSet} :
    d ∈ ts.foldl (fun docs t => docs.inter (f.term t true)) docs
      ↔ d ∈ docs ∧ ∀ t ∈ ts, d ∈ f.term t true := by
  induction ts generalizing docs with
  | nil => simp
  | cons t rest ih => simp [ih, and_assoc]

/-- Words that are excluded take away from what is found. -/
theorem mem_foldl_diff {f : FieldIndex} {d : Nat} {ts : List String} {docs : DocSet} :
    d ∈ ts.foldl (fun docs t => docs.diff (f.term t true)) docs
      ↔ d ∈ docs ∧ ∀ t ∈ ts, d ∉ f.term t true := by
  induction ts generalizing docs with
  | nil => simp
  | cons t rest ih => simp [ih, and_assoc]

/-- The alternatives of an expression are united. -/
theorem mem_foldl_clauses {field? : Option FieldIndex} {domain : DocSet} {d : Nat}
    {clauses : SearchExpression} {found : DocSet} :
    d ∈ clauses.foldl (fun found k => found.union (k.docs field? domain)) found
      ↔ d ∈ found ∨ ∃ k ∈ clauses, d ∈ k.docs field? domain := by
  induction clauses generalizing found with
  | nil => simp
  | cons k rest ih => simp [ih, or_assoc]

/-- The documents of a clause are those whose entries meet it; in a missing field no entry has
a token. -/
theorem Consistent.mem_clauseDocs (h : s.Consistent) {field : String} {k : SearchClause}
    {d : Nat} :
    d ∈ k.docs (s.field? field) s.live ↔ s.Passes d (·.meetsClause field k) := by
  by_cases hd : d ∈ s.live
  · obtain ⟨e, he⟩ := h.mem_live.mp hd
    rw [passes_iff he, Entry.meetsClause, Bool.and_eq_true, List.all_eq_true, Bool.not_eq_true',
      List.any_eq_false]
    simp only [List.contains_iff_mem]
    cases hf : s.field? field with
    | none =>
      -- a clause that only excludes is met by entries without the field
      have hnone := h.not_mem_termsIn hf he
      unfold SearchClause.docs
      cases hrequired : k.required with
      | nil => simp [hd, hnone]
      | cons t rest =>
        refine iff_of_false SortedSet.not_mem_empty fun hall => ?_
        exact hnone t (hall.1 t List.mem_cons_self)
    | some f =>
      have hterm : ∀ t, d ∈ f.term t true ↔ t ∈ e.termsIn field := by
        intro t
        rw [(h.of_field? hf).mem_term, ← termsIn_of_field? hf]
        simp [FieldIndex.lookupKey, h.mem_termsIn, he]
      simp only [SearchClause.docs, mem_foldl_diff, mem_foldl_inter, hterm, hd, true_and]
  · -- a clause finds no document beyond those in use
    refine iff_of_false ?_ fun hpasses => hd (h.live_of_passes hpasses)
    unfold SearchClause.docs
    split
    · rw [mem_foldl_diff, mem_foldl_inter]
      exact fun hmem => hd hmem.1.1
    · split
      · exact hd
      · exact SortedSet.not_mem_empty

/-- A full-text expression finds the documents whose entries meet one of its clauses. -/
theorem Consistent.mem_fullText (h : s.Consistent) {field expression : String} {d : Nat} :
    d ∈ (SearchExpression.ofText expression).docs (s.field? field) s.live
      ↔ s.Passes d fun e => (SearchExpression.ofText expression).any (e.meetsClause field) := by
  rw [SearchExpression.docs, mem_foldl_clauses]
  simp only [h.mem_clauseDocs, Passes, List.any_eq_true]
  constructor
  · rintro (hempty | ⟨k, hk, e, he, hmeets⟩)
    · exact absurd hempty SortedSet.not_mem_empty
    · exact ⟨e, he, k, hk, hmeets⟩
  · rintro ⟨e, he, k, hk, hmeets⟩
    exact Or.inr ⟨k, hk, e, he, hmeets⟩

/-! ## Whole predicates -/

mutual

/-- The documents found for a predicate are those whose entries satisfy it. -/
theorem Consistent.mem_evaluateWith (h : s.Consistent) :
    ∀ {p : Predicate} {docs : DocSet}, s.evaluateWith engine p = .ok docs →
      ∀ {d}, d ∈ docs ↔ s.Passes d (·.satisfies engine p)
  | .term field value cs, docs, hok, d => by
    simp only [evaluateWith, Except.ok.injEq] at hok
    simp only [← hok, Entry.satisfies]
    exact h.mem_onField_anyTerm fun hf => hf.mem_term.trans (by simp only [beq_iff_eq])
  | .range field lower upper cs, docs, hok, d => by
    simp only [evaluateWith, Except.ok.injEq] at hok
    simp only [← hok, Entry.satisfies]
    exact h.mem_onField_anyTerm fun hf => hf.mem_range
  | .wildcard field pattern cs, docs, hok, d => by
    simp only [evaluateWith] at hok
    simp only [Entry.satisfies]
    exact h.mem_matchingDocs hok
  | .regex field pattern cs, docs, hok, d => by
    simp only [evaluateWith] at hok
    simp only [Entry.satisfies]
    exact h.mem_matchingDocs hok
  | .hasTerm field, docs, hok, d => by
    simp only [evaluateWith, Except.ok.injEq] at hok
    simp only [← hok, Entry.satisfies]
    exact h.mem_hasTerm
  | .fullText field expression, docs, hok, d => by
    simp only [evaluateWith, Except.ok.injEq] at hok
    simp only [← hok, Entry.satisfies]
    exact h.mem_fullText
  | .everything, docs, hok, d => by
    simp only [evaluateWith, Except.ok.injEq] at hok
    simp only [← hok, Entry.satisfies]
    exact h.passes_true.symm
  | .nothing, docs, hok, d => by
    simp only [evaluateWith, Except.ok.injEq] at hok
    simp only [← hok, Entry.satisfies]
    exact iff_of_false SortedSet.not_mem_empty not_passes_false
  | .combined must should mustNot, docs, hok, d => by
    simp only [evaluateWith] at hok
    obtain ⟨kept, hkept, hok⟩ := Outcome.bind_eq_ok hok
    -- the clauses that must hold narrow the documents in use
    have hmust := h.mem_narrow (fun hd => hd) hkept (d := d)
    rw [and_iff_right_of_imp h.live_of_passes] at hmust
    simp only [Entry.satisfies]
    rw [passes_and_not, passes_and, ← hmust]
    cases kept with
    | none =>
      -- no document satisfies all clauses that must hold
      obtain rfl := Except.ok.inj hok
      exact iff_of_false SortedSet.not_mem_empty fun hsat => SortedSet.not_mem_empty hsat.1.1
    | some left =>
      rw [Option.getD_some] at hmust ⊢
      simp only at hok
      split at hok
      · -- without clauses that should hold, every document is left
        rename_i hempty
        have hlive : d ∈ left → d ∈ s.live := fun hd => h.live_of_passes (hmust.mp hd)
        rw [h.mem_exclude hok, hempty]
        simp only [Bool.true_or, h.passes_true, and_iff_left_of_imp hlive]
      · -- the clauses that should hold are united and then met with what is left
        rename_i hne
        obtain ⟨both, hboth, hok⟩ := Outcome.bind_eq_ok hok
        obtain ⟨found, hfound, rfl⟩ := Outcome.map_eq_ok hboth
        rw [h.mem_exclude hok, SortedSet.mem_inter, h.mem_unite hfound]
        simp [hne]

/-- Clauses that must hold leave what passes all of them. An early end leaves nothing, which the
empty set stands for. -/
theorem Consistent.mem_narrow (h : s.Consistent) :
    ∀ {clauses : List Predicate} {docs : DocSet} {left? : Option DocSet},
      (∀ {d}, d ∈ docs → d ∈ s.live) → s.narrow engine docs clauses = .ok left? →
      ∀ {d}, d ∈ left?.getD SortedSet.empty
        ↔ d ∈ docs ∧ s.Passes d (·.satisfiesAll engine clauses)
  | [], docs, left?, hlive, hok, d => by
    simp only [narrow, Except.ok.injEq] at hok
    simp only [← hok, Entry.satisfiesAll, Option.getD_some]
    exact ⟨fun hd => ⟨hd, h.passes_true.mpr (hlive hd)⟩, And.left⟩
  | p :: rest, docs, left?, hlive, hok, d => by
    simp only [narrow] at hok
    obtain ⟨found, hfound, hok⟩ := Outcome.bind_eq_ok hok
    have hp := h.mem_evaluateWith hfound (d := d)
    simp only [Entry.satisfiesAll]
    rw [passes_and, ← and_assoc, ← hp, ← SortedSet.mem_inter]
    split at hok
    · -- the remaining clauses have no document to lose
      rename_i hempty
      obtain rfl := Except.ok.inj hok
      refine iff_of_false SortedSet.not_mem_empty fun hd => ?_
      exact SortedSet.isEmpty_iff.mp hempty d hd.1
    · exact h.mem_narrow (fun hd => hlive (SortedSet.mem_inter.mp hd).1) hok

/-- Clauses that should hold add what passes one of them. -/
theorem Consistent.mem_unite (h : s.Consistent) :
    ∀ {clauses : List Predicate} {docs more : DocSet},
      s.unite engine docs clauses = .ok more →
      ∀ {d}, d ∈ more ↔ d ∈ docs ∨ s.Passes d (·.satisfiesAny engine clauses)
  | [], docs, more, hok, d => by
    simp only [unite, Except.ok.injEq] at hok
    simp only [← hok, Entry.satisfiesAny, not_passes_false, or_false]
  | p :: rest, docs, more, hok, d => by
    simp only [unite] at hok
    obtain ⟨found, hfound, hok⟩ := Outcome.bind_eq_ok hok
    have hp := h.mem_evaluateWith hfound (d := d)
    simp only [Entry.satisfiesAny]
    rw [passes_or, ← or_assoc, ← hp, ← SortedSet.mem_union]
    exact h.mem_unite hok

/-- Clauses that must not hold take away what passes one of them. -/
theorem Consistent.mem_exclude (h : s.Consistent) :
    ∀ {clauses : List Predicate} {docs left : DocSet},
      s.exclude engine docs clauses = .ok left →
      ∀ {d}, d ∈ left ↔ d ∈ docs ∧ ¬s.Passes d (·.satisfiesAny engine clauses)
  | [], docs, left, hok, d => by
    simp only [exclude, Except.ok.injEq] at hok
    simp only [← hok, Entry.satisfiesAny, not_passes_false, not_false_eq_true, and_true]
  | p :: rest, docs, left, hok, d => by
    simp only [exclude] at hok
    obtain ⟨found, hfound, hok⟩ := Outcome.bind_eq_ok hok
    have hp := h.mem_evaluateWith hfound (d := d)
    simp only [Entry.satisfiesAny]
    rw [passes_or, not_or, ← and_assoc, ← hp, ← SortedSet.mem_diff]
    exact h.mem_exclude hok

end

/-! ## Predicates that are answered -/

/-- An accepted expression is evaluated. -/
theorem matchingDocs_isOk (field : String) {expression : String} {caseSensitive : Bool}
    (h : engine.accepts expression caseSensitive = true) :
    ∃ docs, s.matchingDocs engine field expression caseSensitive = .ok docs := by
  unfold Regex.Engine.accepts at h
  unfold matchingDocs
  cases hcompile : engine.compile expression caseSensitive with
  | error problem =>
    rw [hcompile] at h
    cases h
  | ok test => exact ⟨_, rfl⟩

mutual

/-- A predicate is answered if the engine accepts all its expressions. -/
theorem evaluateWith_isOk :
    ∀ {p : Predicate}, p.compiles engine = true → ∃ docs, s.evaluateWith engine p = .ok docs
  | .term field value cs, h => by
    rw [evaluateWith]
    exact ⟨_, rfl⟩
  | .range field lower upper cs, h => by
    rw [evaluateWith]
    exact ⟨_, rfl⟩
  | .wildcard field pattern cs, h => by
    rw [Predicate.compiles] at h
    rw [evaluateWith]
    exact matchingDocs_isOk field h
  | .regex field pattern cs, h => by
    rw [Predicate.compiles] at h
    rw [evaluateWith]
    exact matchingDocs_isOk field h
  | .hasTerm field, h => by
    rw [evaluateWith]
    exact ⟨_, rfl⟩
  | .fullText field expression, h => by
    rw [evaluateWith]
    exact ⟨_, rfl⟩
  | .everything, h => by
    rw [evaluateWith]
    exact ⟨_, rfl⟩
  | .nothing, h => by
    rw [evaluateWith]
    exact ⟨_, rfl⟩
  | .combined must should mustNot, h => by
    simp only [Predicate.compiles, Bool.and_eq_true] at h
    obtain ⟨⟨hmust, hshould⟩, hnot⟩ := h
    obtain ⟨kept, hkept⟩ := narrow_isOk hmust s.live
    rw [evaluateWith, hkept]
    cases kept with
    | none => exact ⟨_, rfl⟩
    | some left =>
      obtain ⟨found, hfound⟩ := unite_isOk hshould SortedSet.empty
      simp only [bind, Except.bind, hfound, Except.map]
      split
      · exact exclude_isOk hnot _
      · exact exclude_isOk hnot _

/-- Clauses whose expressions are accepted are evaluated, whether or not all of them are reached. -/
theorem narrow_isOk :
    ∀ {clauses : List Predicate}, Predicate.allCompile engine clauses = true →
      ∀ docs, ∃ left?, s.narrow engine docs clauses = .ok left?
  | [], h, docs => by
    rw [narrow]
    exact ⟨_, rfl⟩
  | p :: rest, h, docs => by
    simp only [Predicate.allCompile, Bool.and_eq_true] at h
    obtain ⟨found, hfound⟩ := evaluateWith_isOk h.1
    simp only [narrow, hfound, bind, Except.bind]
    split
    · exact ⟨_, rfl⟩
    · exact narrow_isOk h.2 _

theorem unite_isOk :
    ∀ {clauses : List Predicate}, Predicate.allCompile engine clauses = true →
      ∀ docs, ∃ more, s.unite engine docs clauses = .ok more
  | [], h, docs => by
    rw [unite]
    exact ⟨_, rfl⟩
  | p :: rest, h, docs => by
    simp only [Predicate.allCompile, Bool.and_eq_true] at h
    obtain ⟨found, hfound⟩ := evaluateWith_isOk h.1
    simp only [unite, hfound, bind, Except.bind]
    exact unite_isOk h.2 _

theorem exclude_isOk :
    ∀ {clauses : List Predicate}, Predicate.allCompile engine clauses = true →
      ∀ docs, ∃ left, s.exclude engine docs clauses = .ok left
  | [], h, docs => by
    rw [exclude]
    exact ⟨_, rfl⟩
  | p :: rest, h, docs => by
    simp only [Predicate.allCompile, Bool.and_eq_true] at h
    obtain ⟨found, hfound⟩ := evaluateWith_isOk h.1
    simp only [exclude, hfound, bind, Except.bind]
    exact exclude_isOk h.2 _

end

/-- A predicate that asks of the entries what a test does is answered by the documents that pass the
test. -/
theorem Consistent.evaluateWith_eq_docsWhere (h : s.Consistent) {p : Predicate}
    {test : Entry → Bool} (htest : ∀ e, e.satisfies engine p = test e) :
    (∀ docs, s.evaluateWith engine p = .ok docs → docs = s.docsWhere test)
      ∧ (p.compiles engine = true → s.evaluateWith engine p = .ok (s.docsWhere test)) := by
  have hdocs : ∀ docs, s.evaluateWith engine p = .ok docs → docs = s.docsWhere test := by
    intro docs hok
    refine SortedSet.eq_of_mem_iff fun d => ?_
    rw [h.mem_evaluateWith hok, h.mem_docsWhere]
    exact passes_congr fun e _ => htest e
  refine ⟨hdocs, fun hcompiles => ?_⟩
  obtain ⟨docs, hok⟩ := evaluateWith_isOk (s := s) hcompiles
  rw [hok, hdocs docs hok]

/-- Asking the indexes is reading the entries: whatever has been added and removed, an answer to
a predicate is the set of the documents whose entries satisfy it, and there is an answer whenever
the engine accepts all expressions of the predicate. -/
theorem evaluateWith_eq_scan (engine : Regex.Engine) (history : List Change) (p : Predicate) :
    (∀ docs, (ofHistory history).evaluateWith engine p = .ok docs →
        docs = (ofHistory history).scan engine p)
      ∧ (p.compiles engine = true →
        (ofHistory history).evaluateWith engine p
          = .ok ((ofHistory history).scan engine p)) := by
  have h := consistent_ofHistory history
  have hscan : ∀ docs, (ofHistory history).evaluateWith engine p = .ok docs →
      docs = (ofHistory history).scan engine p := by
    intro docs hok
    refine SortedSet.eq_of_mem_iff fun d => ?_
    rw [h.mem_evaluateWith hok, scan, h.mem_docsWhere]
  refine ⟨hscan, fun hcompiles => ?_⟩
  obtain ⟨docs, hok⟩ := evaluateWith_isOk (s := ofHistory history) hcompiles
  rw [hok, hscan docs hok]

/-- One entry is replaced, another one removed. -/
def replacedAndRemoved : List Change :=
  [.insert (Entry.named "a" "one"), .insert (Entry.named "b" "Two"),
    .insert (Entry.named "a" "TWO"), .remove "b"]

/-- Clauses of all three kinds, with a field that no entry has, a full-text expression that only
excludes, and a range that is upside down. -/
def mixedClauses : Predicate :=
  .combined [.regex Field.name "^tw.*$" false]
    [.hasTerm "absent", .fullText Field.name "-one"]
    [.range Field.name (.included "z") (.excluded "b") true]

/-- Only the version that came last is found. What was replaced or removed is not. -/
theorem evaluateWith_eq_scan_mixedClauses :
    mixedClauses.compiles Regex.engine = true
      ∧ ∃ docs, (ofHistory replacedAndRemoved).evaluateWith Regex.engine mixedClauses = .ok docs
        ∧ docs = (ofHistory replacedAndRemoved).scan Regex.engine mixedClauses
        ∧ docs.toList = [2] := by
  have hcompiles : mixedClauses.compiles Regex.engine = true := by decide +kernel
  have hscan := evaluateWith_eq_scan Regex.engine replacedAndRemoved mixedClauses
  refine ⟨hcompiles, _, hscan.2 hcompiles, hscan.1 _ (hscan.2 hcompiles), ?_⟩
  decide +kernel

end Snapshot

end ContentSearch
