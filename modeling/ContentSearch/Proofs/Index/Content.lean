import ContentSearch.Proofs.Index.Scan

/-!
# The content of a snapshot

What a snapshot holds is an entry for each identifier in use; the numbers of the documents and the
layout of the indexes only serve to find it. Additions and removals change the content at one
identifier, and snapshots with the same content answer every predicate alike.
-/

namespace ContentSearch

/-- What is under an identifier after a change. -/
def Change.entryAfter (identifier : String) (before : Option Entry) : Change → Option Entry
  | .insert e => if identifier = e.identifier then some e else before
  | .remove removed => if identifier = removed then none else before

/-- Removals leave what is not removed. -/
theorem Change.foldl_entryAfter_remove (identifier : String) (before : Option Entry)
    (removed : List String) :
    (removed.map Change.remove).foldl (Change.entryAfter identifier) before
      = if identifier ∈ removed then none else before := by
  induction removed generalizing before with
  | nil => rfl
  | cons now rest ih =>
    rw [List.map_cons, List.foldl_cons, ih, Change.entryAfter]
    by_cases hrest : identifier ∈ rest
    · rw [if_pos hrest, if_pos (List.mem_cons_of_mem now hrest)]
    · simp only [hrest, List.mem_cons, or_false, if_false]

/-- Of several entries the last one with the identifier counts, and without one what was there
before. -/
theorem Change.foldl_entryAfter_insert (identifier : String) (before : Option Entry)
    (added : List Entry) :
    (added.map Change.insert).foldl (Change.entryAfter identifier) before
      = (added.reverse.find? (·.identifier == identifier)).or before := by
  induction added generalizing before with
  | nil => rfl
  | cons e rest ih =>
    rw [List.map_cons, List.foldl_cons, ih, Change.entryAfter, List.reverse_cons,
      List.find?_append, Option.or_assoc]
    congr 1
    by_cases hid : identifier = e.identifier
    · simp [hid]
    · simp [hid, Ne.symm hid]

/-- Whether a change uses up a number. -/
def Change.addsEntry : Change → Bool
  | .insert _ => true
  | .remove _ => false

namespace Snapshot

/-- The entry in use under an identifier. -/
def entryOf? (s : Snapshot) (identifier : String) : Option Entry :=
  (s.docIds.get? identifier).bind s.entry?

/-- The entries in use, in the order of their numbers. -/
def liveEntries (s : Snapshot) : List Entry :=
  s.live.toList.filterMap s.entry?

/-- Two snapshots hold the same entries, under whatever numbers. -/
def SameContent (s t : Snapshot) : Prop :=
  ∀ identifier, s.entryOf? identifier = t.entryOf? identifier

/-! ## Entries by identifier -/

variable {s t : Snapshot}

/-- The entry of an identifier is the one that is there under some number and has the identifier. -/
theorem Consistent.entryOf?_eq_some_iff (h : s.Consistent) {identifier : String} {e : Entry} :
    s.entryOf? identifier = some e
      ↔ (∃ d, s.entry? d = some e) ∧ e.identifier = identifier := by
  rw [entryOf?, Option.bind_eq_some_iff]
  constructor
  · rintro ⟨d, hd, he⟩
    obtain ⟨e', he', hid⟩ := h.docIds.mp hd
    obtain rfl := Option.some.inj (he.symm.trans he')
    exact ⟨⟨d, he⟩, hid⟩
  · rintro ⟨⟨d, he⟩, hid⟩
    exact ⟨d, h.docIds.mpr ⟨e, he, hid⟩, he⟩

/-- The entries in use are those that are there under some number. -/
theorem Consistent.mem_liveEntries (h : s.Consistent) {e : Entry} :
    e ∈ s.liveEntries ↔ ∃ d, s.entry? d = some e := by
  rw [liveEntries, List.mem_filterMap]
  constructor
  · rintro ⟨d, -, he⟩
    exact ⟨d, he⟩
  · rintro ⟨d, he⟩
    exact ⟨d, h.mem_live.mpr ⟨e, he⟩, he⟩

/-- The entries in use are the content, entry by entry. -/
theorem Consistent.mem_liveEntries_iff_entryOf? (h : s.Consistent) {e : Entry} :
    e ∈ s.liveEntries ↔ s.entryOf? e.identifier = some e := by
  rw [h.mem_liveEntries, h.entryOf?_eq_some_iff, and_iff_left rfl]

/-- No two entries in use have one identifier. -/
theorem Consistent.pairwise_liveEntries (h : s.Consistent) :
    s.liveEntries.Pairwise fun a b => a.identifier ≠ b.identifier :=
  List.Pairwise.filterMap s.entry?
    (fun _ _ hlt _ he _ he' hsame => Nat.ne_of_lt hlt (h.doc_unique he he' hsame)) s.live.sorted

/-- Two tests find the same documents if and only if they agree on the entries in use. -/
theorem Consistent.docsWhere_eq_iff (h : s.Consistent) {test₁ test₂ : Entry → Bool} :
    s.docsWhere test₁ = s.docsWhere test₂ ↔ ∀ e ∈ s.liveEntries, test₁ e = test₂ e := by
  constructor
  · intro heq e he
    obtain ⟨d, hd⟩ := h.mem_liveEntries.mp he
    rw [Bool.eq_iff_iff, ← passes_iff hd, ← passes_iff hd, ← h.mem_docsWhere, ← h.mem_docsWhere,
      heq]
  · intro hagree
    refine SortedSet.eq_of_mem_iff fun d => ?_
    rw [h.mem_docsWhere, h.mem_docsWhere]
    exact passes_congr fun e he => hagree e (h.mem_liveEntries.mpr ⟨d, he⟩)

/-- With the same content, the same entries are there. -/
theorem SameContent.exists_entry (h : s.SameContent t) (hs : s.Consistent) (ht : t.Consistent)
    {e : Entry} : (∃ d, s.entry? d = some e) ↔ ∃ d, t.entry? d = some e := by
  rw [← hs.mem_liveEntries, ← ht.mem_liveEntries, hs.mem_liveEntries_iff_entryOf?,
    ht.mem_liveEntries_iff_entryOf?, h]

/-! ## Numbers -/

theorem nextDoc_remove (s : Snapshot) (identifier : String) :
    (s.remove identifier).1.nextDoc = s.nextDoc := by
  cases hget : s.docIds.get? identifier with
  | none => rw [remove_of_none hget]
  | some d =>
    rw [remove_of_some hget]
    rfl

/-- While numbers are left, an entry is placed after the earlier one is dropped. -/
theorem insert_of_lt {e : Entry} (hroom : s.nextDoc < lastDoc) :
    s.insert e = ((s.remove e.identifier).1.place e, .ok ()) := by
  have hcleared : (s.remove e.identifier).1.nextDoc < lastDoc := by rwa [nextDoc_remove]
  unfold insert
  simp only [if_pos hcleared]

/-- Without a number left, the earlier entry is dropped nevertheless. -/
theorem insert_of_not_lt {e : Entry} (hfull : ¬s.nextDoc < lastDoc) :
    s.insert e = ((s.remove e.identifier).1, .error .exhausted) := by
  have hcleared : ¬(s.remove e.identifier).1.nextDoc < lastDoc := by rwa [nextDoc_remove]
  unfold insert
  simp only [if_neg hcleared]

/-- An insertion takes one number. -/
theorem nextDoc_insert {e : Entry} (hroom : s.nextDoc < lastDoc) :
    (s.insert e).1.nextDoc = s.nextDoc + 1 := by
  rw [insert_of_lt hroom, nextDoc_place, nextDoc_remove]

/-! ## Changes -/

/-- Removal takes the entry of its identifier and no other. -/
theorem Consistent.entryOf?_remove (h : s.Consistent) (removed identifier : String) :
    (s.remove removed).1.entryOf? identifier
      = if identifier = removed then none else s.entryOf? identifier := by
  refine Option.ext fun e => ?_
  rw [(h.remove removed).entryOf?_eq_some_iff]
  cases hget : s.docIds.get? removed with
  | none =>
    -- nothing is removed, and nothing has the identifier
    rw [remove_of_none hget, ← h.entryOf?_eq_some_iff]
    split
    · rename_i hid
      rw [hid, entryOf?, hget, Option.bind_none]
    · rfl
  | some d =>
    obtain ⟨old, hold, hid⟩ := h.docIds.mp hget
    rw [remove_of_some hget]
    simp only [entry_drop_iff]
    split
    · -- the number that goes is the only one with the identifier
      rename_i hsame
      refine iff_of_false ?_ (by simp)
      rintro ⟨⟨d', he, hne⟩, hide⟩
      exact hne (h.doc_unique he hold (hide.trans (hsame.trans hid.symm)))
    · rename_i hother
      rw [h.entryOf?_eq_some_iff]
      constructor
      · rintro ⟨⟨d', he, -⟩, hide⟩
        exact ⟨⟨d', he⟩, hide⟩
      · rintro ⟨⟨d', he⟩, hide⟩
        refine ⟨⟨d', he, ?_⟩, hide⟩
        rintro rfl
        rw [hold] at he
        exact hother (hide.symm.trans (Option.some.inj he ▸ hid))

/-- A placed entry is found under its identifier, and the others as before. -/
theorem Consistent.entryOf?_place (h : s.Consistent) {e : Entry}
    (hnew : s.docIds.get? e.identifier = none) (identifier : String) :
    (s.place e).entryOf? identifier
      = if identifier = e.identifier then some e else s.entryOf? identifier := by
  refine Option.ext fun e' => ?_
  rw [(h.place hnew).entryOf?_eq_some_iff]
  simp only [entry_place_iff]
  split
  · rename_i hid
    rw [Option.some.injEq]
    constructor
    · rintro ⟨⟨d, ⟨-, rfl⟩ | ⟨-, he'⟩⟩, hide⟩
      · rfl
      · -- the identifier was free
        rw [h.docIds.mpr ⟨e', he', hide.trans hid⟩] at hnew
        cases hnew
    · rintro rfl
      exact ⟨⟨s.nextDoc, Or.inl ⟨rfl, rfl⟩⟩, hid.symm⟩
  · rename_i hid
    rw [h.entryOf?_eq_some_iff]
    constructor
    · rintro ⟨⟨d, ⟨-, rfl⟩ | ⟨-, he'⟩⟩, hide⟩
      · exact absurd hide.symm hid
      · exact ⟨⟨d, he'⟩, hide⟩
    · rintro ⟨⟨d, he'⟩, hide⟩
      exact ⟨⟨d, Or.inr ⟨Nat.ne_of_lt (h.lt_nextDoc he'), he'⟩⟩, hide⟩

/-- An entry that gets a number takes the place of the one with its identifier. -/
theorem Consistent.entryOf?_insert (h : s.Consistent) {e : Entry}
    (hroom : s.nextDoc < lastDoc) (identifier : String) :
    (s.insert e).1.entryOf? identifier
      = if identifier = e.identifier then some e else s.entryOf? identifier := by
  rw [insert_of_lt hroom, (h.remove e.identifier).entryOf?_place (s.docIds_remove _),
    h.entryOf?_remove]
  by_cases hid : identifier = e.identifier
  · rw [if_pos hid, if_pos hid]
  · rw [if_neg hid, if_neg hid, if_neg hid]

/-! ## Histories -/

/-- Removals take no numbers. -/
theorem nextDoc_foldl_remove (s : Snapshot) (removed : List String) :
    ((removed.map Change.remove).foldl apply s).nextDoc = s.nextDoc := by
  induction removed generalizing s with
  | nil => rfl
  | cons identifier rest ih =>
    rw [List.map_cons, List.foldl_cons, ih, apply, nextDoc_remove]

/-- As long as numbers are left, the content is what the changes say, one after the other. -/
theorem Consistent.entryOf?_foldl_apply (h : s.Consistent) {changes : List Change}
    (hroom : s.nextDoc + changes.countP Change.addsEntry ≤ lastDoc) (identifier : String) :
    (changes.foldl Snapshot.apply s).entryOf? identifier
      = changes.foldl (Change.entryAfter identifier) (s.entryOf? identifier) := by
  induction changes generalizing s with
  | nil => rfl
  | cons c rest ih =>
    cases c with
    | insert e =>
      rw [List.countP_cons_of_pos rfl] at hroom
      have hlt : s.nextDoc < lastDoc := by omega
      have hnext := nextDoc_insert (e := e) hlt
      rw [List.foldl_cons, List.foldl_cons, Snapshot.apply, Change.entryAfter,
        ← h.entryOf?_insert hlt identifier]
      exact ih (h.insert e) (by omega)
    | remove removed =>
      rw [List.countP_cons_of_neg (by simp [Change.addsEntry])] at hroom
      rw [List.foldl_cons, List.foldl_cons, Snapshot.apply, Change.entryAfter,
        ← h.entryOf?_remove removed identifier]
      exact ih (h.remove removed) (by rwa [nextDoc_remove])

/-- No change gives out the last number. -/
theorem nextDoc_apply_le (h : s.nextDoc ≤ lastDoc) (c : Change) :
    (s.apply c).nextDoc ≤ lastDoc := by
  cases c with
  | remove identifier =>
    rw [apply, nextDoc_remove]
    exact h
  | insert e =>
    rw [apply]
    by_cases hroom : s.nextDoc < lastDoc
    · rw [nextDoc_insert hroom]
      exact hroom
    · rw [insert_of_not_lt hroom, nextDoc_remove]
      exact h

/-- No history gives out more numbers than there are. -/
theorem nextDoc_ofHistory_le (history : List Change) : (ofHistory history).nextDoc ≤ lastDoc := by
  suffices hall : ∀ {s : Snapshot}, s.nextDoc ≤ lastDoc →
      (history.foldl apply s).nextDoc ≤ lastDoc from hall (Nat.zero_le _)
  induction history with
  | nil => exact fun h => h
  | cons c rest ih => exact fun h => ih (nextDoc_apply_le h c)

/-- The content is what is left of a history, read for each identifier alone. -/
theorem entryOf?_ofHistory {history : List Change}
    (hroom : history.countP Change.addsEntry ≤ lastDoc) (identifier : String) :
    (ofHistory history).entryOf? identifier
      = history.foldl (Change.entryAfter identifier) none := by
  have hempty : Snapshot.empty.nextDoc + history.countP Change.addsEntry ≤ lastDoc := by
    rwa [Snapshot.empty, Nat.zero_add]
  exact Consistent.empty.entryOf?_foldl_apply hempty identifier

/-! ## Answers -/

section
variable {engine : Regex.Engine}

/-- Documents of two snapshots are those that pass one test. -/
def FindAlike (s t : Snapshot) (test : Entry → Bool) (docs docs' : DocSet) : Prop :=
  (∀ {d}, d ∈ docs ↔ s.Passes d test) ∧ ∀ {d}, d ∈ docs' ↔ t.Passes d test

/-- What is in two sets is found alike if both of them find alike. -/
theorem FindAlike.inter {test₁ test₂ : Entry → Bool} {docs₁ docs₁' docs₂ docs₂' : DocSet}
    (h₁ : FindAlike s t test₁ docs₁ docs₁') (h₂ : FindAlike s t test₂ docs₂ docs₂') :
    FindAlike s t (fun e => test₁ e && test₂ e) (docs₁.inter docs₂) (docs₁'.inter docs₂') := by
  constructor
  · intro d
    rw [SortedSet.mem_inter, h₁.1, h₂.1, passes_and]
  · intro d
    rw [SortedSet.mem_inter, h₁.2, h₂.2, passes_and]

/-- With the same content, a test leaves no document of either snapshot or some of both. -/
theorem FindAlike.isEmpty_eq {test : Entry → Bool} {docs docs' : DocSet}
    (h : FindAlike s t test docs docs') (hsame : s.SameContent t) (hs : s.Consistent)
    (ht : t.Consistent) : docs.isEmpty = docs'.isEmpty := by
  have hexists : (∃ d, d ∈ docs) ↔ ∃ d, d ∈ docs' := by
    simp only [h.1, h.2, Passes]
    rw [exists_comm, exists_comm (p := fun d e => t.entry? d = some e ∧ test e = true)]
    simp only [exists_and_right, hsame.exists_entry hs ht]
  rw [Bool.eq_iff_iff, SortedSet.isEmpty_iff, SortedSet.isEmpty_iff, ← not_exists, ← not_exists,
    hexists]

/-- A predicate whose expressions the engine accepts is answered by both snapshots. -/
theorem alike_of_compiles (hs : s.Consistent) (ht : t.Consistent) {p : Predicate}
    (hp : p.compiles engine = true) :
    Outcome.EndAlike (FindAlike s t (·.satisfies engine p)) (s.evaluateWith engine p)
      (t.evaluateWith engine p) := by
  obtain ⟨docs, hdocs⟩ := evaluateWith_isOk (s := s) hp
  obtain ⟨docs', hdocs'⟩ := evaluateWith_isOk (s := t) hp
  rw [hdocs, hdocs']
  exact .ok ⟨hs.mem_evaluateWith hdocs, ht.mem_evaluateWith hdocs'⟩

/-- An expression that the engine refuses is refused by both snapshots. -/
theorem matchingDocs_alike (hs : s.Consistent) (ht : t.Consistent) {field expression : String}
    {caseSensitive : Bool} :
    Outcome.EndAlike (FindAlike s t (·.anyMatch engine field expression caseSensitive))
      (s.matchingDocs engine field expression caseSensitive)
      (t.matchingDocs engine field expression caseSensitive) := by
  cases hcompile : engine.compile expression caseSensitive with
  | error problem =>
    rw [matchingDocs, matchingDocs, hcompile]
    exact .error problem
  | ok test =>
    have haccepts : engine.accepts expression caseSensitive = true := by
      rw [Regex.Engine.accepts, hcompile]
      rfl
    obtain ⟨docs, hdocs⟩ := matchingDocs_isOk (s := s) field haccepts
    obtain ⟨docs', hdocs'⟩ := matchingDocs_isOk (s := t) field haccepts
    rw [hdocs, hdocs']
    exact .ok ⟨hs.mem_matchingDocs hdocs, ht.mem_matchingDocs hdocs'⟩

mutual

/-- Snapshots with the same content answer a predicate by the same entries, or refuse it for the
same reason. -/
theorem evaluateWith_alike (hsame : s.SameContent t) (hs : s.Consistent) (ht : t.Consistent) :
    ∀ p : Predicate,
      Outcome.EndAlike (FindAlike s t (·.satisfies engine p)) (s.evaluateWith engine p)
        (t.evaluateWith engine p)
  | .term .. | .range .. | .hasTerm _ | .fullText .. | .everything | .nothing =>
    alike_of_compiles hs ht (by simp only [Predicate.compiles])
  | .wildcard field pattern cs => by
    simp only [evaluateWith, Entry.satisfies]
    exact matchingDocs_alike hs ht
  | .regex field pattern cs => by
    simp only [evaluateWith, Entry.satisfies]
    exact matchingDocs_alike hs ht
  | .combined must should mustNot => by
    have hlive : FindAlike s t (fun _ => true) s.live t.live :=
      ⟨hs.passes_true.symm, ht.passes_true.symm⟩
    have hends : Outcome.EndAlike (fun _ _ => True)
        (s.evaluateWith engine (.combined must should mustNot))
        (t.evaluateWith engine (.combined must should mustNot)) := by
      simp only [evaluateWith]
      refine (narrow_alike hsame hs ht must hlive).bind fun {kept kept'} hkept => ?_
      -- the early end is reached by both snapshots or by none
      cases kept with
      | none =>
        cases kept' with
        | none => exact .ok trivial
        | some left' => cases hkept
      | some left =>
        cases kept' with
        | none => cases hkept
        | some left' =>
          simp only
          split
          · exact exclude_alike hsame hs ht mustNot left left'
          · have hunited : Outcome.EndAlike (fun _ _ => True)
                ((s.unite engine SortedSet.empty should).map left.inter)
                ((t.unite engine SortedSet.empty should).map left'.inter) :=
              (unite_alike hsame hs ht should SortedSet.empty SortedSet.empty).map id
            exact hunited.bind fun _ => exclude_alike hsame hs ht mustNot _ _
    exact hends.of_eq_ok fun hdocs hdocs' =>
      ⟨hs.mem_evaluateWith hdocs, ht.mem_evaluateWith hdocs'⟩

/-- Narrowing down comes to an early end on both sides or on neither. -/
theorem narrow_alike (hsame : s.SameContent t) (hs : s.Consistent) (ht : t.Consistent) :
    ∀ (clauses : List Predicate) {test : Entry → Bool} {docs docs' : DocSet},
      FindAlike s t test docs docs' →
      Outcome.EndAlike (fun left left' => left.isSome = left'.isSome)
        (s.narrow engine docs clauses) (t.narrow engine docs' clauses)
  | [], test, docs, docs', hdocs => by
    rw [narrow, narrow]
    exact .ok rfl
  | p :: rest, test, docs, docs', hdocs => by
    simp only [narrow]
    refine (evaluateWith_alike hsame hs ht p).bind fun {found found'} hfound => ?_
    have hleft := hdocs.inter hfound
    rw [hleft.isEmpty_eq hsame hs ht]
    split
    · exact .ok rfl
    · exact narrow_alike hsame hs ht rest hleft

/-- Uniting is refused on both sides or on neither. -/
theorem unite_alike (hsame : s.SameContent t) (hs : s.Consistent) (ht : t.Consistent) :
    ∀ (clauses : List Predicate) (docs docs' : DocSet),
      Outcome.EndAlike (fun _ _ => True) (s.unite engine docs clauses)
        (t.unite engine docs' clauses)
  | [], docs, docs' => by
    rw [unite, unite]
    exact .ok trivial
  | p :: rest, docs, docs' => by
    simp only [unite]
    exact (evaluateWith_alike hsame hs ht p).bind fun _ => unite_alike hsame hs ht rest _ _

/-- Excluding is refused on both sides or on neither. -/
theorem exclude_alike (hsame : s.SameContent t) (hs : s.Consistent) (ht : t.Consistent) :
    ∀ (clauses : List Predicate) (docs docs' : DocSet),
      Outcome.EndAlike (fun _ _ => True) (s.exclude engine docs clauses)
        (t.exclude engine docs' clauses)
  | [], docs, docs' => by
    rw [exclude, exclude]
    exact .ok trivial
  | p :: rest, docs, docs' => by
    simp only [exclude]
    exact (evaluateWith_alike hsame hs ht p).bind fun _ => exclude_alike hsame hs ht rest _ _

end

end

end Snapshot

end ContentSearch
