import ContentSearch.Proofs.Index.Path

/-!
# Full indexes

An entry cannot be inserted once all numbers have been given out. The main statement says when this
is so and what a refused insertion leaves behind: everything but the earlier entry of the
identifier, which is gone if there was one. Without an earlier entry the snapshot stays as it is.
-/

namespace ContentSearch.Snapshot

/-! ## Losing one entry -/

/-- The second snapshot is the first one without the entry of an identifier: the other entries have
their numbers, their terms and their paths as before, and are found as before by every term, as it
is and in lower case. -/
structure LosesOnly (s s' : Snapshot) (identifier : String) : Prop where
  entry_iff : ∀ {d e}, s'.entry? d = some e ↔ s.entry? d = some e ∧ e.identifier ≠ identifier
  docIds : ∀ other, s'.docIds.get? other
    = if other = identifier then none else s.docIds.get? other
  mem_live : ∀ {d}, d ∈ s'.live ↔ d ∈ s.live ∧ s.docIds.get? identifier ≠ some d
  docTerms? : ∀ field d, s.docIds.get? identifier ≠ some d →
    s'.docTerms? field d = s.docTerms? field d
  mem_terms : ∀ {field t d}, d ∈ s'.onField field (·.terms.docs t)
    ↔ d ∈ s.onField field (·.terms.docs t) ∧ s.docIds.get? identifier ≠ some d
  mem_folded : ∀ {field k d}, d ∈ s'.onField field (·.folded.docs k)
    ↔ d ∈ s.onField field (·.folded.docs k) ∧ s.docIds.get? identifier ≠ some d
  resolve : ∀ path, s'.resolve path = (s.resolve path).filter (· ≠ identifier)
  nextDoc : s'.nextDoc = s.nextDoc

variable {s : Snapshot}

/-- The number of an identifier is the number of the entry that has it. -/
theorem Consistent.docIds_ne_some_iff (h : s.Consistent) {identifier : String} {d : Nat}
    {e : Entry} (he : s.entry? d = some e) :
    s.docIds.get? identifier ≠ some d ↔ e.identifier ≠ identifier := by
  refine not_congr ?_
  rw [h.docIds]
  constructor
  · rintro ⟨e', he', rfl⟩
    rw [Option.some.inj (he.symm.trans he')]
  · intro hid
    exact ⟨e, he, hid⟩

theorem Consistent.entry_remove_iff (h : s.Consistent) {identifier : String} {d : Nat} {e : Entry} :
    Snapshot.entry? (s.remove identifier).1 d = some e
      ↔ s.entry? d = some e ∧ e.identifier ≠ identifier := by
  have hother : s.entry? d = some e → (s.docIds.get? identifier ≠ some d
      ↔ e.identifier ≠ identifier) := h.docIds_ne_some_iff
  cases hget : s.docIds.get? identifier with
  | none =>
    rw [remove_of_none hget]
    rw [hget] at hother
    exact ⟨fun he => ⟨he, (hother he).mp (by simp)⟩, And.left⟩
  | some d' =>
    rw [remove_of_some hget, entry_drop_iff]
    rw [hget] at hother
    refine and_congr_right fun he => ?_
    rw [← hother he, ne_eq, ne_eq, Option.some.injEq, eq_comm]

/-- Questions to a field find the other documents as before. -/
theorem Consistent.mem_onField_remove (h : s.Consistent) {identifier field : String}
    (ask : FieldIndex → DocSet) (accepts : String → Prop)
    (hask : ∀ {f : FieldIndex}, f.Consistent →
      ∀ {d}, d ∈ ask f ↔ ∃ t ∈ f.termsAt d, accepts t) {d : Nat} :
    d ∈ (s.remove identifier).1.onField field ask
      ↔ d ∈ s.onField field ask ∧ s.docIds.get? identifier ≠ some d := by
  rw [h.mem_onField ask accepts hask, (h.remove identifier).mem_onField ask accepts hask]
  simp only [h.entry_remove_iff]
  constructor
  · rintro ⟨e, ⟨he, hid⟩, hterm⟩
    exact ⟨⟨e, he, hterm⟩, (h.docIds_ne_some_iff he).mpr hid⟩
  · rintro ⟨⟨e, he, hterm⟩, hd⟩
    exact ⟨e, ⟨he, (h.docIds_ne_some_iff he).mp hd⟩, hterm⟩

/-- A path is given up if it leads to the removed entry. -/
theorem Consistent.resolve_remove (h : s.Consistent) (identifier path : String) :
    (s.remove identifier).1.resolve path = (s.resolve path).filter (· ≠ identifier) := by
  refine Option.ext fun other => ?_
  rw [Option.filter_eq_some_iff, decide_eq_true_eq]
  cases hget : s.docIds.get? identifier with
  | none =>
    rw [remove_of_none hget]
    refine ⟨fun hpath => ⟨hpath, ?_⟩, And.left⟩
    -- paths lead to identifiers in use
    rintro rfl
    obtain ⟨d, e, he, hid, -⟩ := h.resolve hpath
    rw [h.docIds.mpr ⟨e, he, hid⟩] at hget
    cases hget
  | some d =>
    have hdrop : (s.drop identifier d).resolve path = some other
        ↔ s.resolve path = some other
          ∧ (other = identifier → (s.entries.get? d).bind (·.path?) ≠ some path) :=
      resolve_releasePath_iff
    rw [remove_of_some hget, hdrop]
    refine and_congr_right fun hpath => ⟨?_, fun hne hsame => absurd hsame hne⟩
    -- the path of the removed entry is the one that leads to it
    rintro hother rfl
    obtain ⟨d', e, he, hid, hown⟩ := h.resolve hpath
    have hnumber : d' = d := by
      rw [h.docIds.mpr ⟨e, he, hid⟩] at hget
      exact Option.some.inj hget
    have hentry : s.entries.get? d = some e := hnumber ▸ he
    refine hother rfl ?_
    rw [hentry]
    exact hown

/-- Removing an entry changes nothing else. -/
theorem Consistent.losesOnly_remove (h : s.Consistent) (identifier : String) :
    s.LosesOnly (s.remove identifier).1 identifier where
  entry_iff := h.entry_remove_iff
  docIds := by
    intro other
    cases hget : s.docIds.get? identifier with
    | none =>
      rw [remove_of_none hget]
      split
      · rename_i hother
        rw [hother, hget]
      · rfl
    | some d => rw [remove_of_some hget, Snapshot.drop, OrderedMap.get?_erase]
  mem_live := by
    intro d
    rw [(h.remove identifier).mem_live, h.mem_live]
    simp only [h.entry_remove_iff]
    constructor
    · rintro ⟨e, he, hid⟩
      exact ⟨⟨e, he⟩, (h.docIds_ne_some_iff he).mpr hid⟩
    · rintro ⟨⟨e, he⟩, hd⟩
      exact ⟨e, he, (h.docIds_ne_some_iff he).mp hd⟩
  docTerms? := by
    intro field d hd
    rw [(h.remove identifier).docTerms?_eq, h.docTerms?_eq]
    have hentry : (s.remove identifier).1.entries.get? d = s.entries.get? d := by
      refine Option.ext fun e => ?_
      refine h.entry_remove_iff.trans ⟨And.left, fun he => ⟨he, ?_⟩⟩
      exact (h.docIds_ne_some_iff he).mp hd
    rw [hentry]
  mem_terms := by
    intro field t d
    exact h.mem_onField_remove (·.terms.docs t) (id · = t) fun hf => hf.mem_terms_id
  mem_folded := by
    intro field k d
    exact h.mem_onField_remove (·.folded.docs k) (Text.lower · = k) fun hf => hf.mem_folded
  resolve := h.resolve_remove identifier
  nextDoc := s.nextDoc_remove identifier

/-! ## Refused entries -/

/-- An entry is refused exactly if all numbers have been given out. -/
theorem insert_eq_error_iff {e : Entry} :
    (s.insert e).2 = .error .exhausted ↔ lastDoc ≤ s.nextDoc := by
  by_cases hroom : s.nextDoc < lastDoc
  · rw [insert_of_lt hroom]
    exact iff_of_false (fun h => by cases h) (Nat.not_le.mpr hroom)
  · rw [insert_of_not_lt hroom]
    exact iff_of_true rfl (Nat.not_lt.mp hroom)

/-- Only an entry that is there is removed. -/
theorem remove_eq_self_iff {identifier : String} :
    (s.remove identifier).1 = s ↔ s.docIds.get? identifier = none := by
  constructor
  · intro hsame
    rw [← hsame]
    exact s.docIds_remove identifier
  · intro hget
    rw [remove_of_none hget]

/-- An entry is refused exactly if all numbers have been given out. A snapshot that refuses an entry
loses the earlier entry with its identifier and nothing else, and it stays as it is if and only if
there is no such entry. -/
theorem Consistent.insert_refused (h : s.Consistent) (e : Entry) :
    ((s.insert e).2 = .error .exhausted ↔ lastDoc ≤ s.nextDoc)
      ∧ ((s.insert e).2 = .error .exhausted →
        s.LosesOnly (s.insert e).1 e.identifier ∧ (s.insert e).1.Consistent
          ∧ ((s.insert e).1 = s ↔ s.docIds.get? e.identifier = none)) := by
  refine ⟨insert_eq_error_iff, fun hrefused => ?_⟩
  have hfull := Nat.not_lt.mpr (insert_eq_error_iff.mp hrefused)
  rw [insert_of_not_lt hfull]
  exact ⟨h.losesOnly_remove e.identifier, h.remove e.identifier, remove_eq_self_iff⟩

/-! ## Numbers that are used up -/

/-- What comes of inserting one entry again and again. -/
def repeated (n : Nat) (e : Entry) : Snapshot :=
  ofHistory (List.replicate n (.insert e))

theorem consistent_repeated (n : Nat) (e : Entry) : (repeated n e).Consistent :=
  consistent_ofHistory _

theorem repeated_succ (n : Nat) (e : Entry) : repeated (n + 1) e = ((repeated n e).insert e).1 := by
  rw [repeated, List.replicate_succ', ← apply_ofHistory]
  rfl

/-- Each time gives out one number. -/
theorem nextDoc_repeated {n : Nat} (hn : n ≤ lastDoc) (e : Entry) : (repeated n e).nextDoc = n := by
  induction n with
  | zero => rfl
  | succ n ih =>
    have hbefore := ih (Nat.le_of_succ_le hn)
    have hroom : (repeated n e).nextDoc < lastDoc := by
      rw [hbefore]
      exact hn
    rw [repeated_succ, nextDoc_insert hroom, hbefore]

/-- After each time the entry is there. -/
theorem entryOf?_repeated {n : Nat} (hpositive : 0 < n) (hn : n ≤ lastDoc) (e : Entry) :
    (repeated n e).entryOf? e.identifier = some e := by
  cases n with
  | zero => exact absurd hpositive (Nat.lt_irrefl 0)
  | succ n =>
    have hroom : (repeated n e).nextDoc < lastDoc := by
      rw [nextDoc_repeated (Nat.le_of_succ_le hn)]
      exact hn
    rw [repeated_succ, (consistent_repeated n e).entryOf?_insert hroom, if_pos rfl]

/-- After as many insertions as there are numbers, the next one is refused. -/
theorem insert_repeated_eq_error (old new : Entry) :
    ((repeated lastDoc old).insert new).2 = .error .exhausted :=
  have hnext := nextDoc_repeated (Nat.le_refl lastDoc) old
  insert_eq_error_iff.mpr (Nat.le_of_eq hnext.symm)

/-- An index whose numbers all went to versions of one entry refuses another version of it. -/
theorem insert_refused_repeated :
    ((repeated lastDoc (Entry.named "a" "old")).insert (Entry.named "a" "new")).2
        = .error .exhausted
      ∧ (repeated lastDoc (Entry.named "a" "old")).LosesOnly
          ((repeated lastDoc (Entry.named "a" "old")).insert (Entry.named "a" "new")).1 "a" :=
  have hrefused := insert_repeated_eq_error (Entry.named "a" "old") (Entry.named "a" "new")
  have hafter := (consistent_repeated lastDoc (Entry.named "a" "old")).insert_refused
    (Entry.named "a" "new")
  ⟨hrefused, (hafter.2 hrefused).1⟩

-- The number of insertions stays a variable: with the literal the run would be evaluated.
/-- The entry that is there is lost when another version of it is refused. -/
theorem insert_repeated_lost {n : Nat} (hpositive : 0 < n) (hn : n = lastDoc) {old new : Entry}
    (hid : old.identifier = new.identifier) :
    (repeated n old).entryOf? new.identifier = some old
      ∧ ((repeated n old).insert new).1.entryOf? new.identifier = none := by
  have hfull : ¬ (repeated n old).nextDoc < lastDoc := by
    rw [nextDoc_repeated (Nat.le_of_eq hn), hn]
    exact Nat.lt_irrefl lastDoc
  constructor
  · rw [← hid]
    exact entryOf?_repeated hpositive (Nat.le_of_eq hn) old
  · rw [insert_of_not_lt hfull, (consistent_repeated n old).entryOf?_remove, if_pos rfl]

/-- A refused insertion is not without effect: the entry found before it is gone after it. -/
theorem insert_repeated_ne :
    (repeated lastDoc (Entry.named "a" "old")).Consistent
      ∧ ((repeated lastDoc (Entry.named "a" "old")).insert (Entry.named "a" "new")).2
        = .error .exhausted
      ∧ (repeated lastDoc (Entry.named "a" "old")).entryOf? "a" = some (Entry.named "a" "old")
      ∧ ((repeated lastDoc (Entry.named "a" "old")).insert (Entry.named "a" "new")).1.entryOf? "a"
        = none :=
  have hid : (Entry.named "a" "old").identifier = (Entry.named "a" "new").identifier := rfl
  have hlost := insert_repeated_lost (n := lastDoc) (by decide) rfl hid
  ⟨consistent_repeated lastDoc (Entry.named "a" "old"),
    insert_repeated_eq_error (Entry.named "a" "old") (Entry.named "a" "new"), hlost⟩

end ContentSearch.Snapshot
