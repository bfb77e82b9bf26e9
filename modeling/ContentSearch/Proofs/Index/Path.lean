import ContentSearch.Proofs.Index.Content
import Mathlib.Data.List.Induction

/-!
# Entries by their paths

A path leads to the entry that was given a number last of all entries with the path, as long as this
entry is in use. When it goes, the path is given up, also if an earlier entry with the same path is
still there. The main statements say when a path leads to an identifier, and when the entries in use
that have a path can be reached by it.
-/

namespace ContentSearch

/-- The entry that a change adds. -/
def Change.added? : Change → Option Entry
  | .insert e => some e
  | .remove _ => none

namespace Snapshot

/-! ## Numbered entries -/

/-- The entries that have been given numbers, in the order of their numbers. -/
def numbered (history : List Change) : List Entry :=
  (history.filterMap Change.added?).take lastDoc

/-- The number was given to an entry with the path, and no later number was. -/
structure IsLastAt (entries : List Entry) (path : String) (d : Nat) : Prop where
  own : ∃ e, entries[d]? = some e ∧ e.path? = some path
  later : ∀ {d' e}, d < d' → entries[d']? = some e → e.path? ≠ some path

theorem getElem?_concat_eq_some_iff {entries : List Entry} {e e' : Entry} {d : Nat} :
    (entries ++ [e])[d]? = some e'
      ↔ entries[d]? = some e' ∨ d = entries.length ∧ e' = e := by
  rw [List.getElem?_append]
  split
  · rename_i hlt
    simp [Nat.ne_of_lt hlt]
  · rename_i hge
    rw [List.getElem?_eq_none (Nat.le_of_not_lt hge), List.getElem?_singleton]
    simp only [Nat.sub_eq_zero_iff_le, Option.ite_none_right_eq_some, Option.some.injEq,
      reduceCtorEq, false_or]
    constructor
    · rintro ⟨hle, rfl⟩
      exact ⟨by omega, rfl⟩
    · rintro ⟨rfl, rfl⟩
      exact ⟨Nat.le_refl _, rfl⟩

/-- One more entry is the last one at its path, and changes nothing at other paths. -/
theorem isLastAt_concat_iff {entries : List Entry} {e : Entry} {path : String} {d : Nat} :
    IsLastAt (entries ++ [e]) path d
      ↔ if e.path? = some path then d = entries.length else IsLastAt entries path d := by
  have hlt : ∀ {d' e'}, entries[d']? = some e' → d' < entries.length := fun h =>
    (List.getElem?_eq_some_iff.mp h).1
  have hnew : (entries ++ [e])[entries.length]? = some e :=
    getElem?_concat_eq_some_iff.mpr (Or.inr ⟨rfl, rfl⟩)
  split
  · rename_i hpath
    constructor
    · rintro ⟨⟨e', hd, -⟩, hlater⟩
      rcases getElem?_concat_eq_some_iff.mp hd with hold | ⟨rfl, -⟩
      · exact absurd hpath (hlater (hlt hold) hnew)
      · rfl
    · rintro rfl
      refine ⟨⟨e, hnew, hpath⟩, fun {d' e'} hd' he' => ?_⟩
      rcases getElem?_concat_eq_some_iff.mp he' with hold | ⟨rfl, -⟩
      · exact absurd (hlt hold) (Nat.lt_asymm hd')
      · exact absurd hd' (Nat.lt_irrefl _)
  · rename_i hpath
    constructor
    · rintro ⟨⟨e', hd, hown⟩, hlater⟩
      rcases getElem?_concat_eq_some_iff.mp hd with hold | ⟨-, rfl⟩
      · exact ⟨⟨e', hold, hown⟩, fun hd' he'' =>
          hlater hd' (getElem?_concat_eq_some_iff.mpr (Or.inl he''))⟩
      · exact absurd hown hpath
    · rintro ⟨⟨e', hd, hown⟩, hlater⟩
      refine ⟨⟨e', getElem?_concat_eq_some_iff.mpr (Or.inl hd), hown⟩, fun hd' he'' => ?_⟩
      rcases getElem?_concat_eq_some_iff.mp he'' with hold | ⟨-, rfl⟩
      · exact hlater hd' hold
      · exact hpath

theorem numbered_concat_remove (history : List Change) (identifier : String) :
    numbered (history ++ [.remove identifier]) = numbered history := by
  have hadded : (history ++ [Change.remove identifier]).filterMap Change.added?
      = history.filterMap Change.added? := by
    rw [List.filterMap_append]
    exact List.append_nil _
  rw [numbered, numbered, hadded]

/-- An addition is numbered while numbers are left. -/
theorem numbered_concat_insert (history : List Change) (e : Entry) :
    numbered (history ++ [.insert e])
      = if (numbered history).length < lastDoc then numbered history ++ [e]
        else numbered history := by
  have hadded : (history ++ [Change.insert e]).filterMap Change.added?
      = history.filterMap Change.added? ++ [e] := by
    rw [List.filterMap_append]
    rfl
  rw [numbered, numbered, hadded, List.length_take]
  generalize history.filterMap Change.added? = added
  split
  · have hlength : (added ++ [e]).length ≤ lastDoc := by
      rw [List.length_append, List.length_singleton]
      omega
    rw [List.take_of_length_le hlength, List.take_of_length_le (by omega)]
  · rw [List.take_append_of_le_length (by omega)]

/-! ## Owners of paths -/

/-- A path is given up by the entry that it leads to, and by no other. -/
theorem resolve_releasePath_iff {paths : OrderedMap String String}
    {path identifier dropped : String} {path? : Option String} :
    (releasePath paths dropped path?).get? path = some identifier
      ↔ paths.get? path = some identifier ∧ (identifier = dropped → path? ≠ some path) := by
  refine ⟨resolve_releasePath, fun ⟨hget, hother⟩ => ?_⟩
  unfold releasePath
  split
  · rename_i own
    split
    · rename_i howner
      rw [OrderedMap.get?_erase, if_neg, hget]
      rintro rfl
      exact hother (Option.some.inj (hget.symm.trans howner)) rfl
    · exact hget
  · exact hget

/-- The numbers of a snapshot are those of a list of entries, and each path leads to the last entry
at the path, if this is in use. -/
structure Owns (s : Snapshot) (entries : List Entry) : Prop where
  consistent : s.Consistent
  nextDoc : s.nextDoc = entries.length
  entry : ∀ {d e}, s.entry? d = some e → entries[d]? = some e
  resolve_iff : ∀ {path identifier}, s.resolve path = some identifier
    ↔ ∃ d e, IsLastAt entries path d ∧ s.entry? d = some e ∧ e.identifier = identifier

namespace Owns

variable {s : Snapshot} {entries : List Entry}

theorem empty : Snapshot.empty.Owns [] where
  consistent := .empty
  nextDoc := rfl
  entry := fun h => by cases h
  resolve_iff := iff_of_false (fun h => by cases h) (fun ⟨_, _, _, h, _⟩ => by cases h)

theorem drop (h : s.Owns entries) {identifier : String} {d : Nat}
    (hd : s.docIds.get? identifier = some d) : (s.drop identifier d).Owns entries := by
  obtain ⟨dropped, hdropped, hid⟩ := h.consistent.docIds.mp hd
  refine ⟨h.consistent.drop hd, h.nextDoc, fun he => h.entry (entry_drop_iff.mp he).1, ?_⟩
  intro path identifier'
  have hresolve : (s.drop identifier d).resolve path = some identifier'
      ↔ s.resolve path = some identifier'
        ∧ (identifier' = identifier → dropped.path? ≠ some path) := by
    have hentry : s.entries.get? d = some dropped := hdropped
    unfold resolve Snapshot.drop
    rw [hentry]
    exact resolve_releasePath_iff
  rw [hresolve, h.resolve_iff]
  constructor
  · rintro ⟨⟨d', e, hlast, he, rfl⟩, hother⟩
    refine ⟨d', e, hlast, entry_drop_iff.mpr ⟨he, ?_⟩, rfl⟩
    -- the last entry at the path is not the dropped one, which would have given the path up
    rintro rfl
    obtain rfl := Option.some.inj (he.symm.trans hdropped)
    obtain ⟨e', he', hpath⟩ := hlast.own
    obtain rfl := Option.some.inj ((h.entry he).symm.trans he')
    exact hother hid hpath
  · rintro ⟨d', e, hlast, he, rfl⟩
    obtain ⟨he, hne⟩ := entry_drop_iff.mp he
    refine ⟨⟨d', e, hlast, he, rfl⟩, fun hsame => ?_⟩
    exact absurd (h.consistent.doc_unique he hdropped (hsame.trans hid.symm)) hne

theorem remove (h : s.Owns entries) (identifier : String) :
    (s.remove identifier).1.Owns entries := by
  cases hget : s.docIds.get? identifier with
  | none => rwa [remove_of_none hget]
  | some d =>
    rw [remove_of_some hget]
    exact h.drop hget

theorem place (h : s.Owns entries) {e : Entry} (hnew : s.docIds.get? e.identifier = none) :
    (s.place e).Owns (entries ++ [e]) := by
  refine ⟨h.consistent.place hnew, ?_, fun he => ?_, ?_⟩
  · rw [nextDoc_place, h.nextDoc, List.length_append, List.length_singleton]
  · rw [getElem?_concat_eq_some_iff, ← h.nextDoc]
    rcases entry_place_iff.mp he with ⟨hd, rfl⟩ | ⟨-, he⟩
    · exact Or.inr ⟨hd, rfl⟩
    · exact Or.inl (h.entry he)
  · intro path identifier
    have hresolve : (s.place e).resolve path
        = if e.path? = some path then some e.identifier else s.resolve path := by
      unfold resolve Snapshot.place
      cases e.path? with
      | none => rfl
      | some own =>
        simp only [OrderedMap.get?_insert, Option.some.injEq]
        split
        · rename_i hsame
          rw [if_pos hsame.symm]
        · rename_i hother
          rw [if_neg (Ne.symm hother)]
    rw [hresolve]
    simp only [isLastAt_concat_iff, entry_place_iff, ← h.nextDoc]
    split
    · -- the new entry is the last one at its path
      constructor
      · rintro ⟨⟩
        exact ⟨s.nextDoc, e, rfl, Or.inl ⟨rfl, rfl⟩, rfl⟩
      · rintro ⟨d, e', rfl, ⟨-, rfl⟩ | ⟨hne, -⟩, rfl⟩
        · rfl
        · exact absurd rfl hne
    · rw [h.resolve_iff]
      constructor
      · rintro ⟨d, e', hlast, he', hid⟩
        have hfresh : d ≠ s.nextDoc := Nat.ne_of_lt (h.consistent.lt_nextDoc he')
        exact ⟨d, e', hlast, Or.inr ⟨hfresh, he'⟩, hid⟩
      · rintro ⟨d, e', hlast, ⟨rfl, -⟩ | ⟨-, he'⟩, hid⟩
        · -- the number of the new entry was given to no earlier one
          obtain ⟨old, hold, -⟩ := hlast.own
          have hlt := (List.getElem?_eq_some_iff.mp hold).1
          exact absurd hlt (h.nextDoc ▸ Nat.lt_irrefl _)
        · exact ⟨d, e', hlast, he', hid⟩

/-- One change of a snapshot: a removal numbers nothing, and an addition its entry while numbers are
left. -/
theorem change {history : List Change} (h : (ofHistory history).Owns (numbered history))
    (c : Change) : (ofHistory (history ++ [c])).Owns (numbered (history ++ [c])) := by
  rw [← apply_ofHistory]
  cases c with
  | remove identifier =>
    rw [numbered_concat_remove]
    exact h.remove identifier
  | insert e =>
    rw [numbered_concat_insert, ← h.nextDoc]
    have hcleared := h.remove e.identifier
    show ((ofHistory history).insert e).1.Owns _
    split
    · rename_i hroom
      rw [insert_of_lt hroom]
      exact hcleared.place (docIds_remove _ e.identifier)
    · rename_i hfull
      rw [insert_of_not_lt hfull]
      exact hcleared

end Owns

/-- In whatever way entries have come and gone, each path leads to the last entry at the path. -/
theorem owns_ofHistory (history : List Change) :
    (ofHistory history).Owns (numbered history) := by
  induction history using List.reverseRecOn with
  | nil => exact Owns.empty
  | append_singleton history c ih => exact ih.change c

/-! ## Reaching entries -/

/-- If entries in use have the path, then it leads to one of them. -/
def Reaches (s : Snapshot) (path : String) : Prop :=
  ∀ d e, s.entry? d = some e → e.path? = some path →
    ∃ identifier d' e', s.resolve path = some identifier
      ∧ s.entry? d' = some e' ∧ e'.identifier = identifier ∧ e'.path? = some path

/-- The entries in use that have a path are reached by it if and only if there are none, or the last
entry at the path is one of them. -/
theorem reaches_ofHistory_iff (history : List Change) (path : String) :
    (ofHistory history).Reaches path
      ↔ (∀ d e, entry? (ofHistory history) d = some e → e.path? ≠ some path)
        ∨ ∃ d ∈ (ofHistory history).live, IsLastAt (numbered history) path d := by
  have h := owns_ofHistory history
  constructor
  · intro hreaches
    by_cases hnone : ∀ d e, entry? (ofHistory history) d = some e → e.path? ≠ some path
    · exact Or.inl hnone
    · push Not at hnone
      obtain ⟨d, e, he, hpath⟩ := hnone
      obtain ⟨identifier, -, -, hresolve, -⟩ := hreaches d e he hpath
      obtain ⟨d', e', hlast, he', -⟩ := h.resolve_iff.mp hresolve
      exact Or.inr ⟨d', h.consistent.mem_live.mpr ⟨e', he'⟩, hlast⟩
  · rintro (hnone | ⟨d', hd', hlast⟩) d e he hpath
    · exact absurd hpath (hnone d e he)
    · obtain ⟨e', he'⟩ := h.consistent.mem_live.mp hd'
      obtain ⟨own, hown, hpath'⟩ := hlast.own
      obtain rfl := Option.some.inj ((h.entry he').symm.trans hown)
      exact ⟨e'.identifier, d', e', h.resolve_iff.mpr ⟨d', e', hlast, he', rfl⟩, he', rfl, hpath'⟩

/-- Two entries have one path, and the later one is removed. -/
def sharedPath : List Change :=
  [.insert ((Entry.named "a" "a").withPath "/p"), .insert ((Entry.named "b" "b").withPath "/p"),
    .remove "b"]

/-- The earlier one can no longer be reached. -/
theorem not_reaches_sharedPath : ¬∀ history path, (ofHistory history).Reaches path := by
  intro hall
  have hentry : entry? (ofHistory sharedPath) 0
      = some ((Entry.named "a" "a").withPath "/p") := by decide +kernel
  obtain ⟨identifier, _, _, hresolve, -⟩ := hall sharedPath "/p" 0 _ hentry rfl
  have hnone : (ofHistory sharedPath).resolve "/p" = none := by decide +kernel
  rw [hnone] at hresolve
  cases hresolve

end Snapshot

end ContentSearch
