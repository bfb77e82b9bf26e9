import ContentSearch.Proofs.Search.Results
import ContentSearch.Proofs.Search.Steps

/-!
# Updates are made as a whole

An update removes and adds entries one by one in a copy of the committed entries. The main
statement says what comes of it: a refused update leaves the service as it was, and after any other
one the content has the new entries, the last one under each identifier, and of the old entries
those that were not removed. The order of the removals cannot be noticed.
-/

namespace ContentSearch

namespace SearchService

/-! ## Services that can come about -/

/-- Everything that a service holds is the snapshot of a history. -/
structure Historic (s : SearchService) : Prop where
  committed : ∃ history, s.snapshot = Snapshot.ofHistory history
  staged : ∀ staged ∈ s.staged?, ∃ history, staged = Snapshot.ofHistory history

namespace Historic

variable {s : SearchService}

/-- What is published comes from a history if the new entries do. -/
theorem publish (h : s.Historic) {entries : Snapshot}
    (hentries : ∃ history, entries = Snapshot.ofHistory history) :
    (s.publish entries).Historic :=
  ⟨hentries, h.staged⟩

theorem withStaged (h : s.Historic) {staged? : Option Snapshot}
    (hstaged : ∀ staged ∈ staged?, ∃ history, staged = Snapshot.ofHistory history) :
    { s with staged? := staged? }.Historic :=
  ⟨h.committed, hstaged⟩

theorem discard (h : s.Historic) : s.discard.Historic :=
  h.withStaged fun _ hnone => by cases hnone

/-- An update begins with the published entries. -/
theorem beginUpdate (h : s.Historic) {begun : SearchService} (hbegun : s.beginUpdate = .ok begun) :
    begun.Historic := by
  unfold SearchService.beginUpdate at hbegun
  split at hbegun
  · cases hbegun
  · obtain rfl := Except.ok.inj hbegun
    exact h.withStaged fun staged hstaged => Option.some.inj hstaged ▸ h.committed

/-- A staged change goes on with the history of what is staged. -/
theorem stage (h : s.Historic) {staged : Snapshot} (hstaged : s.staged? = some staged)
    (change : Change) : (s.stage staged change).Historic := by
  obtain ⟨history, rfl⟩ := h.staged staged hstaged
  rw [stage_eq]
  refine h.withStaged fun next hnext => ⟨history ++ [change], ?_⟩
  rw [← Option.some.inj hnext, Snapshot.apply_ofHistory]

/-- A commit publishes a history that was staged. -/
theorem commitStaged (h : s.Historic) : s.commitStaged.Historic := by
  unfold SearchService.commitStaged
  split
  · rename_i staged hstaged
    exact (h.publish (h.staged staged hstaged)).discard
  · exact h

theorem stageRemovals (h : s.Historic) (identifiers : List String) :
    (s.stageRemovals identifiers).Historic := by
  induction identifiers generalizing s with
  | nil => exact h
  | cons identifier rest ih =>
    unfold SearchService.stageRemovals
    split
    · rename_i staged hstaged
      exact ih (h.stage hstaged (.remove identifier))
    · exact h

/-- The entries staged before one is refused are part of the history. -/
theorem stageEntries (h : s.Historic) (added : List Entry) : (s.stageEntries added).1.Historic := by
  induction added generalizing s with
  | nil => exact h
  | cons e rest ih =>
    unfold SearchService.stageEntries
    split
    · rename_i staged hstaged
      have hnext := h.stage hstaged (.insert e)
      split
      · rename_i next _ hstage
        rw [SearchService.stage, hstage] at hnext
        exact ih hnext
      · rename_i next _ hstage
        rw [SearchService.stage, hstage] at hnext
        exact hnext
    · exact h

/-- An update as a whole keeps the service historic, also when it is refused. -/
theorem applyUpdate (h : s.Historic) (added : List Entry) (removed : List String) :
    (s.applyUpdate added removed).1.Historic := by
  unfold SearchService.applyUpdate
  split
  · exact h
  · split
    · exact h
    · rename_i begun hbegun
      have hstaged := ((h.beginUpdate hbegun).stageRemovals removed).stageEntries added
      split
      · rename_i next _ hnext
        rw [hnext] at hstaged
        exact hstaged.commitStaged
      · rename_i next _ hnext
        rw [hnext] at hstaged
        exact hstaged.discard

/-- A search does not touch the entries. -/
theorem search (h : s.Historic) (q : Query) (bindings : Bindings) :
    (s.search q bindings).1.Historic := by
  have hcurrent : s.current.Historic := by
    unfold SearchService.current
    split
    · exact h
    · exact h.publish h.committed
  -- a search changes nothing but the plans
  unfold SearchService.search
  simp only
  split <;> exact ⟨hcurrent.committed, hcurrent.staged⟩

/-- Every step of a service keeps its entries those of a history. -/
theorem step (h : s.Historic) (now : SearchStep) : (s.step now).1.Historic := by
  cases now with
  | begin =>
    unfold SearchService.step
    simp only
    split
    · rename_i begun hbegun
      exact h.beginUpdate hbegun
    · exact h
  | stage change =>
    unfold SearchService.step
    simp only
    split
    · rename_i staged hstaged
      exact h.stage hstaged change
    · exact h
  | commit => exact h.commitStaged
  | discard => exact h.discard
  | updateSchema change => exact ⟨h.committed, h.staged⟩
  | changeSharedSchema change => exact ⟨h.committed, h.staged⟩
  | search turn =>
    have hevicted : (s.evict turn.keeps).Historic := ⟨h.committed, h.staged⟩
    exact hevicted.search turn.call.query turn.call.bindings

/-- By induction over the steps, all services that can be reached are historic. -/
theorem of_reachable (h : s.Reachable) : s.Historic := by
  induction h with
  | start schema config => exact ⟨⟨[], rfl⟩, fun _ hnone => by cases hnone⟩
  | step _ now ih => exact ih.step now
  | applyUpdate _ added removed ih => exact ih.applyUpdate added removed

end Historic

/-! ## One update -/

section
variable {s : SearchService} {staged : Snapshot}

theorem stageRemovals_eq (s : SearchService) (staged : Snapshot) (identifiers : List String) :
    { s with staged? := some staged }.stageRemovals identifiers
      = { s with
          staged? := some ((identifiers.map Change.remove).foldl Snapshot.apply staged) } := by
  induction identifiers generalizing staged with
  | nil => rfl
  | cons identifier rest ih =>
    rw [stageRemovals, List.map_cons, List.foldl_cons]
    exact ih _

/-- As long as there are numbers for them, all entries are staged. -/
theorem stageEntries_of_le {added : List Entry}
    (hroom : staged.nextDoc + added.length ≤ lastDoc) :
    { s with staged? := some staged }.stageEntries added
      = ({ s with staged? := some ((added.map Change.insert).foldl Snapshot.apply staged) },
        .ok ()) := by
  induction added generalizing staged with
  | nil => rfl
  | cons e rest ih =>
    rw [List.length_cons] at hroom
    have hlt : staged.nextDoc < lastDoc := by omega
    have hnext := Snapshot.nextDoc_insert (e := e) hlt
    have hok : (staged.insert e).2 = .ok () := by rw [Snapshot.insert_of_lt hlt]
    simp only [stageEntries, stageEntry_eq, hok, Except.mapError, List.map_cons, List.foldl_cons,
      Snapshot.apply]
    exact ih (by omega)

/-- Without a number for each of them, an entry is refused. -/
theorem stageEntries_of_lt {added : List Entry} (hle : staged.nextDoc ≤ lastDoc)
    (hfull : lastDoc < staged.nextDoc + added.length) :
    ∃ next, { s with staged? := some staged }.stageEntries added
      = ({ s with staged? := some next }, .error .indexFull) := by
  induction added generalizing staged with
  | nil =>
    rw [List.length_nil] at hfull
    omega
  | cons e rest ih =>
    rw [List.length_cons] at hfull
    by_cases hlt : staged.nextDoc < lastDoc
    · have hnext := Snapshot.nextDoc_insert (e := e) hlt
      have hok : (staged.insert e).2 = .ok () := by rw [Snapshot.insert_of_lt hlt]
      simp only [stageEntries, stageEntry_eq, hok, Except.mapError]
      exact ih (by omega) (by omega)
    · have herror : (staged.insert e).2 = .error .exhausted := by
        rw [Snapshot.insert_of_not_lt hlt]
      simp only [stageEntries, stageEntry_eq, herror, Except.mapError]
      exact ⟨_, rfl⟩

/-- The changes of an update, those of the removals first. -/
def changesOf (added : List Entry) (removed : List String) : List Change :=
  removed.map Change.remove ++ added.map Change.insert

/-- An update is refused, whatever is removed, and the service stays as it is, or all changes are
committed. -/
theorem applyUpdate_cases (h : s.Historic) (added : List Entry) :
    (∃ problem, ∀ removed, s.applyUpdate added removed = (s, .error problem))
      ∨ s.snapshot.nextDoc + added.length ≤ lastDoc
        ∧ ∀ removed, s.applyUpdate added removed
          = (s.commit ((changesOf added removed).foldl Snapshot.apply s.snapshot), .ok ()) := by
  unfold applyUpdate beginUpdate
  by_cases hsize : s.config.index.maxBatchSize.toNat < added.length
  · simp only [if_pos hsize]
    exact Or.inl ⟨_, fun _ => rfl⟩
  · simp only [if_neg hsize]
    cases hbegun : s.staged? with
    | some staged => exact Or.inl ⟨_, fun _ => rfl⟩
    | none =>
      simp only [stageRemovals_eq]
      obtain ⟨history, hhistory⟩ := h.committed
      have hle := Snapshot.nextDoc_ofHistory_le history
      rw [← hhistory] at hle
      by_cases hroom : s.snapshot.nextDoc + added.length ≤ lastDoc
      · refine Or.inr ⟨hroom, fun removed => ?_⟩
        rw [stageEntries_of_le (by rwa [Snapshot.nextDoc_foldl_remove]), changesOf,
          List.foldl_append]
        rfl
      · refine Or.inl ⟨.indexFull, fun removed => ?_⟩
        have hfits : ((removed.map Change.remove).foldl Snapshot.apply s.snapshot).nextDoc
            ≤ lastDoc := by rwa [Snapshot.nextDoc_foldl_remove]
        have hfull : lastDoc < ((removed.map Change.remove).foldl Snapshot.apply s.snapshot).nextDoc
            + added.length := by rw [Snapshot.nextDoc_foldl_remove]; omega
        obtain ⟨next, hnext⟩ := stageEntries_of_lt (s := s) hfits hfull
        rw [hnext]
        -- what was staged is forgotten
        simp only [discard, ← hbegun]

/-- The content after the changes of an update. -/
theorem entryOf?_changesOf {t : Snapshot} (ht : t.Consistent) {added : List Entry}
    (hroom : t.nextDoc + added.length ≤ lastDoc) (removed : List String) (identifier : String) :
    ((changesOf added removed).foldl Snapshot.apply t).entryOf? identifier
      = (added.reverse.find? (·.identifier == identifier)).or
        (if identifier ∈ removed then none else t.entryOf? identifier) := by
  have hnumbers : (changesOf added removed).countP Change.addsEntry = added.length := by
    rw [changesOf, List.countP_append, List.countP_map, List.countP_map]
    simp [Function.comp_def, Change.addsEntry]
  rw [ht.entryOf?_foldl_apply (by rwa [hnumbers]), changesOf, List.foldl_append,
    Change.foldl_entryAfter_remove, Change.foldl_entryAfter_insert]

/-- An update of a service that can come about is made as a whole. If it is refused, the service is
as it was. Otherwise the content is the added entries, the last one under each identifier, and the
old entries that were not removed. Removals in another order, or more than once, end alike, and
every plan then has the same results. -/
theorem applyUpdate_reachable (h : s.Reachable) (added : List Entry) (removed : List String) :
    (∀ problem, (s.applyUpdate added removed).2 = .error problem →
        (s.applyUpdate added removed).1 = s)
      ∧ ((s.applyUpdate added removed).2 = .ok () → ∀ identifier,
        (s.applyUpdate added removed).1.snapshot.entryOf? identifier
          = (added.reverse.find? (·.identifier == identifier)).or
            (if identifier ∈ removed then none else s.snapshot.entryOf? identifier))
      ∧ ∀ removed' : List String, (∀ identifier, identifier ∈ removed' ↔ identifier ∈ removed) →
        (s.applyUpdate added removed').2 = (s.applyUpdate added removed).2
          ∧ ∀ (engine : Regex.Engine) (p : Plan),
            p.runWith engine (s.applyUpdate added removed').1.snapshot
              = p.runWith engine (s.applyUpdate added removed).1.snapshot := by
  have hhistoric := Historic.of_reachable h
  obtain ⟨history, hhistory⟩ := hhistoric.committed
  have hs := Snapshot.consistent_ofHistory history
  rw [← hhistory] at hs
  rcases applyUpdate_cases hhistoric added with ⟨problem, hrefused⟩ | ⟨hroom, hmade⟩
  · refine ⟨fun _ _ => by rw [hrefused removed], fun hok => ?_, fun removed' _ => ?_⟩
    · rw [hrefused removed] at hok
      cases hok
    · rw [hrefused removed, hrefused removed']
      exact ⟨rfl, fun _ _ => rfl⟩
  · have hcontent := entryOf?_changesOf hs hroom
    refine ⟨fun _ herror => ?_, fun _ => ?_, fun removed' hsame => ?_⟩
    · rw [hmade removed] at herror
      cases herror
    · rw [hmade removed]
      exact hcontent removed
    · -- the same identifiers go, whatever the order
      have hsameContent : ((changesOf added removed').foldl Snapshot.apply s.snapshot).SameContent
          ((changesOf added removed).foldl Snapshot.apply s.snapshot) := by
        intro identifier
        simp only [hcontent, hsame]
      rw [hmade removed, hmade removed']
      exact ⟨rfl, fun engine p => Plan.runWith_congr engine p hsameContent
        (hs.foldl_apply _) (hs.foldl_apply _)⟩

end

/-- A service that holds two entries. -/
def twoEntries : SearchService :=
  ((start (.first Schema.empty) SearchConfig.standard).applyUpdate
    [Entry.named "a" "ash", Entry.named "b" "elm"] []).1

/-- Of two versions in one update the later one stays, also where the identifier is removed by the
same update. The order of the removals does not matter. -/
theorem applyUpdate_reachable_twoEntries :
    twoEntries.Reachable
      ∧ (twoEntries.applyUpdate [Entry.named "a" "fir", Entry.named "a" "oak"] ["b", "a"]).2
        = .ok ()
      ∧ (∀ identifier,
        (twoEntries.applyUpdate [Entry.named "a" "fir", Entry.named "a" "oak"]
            ["b", "a"]).1.snapshot.entryOf? identifier
          = if identifier = "a" then some (Entry.named "a" "oak")
            else if identifier = "b" then none else twoEntries.snapshot.entryOf? identifier)
      ∧ (twoEntries.applyUpdate [Entry.named "a" "fir", Entry.named "a" "oak"] ["a", "b"]).2
        = .ok () := by
  have hreachable : twoEntries.Reachable := .applyUpdate (.start _ _) _ _
  have hok : (twoEntries.applyUpdate [Entry.named "a" "fir", Entry.named "a" "oak"]
      ["b", "a"]).2 = .ok () := by rfl
  obtain ⟨-, hcontent, horder⟩ := applyUpdate_reachable hreachable
    [Entry.named "a" "fir", Entry.named "a" "oak"] ["b", "a"]
  refine ⟨hreachable, hok, fun identifier => ?_, ?_⟩
  · rw [hcontent hok identifier]
    simp only [List.reverse_cons, List.reverse_nil, List.nil_append, List.cons_append,
      Entry.named, List.find?_cons, List.mem_cons, List.not_mem_nil]
    grind
  · rw [(horder ["a", "b"] (by simp [or_comm])).1, hok]

end SearchService

end ContentSearch
