import ContentSearch.Proofs.Plan.Lookup
import ContentSearch.Proofs.Schema.View
import ContentSearch.Proofs.Search.Order

/-!
# Results depend on the content alone

The main statement says what the rows of a result are: the entries in use that satisfy the
predicate of the plan, each of them once, in the order of the keys and then of the identifiers,
without those that are passed over and those beyond the limit. It follows that histories that leave
the same entries under the same identifiers give the same results, whatever the numbers of the
documents are. In the rows, a column shows the first value that an entry has of the property behind
the column (`Plan.shownValue_of_ofQuery`).
-/

namespace ContentSearch

/-! ## Shown values -/

/-- The first value in the content of a property; bytes are one value. -/
inductive PropertyContent.StartsWith : PropertyContent → Value → Prop
  | value (v : Value) (rest : List Value) : StartsWith (.values (v :: rest)) v
  | bytes (b : BinaryContent) : StartsWith (.binary b) (.binary b.bytes)

/-- The value that a content shows is the one it begins with. -/
theorem PropertyContent.first?_eq_some_iff {c : PropertyContent} {v : Value} :
    c.first? = some v ↔ c.StartsWith v := by
  constructor
  · intro h
    cases c with
    | values vs =>
      obtain ⟨rest, rfl⟩ := List.head?_eq_some_iff.mp h
      exact .value v rest
    | binary b =>
      obtain rfl := Option.some.inj h
      exact .bytes b
  · rintro (⟨v, rest⟩ | ⟨b⟩) <;> rfl

/-- The first property of a name begins with a value. -/
def Entry.Shows (e : Entry) (name : String) (v : Value) : Prop :=
  ∃ before property after, e.properties = before ++ property :: after
    ∧ (∀ other ∈ before, other.name ≠ name) ∧ property.name = name ∧ property.content.StartsWith v

/-- Of several properties with one name, the first one decides, also when it has no value. -/
theorem Entry.bind_property?_eq_some_iff {e : Entry} {name : String} {v : Value} :
    (e.property? name).bind (·.content.first?) = some v ↔ e.Shows name v := by
  simp only [property?, Option.bind_eq_some_iff, List.find?_eq_some_iff_append, beq_iff_eq,
    Bool.not_eq_true', beq_eq_false_iff_ne, PropertyContent.first?_eq_some_iff]
  constructor
  · rintro ⟨property, ⟨hname, before, after, hsplit, hbefore⟩, hstarts⟩
    exact ⟨before, property, after, hsplit, hbefore, hname, hstarts⟩
  · rintro ⟨before, property, after, hsplit, hbefore, hname, hstarts⟩
    exact ⟨property, ⟨hname, before, after, hsplit, hbefore⟩, hstarts⟩

/-- A column belongs to a selector, and its field is that of its property there. -/
def PlanColumn.IsOf (c : PlanColumn) (selector : PlanSelector) : Prop :=
  c.selector = selector.name ∧ c.field = selector.propertyField c.property

namespace Plan

/-- The selectors of a plan are found by their names. -/
theorem find?_values_of_named {selectors : OrderedMap String PlanSelector}
    (hnamed : ∀ name found, selectors.get? name = some found → found.name = name)
    {name : String} {found : PlanSelector} (h : selectors.get? name = some found) :
    (selectors.values.find? fun s => s.name == found.name) = some found := by
  have hmem : found ∈ selectors.values :=
    List.mem_map_of_mem (OrderedMap.get?_eq_some_iff.mp h)
  have hsome : (selectors.values.find? fun s => s.name == found.name).isSome = true :=
    List.find?_isSome.mpr ⟨found, hmem, beq_self_eq_true found.name⟩
  obtain ⟨first, hfirst⟩ := Option.isSome_iff_exists.mp hsome
  obtain ⟨key, hkey⟩ :=
    OrderedMap.exists_get?_of_mem_values (List.mem_of_find?_eq_some hfirst)
  have hfound := List.find?_some hfirst
  -- both are kept under the same name
  have hsame : key = name := by
    rw [← hnamed key first hkey, ← hnamed name found h]
    exact beq_iff_eq.mp hfound
  rw [hsame, h] at hkey
  rw [hfirst, ← Option.some.inj hkey]

/-- The columns that are planned in a scope belong to selectors of the scope. -/
theorem exists_isOf_of_columns {s : Scope} {asked : List ResultColumn} {columns : List PlanColumn}
    (h : s.columns asked = .ok columns) {c : PlanColumn} (hc : c ∈ columns) :
    ∃ name selector, s.selectors.get? name = some selector ∧ c.IsOf selector := by
  have hall : ∀ {selector}, c ∈ s.allColumns selector → c.IsOf selector := by
    intro selector hc
    unfold Scope.allColumns at hc
    split at hc
    · cases hc
    · obtain ⟨column, -, rfl⟩ := List.mem_map.mp hc
      exact ⟨rfl, rfl⟩
  unfold Scope.columns at h
  split at h
  · -- all columns of all selectors
    obtain rfl := Except.ok.inj h
    obtain ⟨selector, hselector, hc⟩ := List.mem_flatMap.mp hc
    obtain ⟨name, hname⟩ := OrderedMap.exists_get?_of_mem_values hselector
    exact ⟨name, selector, hname, hall hc⟩
  · obtain ⟨parts, hparts, rfl⟩ := Outcome.map_eq_ok h
    obtain ⟨part, hpart, hc⟩ := List.mem_flatten.mp hc
    obtain ⟨column, -, hcolumn⟩ := Outcome.exists_of_mem_mapM hparts hpart
    obtain ⟨selector, hselector, hcolumn⟩ := Outcome.bind_eq_ok hcolumn
    obtain ⟨name, hname⟩ := Scope.exists_get?_of_selector hselector
    refine ⟨name, selector, hname, ?_⟩
    split at hcolumn
    · obtain rfl := Except.ok.inj hcolumn
      obtain rfl := List.mem_singleton.mp hc
      exact ⟨rfl, rfl⟩
    · obtain rfl := Except.ok.inj hcolumn
      exact hall hc

/-- Every column of the plan of a query belongs to a selector, and shows of an entry the value that
begins the first property with the name that the selector has for the column. The field of the
column is the one in which this property is kept. -/
theorem shownValue_of_ofQuery {rules : PlanRules} {q : Query} {bindings : Bindings} {plan : Plan}
    (h : ofQuery rules q bindings = .ok plan) {c : PlanColumn} (hc : c ∈ plan.columns) :
    ∃ selector ∈ plan.selectors, c.IsOf selector
      ∧ ∀ (e : Entry) (v : Value), plan.shownValue e c = some v
        ↔ e.Shows (selector.physicalProperty c.property) v := by
  obtain ⟨s, -, -, -, hselectors, -, -, -, hcolumns, -, hplan, -⟩ := ofQueryWith_eq_ok h
  have hnamed : ∀ name found, s.selectors.get? name = some found → found.name = name := by
    intro name found hfound
    obtain ⟨table, hexpand⟩ := exists_expand_of_get? hselectors hfound
    exact (keepsNames_expandSelector rules _ hexpand).1
  obtain ⟨name, selector, hname, hisOf⟩ := exists_isOf_of_columns hcolumns hc
  have hfind := find?_values_of_named hnamed hname
  refine ⟨selector, ?_, hisOf, fun e v => ?_⟩
  · rw [hplan]
    exact List.mem_of_find?_eq_some hfind
  · have hshown : plan.shownProperty c = selector.physicalProperty c.property := by
      rw [shownProperty, hplan, hisOf.1, hfind]
    rw [shownValue, hshown, Entry.bind_property?_eq_some_iff]

/-! ## Rows -/

/-- The row that shows an entry. -/
def rowOf (p : Plan) (e : Entry) : Row :=
  ⟨e.identifier, e.score p.predicate, p.columns.map (p.shownValue e)⟩

/-- The entries in use that satisfy the predicate of the plan. -/
def selected (engine : Regex.Engine) (p : Plan) (s : Snapshot) : List Entry :=
  s.liveEntries.filter fun e => e.satisfies engine p.predicate

/-- A list of entries, each taken once, in the order of the plan. -/
structure Lists (p : Plan) (entries sorted : List Entry) : Prop where
  perm : sorted.Perm entries
  ordered : sorted.Pairwise (Entry.Precedes p.predicate p.sort)

/-- There is one way to list the same entries. -/
theorem Lists.unique {p : Plan} {entries₁ entries₂ sorted₁ sorted₂ : List Entry}
    (h₁ : p.Lists entries₁ sorted₁) (h₂ : p.Lists entries₂ sorted₂)
    (hperm : entries₁.Perm entries₂) : sorted₁ = sorted₂ :=
  ((h₁.perm.trans hperm).trans h₂.perm.symm).eq_of_pairwise
    (fun _ _ _ _ hab hba => absurd hba hab.asymm) h₁.ordered h₂.ordered

/-! ## Hits -/

section
variable {engine : Regex.Engine} {p : Plan} {s t : Snapshot} {hits : List Hit}

theorem isOf_of_hitsWith (h : p.hitsWith engine s = .ok hits) :
    ∀ hit ∈ hits, hit.IsOf s p.predicate := by
  intro hit hmem
  obtain ⟨docs, -, rfl⟩ := Outcome.map_eq_ok h
  obtain ⟨d, -, hd⟩ := List.mem_filterMap.mp hmem
  obtain ⟨e, he, rfl⟩ := Option.map_eq_some_iff.mp hd
  exact ⟨he, rfl⟩

/-- The documents that are found are those that a scan finds. -/
theorem entries_of_hitsWith (hs : s.Consistent) (h : p.hitsWith engine s = .ok hits) :
    hits.map (·.entry) = p.selected engine s := by
  obtain ⟨docs, hdocs, rfl⟩ := Outcome.map_eq_ok h
  have hscan := (hs.evaluateWith_eq_docsWhere fun _ => rfl).1 docs hdocs
  have hfound : docs.toList = s.live.toList.filter fun d =>
      s.entry? d |>.any fun e => e.satisfies engine p.predicate := by
    rw [hscan]
    rfl
  rw [hfound, selected, Snapshot.liveEntries, List.map_filterMap, List.filterMap_filter,
    List.filter_filterMap]
  refine List.filterMap_congr fun d _ => ?_
  cases s.entry? d with
  | none => rfl
  | some e => cases hsat : e.satisfies engine p.predicate <;> simp [Option.filter, hsat]

/-- No two hits have one identifier. -/
theorem identifiers_of_hitsWith (hs : s.Consistent) (h : p.hitsWith engine s = .ok hits) :
    hits.Pairwise fun a b => a.entry.identifier ≠ b.entry.identifier := by
  have hselected : (p.selected engine s).Pairwise fun a b => a.identifier ≠ b.identifier :=
    hs.pairwise_liveEntries.filter _
  rw [← entries_of_hitsWith hs h, List.pairwise_map] at hselected
  exact hselected

/-- Sorting puts no hit before one that it comes after. -/
theorem pairwise_sortHits (s : Snapshot) (keys : List SortKey) (hits : List Hit) :
    (sortHits s keys hits).Pairwise fun a b => (compareHits s keys a b).isLE = true := by
  have hle : ∀ o : Ordering, (o != .gt) = o.isLE := by decide
  unfold sortHits
  simp only [hle]
  refine List.pairwise_mergeSort (fun a b c => Std.TransCmp.isLE_trans) (fun a b => ?_) hits
  have hswap : compareHits s keys b a = (compareHits s keys a b).swap := Std.OrientedCmp.eq_swap
  rw [hswap]
  cases compareHits s keys a b <;> decide

/-- The entries of the sorted hits are listed in the order of the plan. -/
theorem lists_sortHits (hs : s.Consistent) (h : p.hitsWith engine s = .ok hits) :
    p.Lists (p.selected engine s) ((sortHits s p.sort hits).map (·.entry)) := by
  have hperm : (sortHits s p.sort hits).Perm hits := List.mergeSort_perm hits _
  refine ⟨?_, ?_⟩
  · rw [← entries_of_hitsWith hs h]
    exact hperm.map _
  · have hother := (hperm.pairwise_iff fun hne => Ne.symm hne).mpr (identifiers_of_hitsWith hs h)
    refine List.pairwise_map.mpr (((pairwise_sortHits s p.sort hits).and hother).imp_of_mem ?_)
    rintro a b ha hb ⟨hle, hne⟩
    have hisOf := isOf_of_hitsWith h
    rw [← compareHits_eq_lt hs (hisOf a (hperm.mem_iff.mp ha)) (hisOf b (hperm.mem_iff.mp hb))]
    -- hits with different identifiers are never equal in the order
    cases hcompare : compareHits s p.sort a b with
    | lt => rfl
    | eq => exact absurd (identifier_eq_of_compareHits hcompare) hne
    | gt =>
      rw [hcompare] at hle
      cases hle

/-! ## Results -/

/-- What is shown of the entries in the order of the plan. -/
def resultsOf (p : Plan) (sorted : List Entry) : Results :=
  ⟨p.columns.map (·.name), (slice p.limit sorted).map p.rowOf⟩

/-- The rows show the entries that satisfy the predicate, in the order of the plan. -/
theorem runWith_eq_ok (hs : s.Consistent) {r : Results} (h : p.runWith engine s = .ok r) :
    ∃ sorted, p.Lists (p.selected engine s) sorted ∧ r = p.resultsOf sorted := by
  obtain ⟨hits, hhits, hr⟩ := Outcome.bind_eq_ok h
  refine ⟨_, lists_sortHits hs hhits, ?_⟩
  obtain rfl := Except.ok.inj hr
  have hrow : ∀ hit ∈ slice p.limit (sortHits s p.sort hits), p.row hit = p.rowOf hit.entry := by
    intro hit hmem
    have hsorted := List.mem_of_mem_drop (List.mem_of_mem_take hmem)
    have hisOf := isOf_of_hitsWith hhits hit
      ((List.mergeSort_perm hits _).mem_iff.mp hsorted)
    rw [row, rowOf, hisOf.score, hs.score_eq hisOf.entry]
  rw [resultsOf, List.map_congr_left hrow, slice, slice, ← List.map_drop, ← List.map_take,
    List.map_map]
  rfl

/-- Snapshots with the same content have the same entries for a plan. -/
theorem selected_perm (hsame : s.SameContent t) (hs : s.Consistent) (ht : t.Consistent) :
    (p.selected engine s).Perm (p.selected engine t) := by
  have hnodup : ∀ {u : Snapshot}, u.Consistent → u.liveEntries.Nodup := fun hu =>
    hu.pairwise_liveEntries.imp fun hne heq => hne (congrArg Entry.identifier heq)
  have hperm : s.liveEntries.Perm t.liveEntries :=
    (List.perm_ext_iff_of_nodup (hnodup hs) (hnodup ht)).mpr fun e => by
      rw [hs.mem_liveEntries_iff_entryOf?, ht.mem_liveEntries_iff_entryOf?, hsame]
  exact hperm.filter _

/-- Snapshots with the same content give the same results, or are refused for the same reason. -/
theorem runWith_congr (engine : Regex.Engine) (p : Plan) (hsame : s.SameContent t)
    (hs : s.Consistent) (ht : t.Consistent) : p.runWith engine s = p.runWith engine t := by
  have hends : Outcome.EndAlike (fun _ _ => True) (p.runWith engine s) (p.runWith engine t) := by
    have hhits : Outcome.EndAlike (fun _ _ => True) (p.hitsWith engine s) (p.hitsWith engine t) :=
      (Snapshot.evaluateWith_alike hsame hs ht p.predicate).map fun _ => trivial
    exact hhits.bind fun _ => .ok trivial
  refine (hends.of_eq_ok fun {r r'} hrun hrun' => ?_).eq
  -- both list the same entries, and there is one way to do so
  obtain ⟨sorted, hsorted, rfl⟩ := runWith_eq_ok hs hrun
  obtain ⟨sorted', hsorted', rfl⟩ := runWith_eq_ok ht hrun'
  rw [hsorted.unique hsorted' (selected_perm hsame hs ht)]

end

/-! ## Histories -/

/-- Whatever has been added and removed, the rows show all entries in use that satisfy the
predicate, each once and in the order of the plan, of which a part is shown. Histories that leave
the same entries under the same identifiers give the same results. -/
theorem runWith_ofHistory (engine : Regex.Engine) (p : Plan) (history : List Change) :
    (∀ r, p.runWith engine (Snapshot.ofHistory history) = .ok r →
        ∃ sorted, p.Lists (p.selected engine (Snapshot.ofHistory history)) sorted
          ∧ r.columns = p.columns.map (·.name)
          ∧ r.rows = ((sorted.drop p.limit.offset.toNat).take p.limit.rows.toNat).map p.rowOf)
      ∧ ∀ history', (Snapshot.ofHistory history').SameContent (Snapshot.ofHistory history) →
        p.runWith engine (Snapshot.ofHistory history')
          = p.runWith engine (Snapshot.ofHistory history) := by
  have hs := Snapshot.consistent_ofHistory history
  constructor
  · intro r hrun
    obtain ⟨sorted, hsorted, rfl⟩ := runWith_eq_ok hs hrun
    exact ⟨sorted, hsorted, rfl, rfl⟩
  · intro history' hsame
    exact runWith_congr engine p hsame (Snapshot.consistent_ofHistory history') hs

/-- Two entries, each added once. -/
def addedOnce : List Change :=
  [.insert (Entry.named "a" "Oak"), .insert (Entry.named "b" "elm")]

/-- The same entries after a detour: one is replaced, and a third one comes and goes. -/
def addedAndReplaced : List Change :=
  [.insert (Entry.named "b" "elm"), .insert (Entry.named "c" "fir"),
    .insert (Entry.named "a" "ash"), .remove "c", .insert (Entry.named "a" "Oak")]

/-- The second of all entries, by their names without regard to case, backwards. -/
def secondByName : Plan where
  statement := ""
  selectors := []
  joins := []
  constraint? := none
  predicate := .hasTerm Field.name
  sort := [⟨"", .field Field.name, .descending, false⟩]
  columns := []
  limit := ⟨1, 1⟩

/-- The detour gives the first entry another number and leads to the same results. -/
theorem runWith_ofHistory_addedAndReplaced :
    (Snapshot.ofHistory addedAndReplaced).docIds.get? "a"
        ≠ (Snapshot.ofHistory addedOnce).docIds.get? "a"
      ∧ (∃ r, secondByName.runWith Regex.engine (Snapshot.ofHistory addedOnce) = .ok r
        ∧ ∃ sorted, secondByName.Lists
            (secondByName.selected Regex.engine (Snapshot.ofHistory addedOnce)) sorted
          ∧ r.rows = ((sorted.drop 1).take 1).map secondByName.rowOf)
      ∧ secondByName.runWith Regex.engine (Snapshot.ofHistory addedAndReplaced)
        = secondByName.runWith Regex.engine (Snapshot.ofHistory addedOnce) := by
  have hsame : (Snapshot.ofHistory addedAndReplaced).SameContent
      (Snapshot.ofHistory addedOnce) := by
    intro identifier
    rw [Snapshot.entryOf?_ofHistory (by decide), Snapshot.entryOf?_ofHistory (by decide)]
    simp only [addedAndReplaced, addedOnce, List.foldl_cons, List.foldl_nil, Change.entryAfter,
      Entry.named]
    grind
  have hruns := runWith_ofHistory Regex.engine secondByName addedOnce
  refine ⟨by decide +kernel, ⟨_, rfl, ?_⟩, hruns.2 addedAndReplaced hsame⟩
  obtain ⟨sorted, hsorted, -, hrows⟩ := hruns.1 _ rfl
  exact ⟨sorted, hsorted, hrows⟩

end Plan

end ContentSearch
