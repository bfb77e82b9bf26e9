/-!
# Maps in insertion order

A finite map as a list of entries with distinct keys. A new key goes to the end; a key that is
already present keeps its place and gets the new value.
-/

namespace ContentSearch

/-- Entries with distinct keys, in the order in which the keys were first inserted. -/
structure OrderedMap (κ ν : Type) where
  entries : List (κ × ν)
  nodup : (entries.map Prod.fst).Nodup

namespace OrderedMap

variable {κ ν μ : Type} [DecidableEq κ]

/-- The map without entries. -/
def empty : OrderedMap κ ν :=
  ⟨[], List.nodup_nil⟩

instance : EmptyCollection (OrderedMap κ ν) := ⟨empty⟩
instance : Inhabited (OrderedMap κ ν) := ⟨empty⟩

/-- The keys in order. -/
def keys (m : OrderedMap κ ν) : List κ :=
  m.entries.map Prod.fst

/-- The values in the order of their keys. -/
def values (m : OrderedMap κ ν) : List ν :=
  m.entries.map Prod.snd

/-- The number of entries. -/
def size (m : OrderedMap κ ν) : Nat :=
  m.entries.length

/-- The value of a key in a list of entries. -/
def findEntry (k : κ) : List (κ × ν) → Option ν
  | [] => none
  | e :: rest => if e.1 = k then some e.2 else findEntry k rest

/-- The value of a key. -/
def get? (m : OrderedMap κ ν) (k : κ) : Option ν :=
  findEntry k m.entries

/-- Whether the key has a value. -/
def contains (m : OrderedMap κ ν) (k : κ) : Bool :=
  (m.get? k).isSome

/-! ## Changing a list of entries -/

/-- Sets the value of a key in its place, or at the end. -/
def setEntry (k : κ) (v : ν) : List (κ × ν) → List (κ × ν)
  | [] => [(k, v)]
  | e :: rest => if e.1 = k then (k, v) :: rest else e :: setEntry k v rest

theorem mem_keys_setEntry {k k' : κ} {v : ν} {es : List (κ × ν)} :
    k' ∈ (setEntry k v es).map Prod.fst ↔ k' = k ∨ k' ∈ es.map Prod.fst := by
  induction es with
  | nil => simp [setEntry]
  | cons e rest ih =>
    by_cases h : e.1 = k
    · simp [setEntry, h]
    · simp only [setEntry, if_neg h, List.map_cons, List.mem_cons, ih]
      constructor
      · rintro (h | h | h) <;> simp [h]
      · rintro (h | h | h) <;> simp [h]

theorem nodup_setEntry {k : κ} {v : ν} {es : List (κ × ν)} (h : (es.map Prod.fst).Nodup) :
    ((setEntry k v es).map Prod.fst).Nodup := by
  induction es with
  | nil => simp [setEntry]
  | cons e rest ih =>
    rw [List.map_cons, List.nodup_cons] at h
    by_cases he : e.1 = k
    · subst he
      rw [setEntry, if_pos rfl, List.map_cons, List.nodup_cons]
      exact h
    · rw [setEntry, if_neg he, List.map_cons, List.nodup_cons]
      refine ⟨fun hm => ?_, ih h.2⟩
      rcases mem_keys_setEntry.mp hm with hk | hk
      · exact he hk
      · exact h.1 hk

theorem findEntry_setEntry {k k' : κ} {v : ν} {es : List (κ × ν)} :
    findEntry k' (setEntry k v es) = if k' = k then some v else findEntry k' es := by
  induction es with
  | nil => simp [setEntry, findEntry, eq_comm]
  | cons e rest ih =>
    by_cases he : e.1 = k
    · by_cases h : k' = k
      · simp [setEntry, findEntry, he, h]
      · simp [setEntry, findEntry, he, h, Ne.symm h]
    · by_cases h : e.1 = k'
      · have hk : k' ≠ k := fun hk => he (h.trans hk)
        simp [setEntry, findEntry, h, hk]
      · simp [setEntry, findEntry, he, h, ih]

/-- A new key comes last. -/
theorem setEntry_of_not_mem {k : κ} {v : ν} {es : List (κ × ν)} (h : k ∉ es.map Prod.fst) :
    setEntry k v es = es ++ [(k, v)] := by
  induction es with
  | nil => rfl
  | cons e rest ih =>
    rw [List.map_cons, List.mem_cons, not_or] at h
    rw [setEntry, if_neg (Ne.symm h.1), ih h.2]
    rfl

/-! ## Operations -/

/-- Sets the value of a key. -/
def insert (m : OrderedMap κ ν) (k : κ) (v : ν) : OrderedMap κ ν :=
  ⟨setEntry k v m.entries, nodup_setEntry m.nodup⟩

/-- Keeps the entries that pass a test. -/
def filter (m : OrderedMap κ ν) (keep : κ → ν → Bool) : OrderedMap κ ν :=
  ⟨m.entries.filter fun e => keep e.1 e.2, m.nodup.sublist (List.Sublist.map _ List.filter_sublist)⟩

/-- Drops a key. -/
def erase (m : OrderedMap κ ν) (k : κ) : OrderedMap κ ν :=
  m.filter fun k' _ => k' ≠ k

/-- Changes each value. -/
def map (m : OrderedMap κ ν) (f : ν → μ) : OrderedMap κ μ :=
  ⟨m.entries.map fun e => (e.1, f e.2), by simpa [List.map_map, Function.comp_def] using m.nodup⟩

/-- Puts the entries of a list in, the last one of each key winning. -/
def ofList (es : List (κ × ν)) : OrderedMap κ ν :=
  es.foldl (fun m e => m.insert e.1 e.2) empty

@[simp] theorem get?_empty (k : κ) : (empty : OrderedMap κ ν).get? k = none := rfl

@[simp] theorem get?_insert (m : OrderedMap κ ν) (k k' : κ) (v : ν) :
    (m.insert k v).get? k' = if k' = k then some v else m.get? k' :=
  findEntry_setEntry

theorem findEntry_filter_ne {k k' : κ} {es : List (κ × ν)} :
    findEntry k' (es.filter fun e => decide (e.1 ≠ k))
      = if k' = k then none else findEntry k' es := by
  induction es with
  | nil => simp [findEntry]
  | cons e rest ih =>
    by_cases he : e.1 = k
    · rw [List.filter_cons_of_neg (by simp [he]), ih]
      by_cases h : k' = k
      · simp [h]
      · simp [findEntry, he, h, Ne.symm h]
    · rw [List.filter_cons_of_pos (by simp [he])]
      by_cases h : e.1 = k'
      · have hk : k' ≠ k := fun hk => he (h.trans hk)
        simp [findEntry, h, hk]
      · rw [findEntry, findEntry, if_neg h, if_neg h, ih]

@[simp] theorem get?_erase (m : OrderedMap κ ν) (k k' : κ) :
    (m.erase k).get? k' = if k' = k then none else m.get? k' :=
  findEntry_filter_ne

omit [DecidableEq κ] in
theorem filter_eq_self {m : OrderedMap κ ν} {keep : κ → ν → Bool}
    (h : ∀ k v, keep k v = true) : m.filter keep = m := by
  obtain ⟨entries, nodup⟩ := m
  unfold filter
  congr
  exact List.filter_eq_self.mpr fun e _ => h e.1 e.2

/-! ## Entries and look-ups -/

theorem mem_of_findEntry {k : κ} {v : ν} {es : List (κ × ν)} (h : findEntry k es = some v) :
    (k, v) ∈ es := by
  induction es with
  | nil => cases h
  | cons e rest ih =>
    rw [findEntry] at h
    split at h
    · rename_i he
      obtain rfl := Option.some.inj h
      rw [← he]
      exact List.mem_cons_self
    · exact List.mem_cons_of_mem e (ih h)

theorem findEntry_of_mem {k : κ} {v : ν} {es : List (κ × ν)} (hn : (es.map Prod.fst).Nodup)
    (h : (k, v) ∈ es) : findEntry k es = some v := by
  induction es with
  | nil => cases h
  | cons e rest ih =>
    rw [List.map_cons, List.nodup_cons] at hn
    rw [findEntry]
    rcases List.mem_cons.mp h with rfl | hr
    · rw [if_pos rfl]
    · rw [if_neg fun he : e.1 = k => hn.1 (he ▸ List.mem_map_of_mem hr)]
      exact ih hn.2 hr

/-- A key has a value exactly if the two stand in an entry. -/
theorem get?_eq_some_iff {m : OrderedMap κ ν} {k : κ} {v : ν} :
    m.get? k = some v ↔ (k, v) ∈ m.entries :=
  ⟨mem_of_findEntry, findEntry_of_mem m.nodup⟩

theorem mem_keys_iff {m : OrderedMap κ ν} {k : κ} : k ∈ m.keys ↔ ∃ v, m.get? k = some v := by
  simp only [get?_eq_some_iff, keys, List.mem_map, Prod.exists, exists_and_right, exists_eq_right]

theorem findEntry_map {f : ν → μ} {k : κ} {es : List (κ × ν)} :
    findEntry k (es.map fun e => (e.1, f e.2)) = (findEntry k es).map f := by
  induction es with
  | nil => rfl
  | cons e rest ih =>
    simp only [List.map_cons, findEntry]
    split
    · rfl
    · exact ih

@[simp] theorem get?_map (m : OrderedMap κ ν) (f : ν → μ) (k : κ) :
    (m.map f).get? k = (m.get? k).map f :=
  findEntry_map

@[simp] theorem get?_filter (m : OrderedMap κ ν) (keep : κ → ν → Bool) (k : κ) :
    (m.filter keep).get? k = (m.get? k).filter (keep k) := by
  refine Option.ext fun v => ?_
  rw [get?_eq_some_iff, Option.filter_eq_some_iff, get?_eq_some_iff]
  exact List.mem_filter

end OrderedMap

end ContentSearch
