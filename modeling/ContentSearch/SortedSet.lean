/-!
# Sorted sets

A finite set as the list of its members in ascending order, each of them once, so that equal sets
are equal lists.
-/

namespace ContentSearch

/-- The members of a set in ascending order. -/
structure SortedSet (α : Type) [LT α] where
  toList : List α
  sorted : toList.Pairwise (· < ·)

namespace SortedSet

variable {α : Type} [LT α]

instance : Membership α (SortedSet α) := ⟨fun s a => a ∈ s.toList⟩

theorem mem_toList {s : SortedSet α} {a : α} : a ∈ s.toList ↔ a ∈ s := Iff.rfl

/-- The set without members. -/
def empty : SortedSet α := ⟨[], List.Pairwise.nil⟩

instance : EmptyCollection (SortedSet α) := ⟨empty⟩
instance : Inhabited (SortedSet α) := ⟨empty⟩

/-- Whether the set has no members. -/
def isEmpty (s : SortedSet α) : Bool := s.toList.isEmpty

/-- The number of members. -/
def size (s : SortedSet α) : Nat := s.toList.length

/-- Keeps the members that pass a test. -/
def filter (s : SortedSet α) (keep : α → Bool) : SortedSet α :=
  ⟨s.toList.filter keep, s.sorted.filter keep⟩

@[simp] theorem not_mem_empty {a : α} : a ∉ (empty : SortedSet α) := List.not_mem_nil

@[simp] theorem mem_filter {s : SortedSet α} {keep : α → Bool} {a : α} :
    a ∈ s.filter keep ↔ a ∈ s ∧ keep a = true := List.mem_filter

theorem isEmpty_iff {s : SortedSet α} : s.isEmpty = true ↔ ∀ a, a ∉ s := by
  rw [isEmpty, List.isEmpty_iff, List.eq_nil_iff_forall_not_mem]
  exact Iff.rfl

/-! ## Equality -/

section
variable [LE α] [Std.LawfulOrderLT α]

theorem nodup_toList (s : SortedSet α) : s.toList.Nodup :=
  s.sorted.imp Std.ne_of_lt

/-- Sets with the same members are equal. -/
theorem eq_of_mem_iff [Std.IsPreorder α] {s t : SortedSet α} (h : ∀ a, a ∈ s ↔ a ∈ t) : s = t := by
  have hperm : s.toList.Perm t.toList :=
    (List.perm_ext_iff_of_nodup s.nodup_toList t.nodup_toList).mpr h
  have heq : s.toList = t.toList :=
    hperm.eq_of_pairwise (fun _ _ _ _ hab hba => absurd (Std.lt_trans hab hba) Std.lt_irrefl)
      s.sorted t.sorted
  cases s
  cases t
  congr

end

/-! ## Testing and removing -/

variable [LE α] [Std.LawfulOrderLT α] [DecidableLT α] [DecidableEq α]

/-- Looks for an element among elements in ascending order, up to the first one that is not
less. -/
def searchList (a : α) : List α → Bool
  | [] => false
  | b :: rest => if b < a then searchList a rest else b == a

theorem searchList_iff {a : α} {l : List α} (h : l.Pairwise (· < ·)) :
    searchList a l = true ↔ a ∈ l := by
  induction l with
  | nil => simp [searchList]
  | cons b rest ih =>
    have hb := List.pairwise_cons.mp h
    rw [searchList, List.mem_cons]
    split
    · rename_i hlt
      rw [ih hb.2]
      constructor
      · exact Or.inr
      · rintro (rfl | hm)
        · exact absurd hlt (Std.lt_irrefl)
        · exact hm
    · rename_i hlt
      rw [beq_iff_eq]
      constructor
      · intro hba
        exact Or.inl hba.symm
      · rintro (rfl | hm)
        · rfl
        · exact absurd (hb.1 a hm) hlt

/-- Whether the set has the member. -/
def contains (s : SortedSet α) (a : α) : Bool := searchList a s.toList

/-- Takes a member out. -/
def erase (s : SortedSet α) (a : α) : SortedSet α := s.filter fun b => b != a

/-- The members of both sets. -/
def inter (s t : SortedSet α) : SortedSet α := s.filter t.contains

/-- The members of the first set that are not in the second. -/
def diff (s t : SortedSet α) : SortedSet α := s.filter fun a => !t.contains a

@[simp] theorem contains_iff {s : SortedSet α} {a : α} : s.contains a = true ↔ a ∈ s :=
  searchList_iff s.sorted

omit [LE α] [Std.LawfulOrderLT α] [DecidableLT α] in
@[simp] theorem mem_erase {s : SortedSet α} {a b : α} : b ∈ s.erase a ↔ b ∈ s ∧ b ≠ a := by
  simp [erase]

@[simp] theorem mem_inter {s t : SortedSet α} {a : α} : a ∈ s.inter t ↔ a ∈ s ∧ a ∈ t := by
  simp [inter]

@[simp] theorem mem_diff {s t : SortedSet α} {a : α} : a ∈ s.diff t ↔ a ∈ s ∧ a ∉ t := by
  rw [diff, mem_filter, Bool.not_eq_true', ← Bool.not_eq_true, contains_iff]

/-! ## Adding -/

variable [Std.IsLinearOrder α]

/-- Puts a member into its place. -/
def insertList (a : α) : List α → List α
  | [] => [a]
  | b :: rest =>
    if a < b then a :: b :: rest
    else if a = b then b :: rest
    else b :: insertList a rest

omit [LE α] [Std.LawfulOrderLT α] [Std.IsLinearOrder α] in
theorem mem_insertList {a b : α} {l : List α} : b ∈ insertList a l ↔ b = a ∨ b ∈ l := by
  induction l with
  | nil => simp [insertList]
  | cons c rest ih =>
    rw [insertList]
    split
    · simp
    · split
      · rename_i h
        subst h
        simp
      · simp only [List.mem_cons, ih]
        constructor
        · rintro (h | h | h) <;> simp [h]
        · rintro (h | h | h) <;> simp [h]

theorem sorted_insertList {a : α} {l : List α} (h : l.Pairwise (· < ·)) :
    (insertList a l).Pairwise (· < ·) := by
  induction l with
  | nil => exact List.pairwise_singleton _ a
  | cons c rest ih =>
    have hc := List.pairwise_cons.mp h
    rw [insertList]
    split
    · rename_i hac
      refine List.pairwise_cons.mpr ⟨fun b hb => ?_, h⟩
      rcases List.mem_cons.mp hb with rfl | hb
      · exact hac
      · exact Std.lt_trans hac (hc.1 b hb)
    · rename_i hac
      split
      · exact h
      · rename_i hne
        refine List.pairwise_cons.mpr ⟨fun b hb => ?_, ih hc.2⟩
        rcases mem_insertList.mp hb with rfl | hb
        · exact Std.lt_of_le_of_ne (Std.not_lt.mp hac) (Ne.symm hne)
        · exact hc.1 b hb

/-- Adds a member. -/
def insert (s : SortedSet α) (a : α) : SortedSet α :=
  ⟨insertList a s.toList, sorted_insertList s.sorted⟩

/-- The members of either set. -/
def union (s t : SortedSet α) : SortedSet α := t.toList.foldl insert s

/-- The set of the elements of a list. -/
def ofList (l : List α) : SortedSet α := l.foldl insert empty

@[simp] theorem mem_insert {s : SortedSet α} {a b : α} : b ∈ s.insert a ↔ b = a ∨ b ∈ s :=
  mem_insertList

theorem mem_foldl_insert {l : List α} {s : SortedSet α} {a : α} :
    a ∈ l.foldl insert s ↔ a ∈ s ∨ a ∈ l := by
  induction l generalizing s with
  | nil => simp
  | cons b rest ih =>
    rw [List.foldl_cons, ih, mem_insert, List.mem_cons]
    constructor
    · rintro ((h | h) | h) <;> simp [h]
    · rintro (h | h | h) <;> simp [h]

@[simp] theorem mem_union {s t : SortedSet α} {a : α} : a ∈ s.union t ↔ a ∈ s ∨ a ∈ t :=
  mem_foldl_insert

@[simp] theorem mem_ofList {l : List α} {a : α} : a ∈ ofList l ↔ a ∈ l := by
  rw [ofList, mem_foldl_insert]
  simp

end SortedSet

end ContentSearch
