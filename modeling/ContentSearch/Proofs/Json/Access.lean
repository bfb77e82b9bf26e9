import ContentSearch.Json.Access
import ContentSearch.Proofs.Json.Token

/-!
# Reading records back

A record is written without the members that have no value. What a reader finds under each name of
such a record, and how a field is read from what it finds.
-/

namespace ContentSearch.Json

/-! ## Members -/

/-- What is written under a name of a record. -/
def partOf (name : String) : List (String × Option Json) → Option Json
  | [] => none
  | p :: rest => if p.1 = name then p.2 else partOf name rest

theorem findMember_eq_none {name : String} {members : List (String × Json)}
    (h : ∀ m ∈ members, m.1 ≠ name) : findMember name members = none := by
  induction members with
  | nil => rfl
  | cons m rest ih =>
    rw [List.forall_mem_cons] at h
    rw [findMember, if_neg h.1, ih h.2]

/-- The members of a record: the parts that have a value. -/
def present (parts : List (String × Option Json)) : List (String × Json) :=
  parts.filterMap fun p => p.2.map fun v => (p.1, v)

theorem names_present_sublist (parts : List (String × Option Json)) :
    ((present parts).map Prod.fst).Sublist (parts.map Prod.fst) := by
  induction parts with
  | nil => exact .slnil
  | cons p rest ih =>
    rw [present, List.filterMap_cons, List.map_cons]
    cases p.2 with
    | none => exact ih.cons p.1
    | some v => exact ih.cons_cons p.1

/-- Under each name of a record stands what was written there, if anything was. -/
theorem findMember_present {parts : List (String × Option Json)} (h : (parts.map Prod.fst).Nodup)
    (name : String) : findMember name (present parts) = partOf name parts := by
  induction parts with
  | nil => rfl
  | cons p rest ih =>
    rw [List.map_cons, List.nodup_cons] at h
    rw [present, List.filterMap_cons, partOf, ← ih h.2]
    cases hv : p.2 with
    | some v => rfl
    | none =>
      show findMember name (present rest) = _
      split
      · -- no other part has the name
        rename_i hname
        apply findMember_eq_none
        rintro m hm rfl
        apply h.1
        rw [hname]
        exact (names_present_sublist rest).subset (List.mem_map_of_mem hm)
      · rfl

/-- A record is read as one, with what was written under each name. -/
theorem fields?_record (names : List String) {parts : List (String × Option Json)}
    (h : (parts.map Prod.fst).Nodup) :
    ∃ fields, (record parts).fields? names = some fields
      ∧ ∀ name, findMember name fields.members = partOf name parts := by
  have hnodup : ((present parts).map Prod.fst).Nodup := h.sublist (names_present_sublist parts)
  have hnames : (names.all fun name =>
      Nat.ble ((present parts).countP fun m => m.1 == name) 1) = true := by
    rw [List.all_eq_true]
    intro name _
    rw [Nat.ble_eq]
    have hcount := List.nodup_iff_count.mp hnodup name
    rw [List.count, List.countP_map] at hcount
    exact hcount
  exact ⟨_, if_pos hnames, findMember_present h⟩

/-! ## Fields -/

namespace Fields

variable {α : Type} {j : Json} {fields : Fields j} {name : String} {value? : Json → Option α}

theorem required?_of_findMember {v : Json} (h : findMember name fields.members = some v) :
    fields.required? name value? = value? v := by
  rw [required?, h, Option.bind_some]

/-- A field that was left out is none, and one that was written is read back. -/
theorem optional?_of_findMember {a? : Option α} {toJson : α → Json}
    (h : findMember name fields.members = a?.map toJson)
    (hread : ∀ a ∈ a?, value? (toJson a) = some a) (hnull : ∀ a ∈ a?, toJson a ≠ .null) :
    fields.optional? name value? = some a? := by
  unfold optional?
  cases a? with
  | none =>
    rw [Option.map_none] at h
    simp only [h]
  | some a =>
    rw [h, Option.map_some]
    split
    · rename_i hnone
      cases hnone
    · rename_i hv
      exact absurd (Option.some.inj hv) (hnull a rfl)
    · rename_i v hv
      rw [← Option.some.inj hv, hread a rfl, Option.map_some]

/-- A field that was left out stands for its standard, and one that was written is read back. -/
theorem defaulted?_of_findMember {a standard : α} {v : Json} {leftOut : Bool}
    (h : findMember name fields.members = if leftOut then none else some v)
    (hstandard : leftOut = true → a = standard) (hread : value? v = some a) :
    fields.defaulted? name standard value? = some a := by
  unfold defaulted?
  cases leftOut with
  | true => rw [h, if_pos rfl, hstandard rfl]
  | false =>
    rw [h, if_neg Bool.false_ne_true]
    exact hread

end Fields

/-! ## Lists -/

theorem listOf?_map {α : Type} {item? : Json → Option α} {toJson : α → Json} {as : List α}
    (h : ∀ a ∈ as, item? (toJson a) = some a) :
    listOf? item? (.list (as.map toJson)) = some as := by
  show (as.map toJson).mapM item? = some as
  induction as with
  | nil => rfl
  | cons a rest ih =>
    rw [List.forall_mem_cons] at h
    rw [List.map_cons, List.mapM_cons, h.1, ih h.2]
    rfl

end ContentSearch.Json
