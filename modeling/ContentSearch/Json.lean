import ContentSearch.Number.Binary64

/-!
# JSON values

The data that documents are made of. Integers and other numbers are kept apart, and an object may
hold several members of one name.
-/

namespace ContentSearch

open Number

/-- A JSON value. -/
inductive Json
  | null
  | bool (b : Bool)
  | int (n : Int)
  | real (x : Binary64)
  | text (s : String)
  | list (items : List Json)
  | object (members : List (String × Json))

namespace Json

instance : Inhabited Json := ⟨null⟩

/-- The first member of a name in a list of members. -/
def findMember (name : String) : List (String × Json) → Option Json
  | [] => none
  | m :: rest => if m.1 = name then some m.2 else findMember name rest

theorem mem_of_findMember {name : String} {members : List (String × Json)} {v : Json}
    (h : findMember name members = some v) : (name, v) ∈ members := by
  induction members with
  | nil => simp [findMember] at h
  | cons m rest ih =>
    rw [findMember] at h
    split at h
    · next hm =>
      cases h
      subst hm
      simp
    · exact List.mem_cons_of_mem _ (ih h)

/-- The member of a name of an object. -/
def member? (name : String) : Json → Option Json
  | .object members => findMember name members
  | _ => none

/-- The single member of an object that has just one: the form of a value that is one of several
kinds. -/
def variant? : Json → Option (String × Json)
  | .object [m] => some m
  | _ => none

theorem sizeOf_variant? {j v : Json} {tag : String} (h : j.variant? = some (tag, v)) :
    sizeOf v < sizeOf j := by
  unfold variant? at h
  split at h
  · cases h
    simp
    omega
  · cases h

/-! ## Building -/

/-- An object with one member. -/
def tagged (tag : String) (v : Json) : Json :=
  .object [(tag, v)]

/-- A natural number. -/
def nat (n : Nat) : Json :=
  .int n

/-- A value, or null. -/
def optional (v? : Option Json) : Json :=
  v?.getD .null

/-- A list of texts. -/
def texts (items : List String) : Json :=
  .list (items.map .text)

/-- An object without the members that have no value. -/
def record (members : List (String × Option Json)) : Json :=
  .object (members.filterMap fun m => m.2.map fun v => (m.1, v))

/-! ## Repeated members -/

mutual

/-- Keeps the last member of each name, everywhere in a value. -/
def lastWins : Json → Json
  | .list items => .list (lastWinsItems items)
  | .object members => .object (lastWinsMembers members)
  | j => j

/-- Keeps the last member of each name in every item. -/
def lastWinsItems : List Json → List Json
  | [] => []
  | j :: rest => lastWins j :: lastWinsItems rest

/-- Drops a member that is followed by one of its name. -/
def lastWinsMembers : List (String × Json) → List (String × Json)
  | [] => []
  | (name, v) :: rest =>
    if (findMember name rest).isSome then lastWinsMembers rest
    else (name, lastWins v) :: lastWinsMembers rest

end

end Json

end ContentSearch
