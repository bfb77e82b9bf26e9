import ContentSearch.Json.Reading
import ContentSearch.Proofs.Json.Token

/-!
# Reading printed JSON

A value that is printed and read again is the same value, unless lists and objects stand in each
other deeper than the reader allows; then its text is refused (`Json.ofTextWithin?_print`). The
reader takes the tokens of a value one by one and ends behind the value with the stack it began
with.
-/

namespace ContentSearch.Json

/-! ## Depth -/

mutual

/-- How deep lists and objects stand in each other in a value. -/
def depth : Json → Nat
  | .list items => depthOfItems items + 1
  | .object members => depthOfMembers members + 1
  | _ => 0

/-- The depth of the deepest item. -/
def depthOfItems : List Json → Nat
  | [] => 0
  | j :: rest => max (depth j) (depthOfItems rest)

/-- The depth of the deepest member. -/
def depthOfMembers : List (String × Json) → Nat
  | [] => 0
  | (_, v) :: rest => max (depth v) (depthOfMembers rest)

end

theorem add_depthOfItems_le_iff {items : List Json} {n limit : Nat} :
    n + depthOfItems items ≤ limit ↔ n ≤ limit ∧ ∀ j ∈ items, n + j.depth ≤ limit := by
  induction items with
  | nil => simp [depthOfItems]
  | cons j rest ih =>
    rw [depthOfItems, List.forall_mem_cons, and_left_comm, ← ih]
    omega

theorem add_depthOfMembers_le_iff {members : List (String × Json)} {n limit : Nat} :
    n + depthOfMembers members ≤ limit ↔ n ≤ limit ∧ ∀ m ∈ members, n + m.2.depth ≤ limit := by
  induction members with
  | nil => simp [depthOfMembers]
  | cons m rest ih =>
    rw [depthOfMembers, List.forall_mem_cons, and_left_comm, ← ih]
    omega

/-! ## Taking in tokens -/

/-- A run of tokens, taken in one by one. -/
def Progress.run? (limit : Nat) (p : Progress) (ts : List Token) : Option Progress :=
  ts.foldlM (Progress.step? limit) p

variable {limit : Nat}

@[simp] theorem Progress.run?_nil (p : Progress) : p.run? limit [] = some p := rfl

@[simp] theorem Progress.run?_cons (p : Progress) (t : Token) (ts : List Token) :
    p.run? limit (t :: ts) = (p.step? limit t).bind fun next => next.run? limit ts := rfl

@[simp] theorem Progress.run?_append (p : Progress) (ts ts' : List Token) :
    p.run? limit (ts ++ ts') = (p.run? limit ts).bind fun next => next.run? limit ts' :=
  List.foldlM_append

/-- Where a value should begin, the tokens of a value are taken in exactly if the value is not too
deep for the room that is left. -/
def Builds (limit : Nat) (ts : List Token) (j : Json) : Prop :=
  ∀ stack, stack.length ≤ limit → Progress.run? limit ⟨stack, .value⟩ ts
    = if stack.length + j.depth ≤ limit then some ⟨stack, .after j⟩ else none

/-- The tokens of a value do not begin with the end of a list. -/
theorem run?_firstItem {j : Json} (stack : List Frame) :
    Progress.run? limit ⟨stack, .firstItem⟩ j.tokens
      = Progress.run? limit ⟨stack, .value⟩ j.tokens := by
  cases j <;> rfl

/-- The items behind the first one, up to the end of the list. -/
theorem run?_items {items : List Json} (h : ∀ j ∈ items, Builds limit j.tokens j)
    {stack : List Frame} (hopen : stack.length + 1 ≤ limit) (before : List Json) (v : Json) :
    Progress.run? limit ⟨.list before :: stack, .after v⟩
        (items.flatMap (fun j => .comma :: j.tokens) ++ [.closeList])
      = if ∀ j ∈ items, stack.length + 1 + j.depth ≤ limit then
          some ⟨stack, .after (.list (before.reverse ++ v :: items))⟩
        else none := by
  induction items generalizing before v with
  | nil => simp [Progress.step?, Progress.after?]
  | cons j rest ih =>
    rw [List.forall_mem_cons] at h
    have hcomma : Progress.step? limit ⟨.list before :: stack, .after v⟩ .comma
        = some ⟨.list (v :: before) :: stack, .value⟩ := rfl
    have hitem := h.1 (.list (v :: before) :: stack) hopen
    rw [List.length_cons] at hitem
    rw [List.flatMap_cons, List.append_assoc, List.cons_append, Progress.run?_cons, hcomma,
      Option.bind_some, Progress.run?_append, hitem]
    by_cases hdepth : stack.length + 1 + j.depth ≤ limit
    · rw [if_pos hdepth, Option.bind_some, ih h.2]
      simp only [List.forall_mem_cons, hdepth, true_and, List.reverse_cons, List.append_assoc,
        List.singleton_append]
    · have hnot : ¬∀ j' ∈ j :: rest, stack.length + 1 + j'.depth ≤ limit :=
        fun hall => hdepth (hall j List.mem_cons_self)
      rw [if_neg hdepth, if_neg hnot]
      rfl

/-- The members behind the first one, up to the end of the object. -/
theorem run?_members {members : List (String × Json)}
    (h : ∀ m ∈ members, Builds limit m.2.tokens m.2) {stack : List Frame}
    (hopen : stack.length + 1 ≤ limit) (before : List (String × Json)) (name : String) (v : Json) :
    Progress.run? limit ⟨.object before name :: stack, .after v⟩
        (members.flatMap (fun m => .comma :: .string m.1 :: .colon :: m.2.tokens)
          ++ [.closeObject])
      = if ∀ m ∈ members, stack.length + 1 + m.2.depth ≤ limit then
          some ⟨stack, .after (.object (before.reverse ++ (name, v) :: members))⟩
        else none := by
  induction members generalizing before name v with
  | nil => simp [Progress.step?, Progress.after?]
  | cons m rest ih =>
    rw [List.forall_mem_cons] at h
    have hname : ∀ ts, Progress.run? limit ⟨.object before name :: stack, .after v⟩
          (.comma :: .string m.1 :: .colon :: ts)
        = Progress.run? limit ⟨.object ((name, v) :: before) m.1 :: stack, .value⟩ ts :=
      fun _ => rfl
    have hmember := h.1 (.object ((name, v) :: before) m.1 :: stack) hopen
    rw [List.length_cons] at hmember
    rw [List.flatMap_cons, List.append_assoc, List.cons_append, List.cons_append, List.cons_append,
      hname, Progress.run?_append, hmember]
    by_cases hdepth : stack.length + 1 + m.2.depth ≤ limit
    · rw [if_pos hdepth, Option.bind_some, ih h.2]
      simp only [List.forall_mem_cons, hdepth, true_and, List.reverse_cons, List.append_assoc,
        List.singleton_append]
    · have hnot : ¬∀ m' ∈ m :: rest, stack.length + 1 + m'.2.depth ≤ limit :=
        fun hall => hdepth (hall m List.mem_cons_self)
      rw [if_neg hdepth, if_neg hnot]
      rfl

/-- A bracket is taken in if there is room for one more. -/
theorem run?_push {stack : List Frame} {t : Token} {frame : Frame} {expect : Expect}
    (ht : Progress.value? limit stack t = Progress.push? limit stack frame expect)
    (ts : List Token) :
    Progress.run? limit ⟨stack, .value⟩ (t :: ts)
      = if stack.length < limit then Progress.run? limit ⟨frame :: stack, expect⟩ ts
        else none := by
  have hstep : Progress.step? limit ⟨stack, .value⟩ t = Progress.value? limit stack t := rfl
  rw [Progress.run?_cons, hstep, ht, Progress.push?]
  split <;> rfl

/-- The tokens of a list, if those of its items are taken in. -/
theorem builds_list {items : List Json} (h : ∀ j ∈ items, Builds limit j.tokens j) :
    Builds limit (tokens (.list items)) (.list items) := by
  intro stack _
  simp only [depth, ← Nat.add_assoc, Nat.add_right_comm _ _ 1, add_depthOfItems_le_iff]
  rw [tokens, itemTokens_eq_map, run?_push rfl]
  by_cases hfull : limit ≤ stack.length
  · rw [if_neg (Nat.not_lt.mpr hfull), if_neg fun hall => Nat.not_lt.mpr hfull hall.1]
  have hopen : stack.length + 1 ≤ limit := Nat.not_le.mp hfull
  rw [if_pos (Nat.not_le.mp hfull)]
  cases items with
  | nil => simp [separated, Progress.step?, hopen]
  | cons first rest =>
    rw [List.forall_mem_cons] at h
    have hfirst := h.1 (.list [] :: stack) hopen
    rw [List.length_cons] at hfirst
    rw [List.map_cons, separated, List.flatMap_map, List.append_assoc, Progress.run?_append,
      run?_firstItem, hfirst]
    by_cases hdepth : stack.length + 1 + first.depth ≤ limit
    · rw [if_pos hdepth, Option.bind_some, run?_items h.2 hopen]
      simp only [List.forall_mem_cons, hopen, hdepth, true_and, List.reverse_nil, List.nil_append]
    · rw [if_neg hdepth, if_neg fun hall => hdepth (hall.2 first List.mem_cons_self)]
      rfl

/-- The tokens of an object, if those of its members are taken in. -/
theorem builds_object {members : List (String × Json)}
    (h : ∀ m ∈ members, Builds limit m.2.tokens m.2) :
    Builds limit (tokens (.object members)) (.object members) := by
  intro stack _
  simp only [depth, ← Nat.add_assoc, Nat.add_right_comm _ _ 1, add_depthOfMembers_le_iff]
  rw [tokens, memberTokens_eq_map, run?_push rfl]
  by_cases hfull : limit ≤ stack.length
  · rw [if_neg (Nat.not_lt.mpr hfull), if_neg fun hall => Nat.not_lt.mpr hfull hall.1]
  have hopen : stack.length + 1 ≤ limit := Nat.not_le.mp hfull
  rw [if_pos (Nat.not_le.mp hfull)]
  cases members with
  | nil => simp [separated, Progress.step?, hopen]
  | cons first rest =>
    rw [List.forall_mem_cons] at h
    have hname : ∀ ts, Progress.run? limit ⟨.object [] "" :: stack, .firstName⟩
          (.string first.1 :: .colon :: ts)
        = Progress.run? limit ⟨.object [] first.1 :: stack, .value⟩ ts := fun _ => rfl
    have hfirst := h.1 (.object [] first.1 :: stack) hopen
    rw [List.length_cons] at hfirst
    rw [List.map_cons, separated, List.flatMap_map, List.append_assoc, List.cons_append,
      List.cons_append, hname, Progress.run?_append, hfirst]
    by_cases hdepth : stack.length + 1 + first.2.depth ≤ limit
    · rw [if_pos hdepth, Option.bind_some, run?_members h.2 hopen]
      simp only [List.forall_mem_cons, hopen, hdepth, true_and, List.reverse_nil, List.nil_append]
    · rw [if_neg hdepth, if_neg fun hall => hdepth (hall.2 first List.mem_cons_self)]
      rfl

mutual

/-- The tokens of any value are taken in if it is not too deep. -/
theorem builds_tokens : ∀ j : Json, Builds limit j.tokens j
  | .null | .bool _ | .int _ | .real _ | .text _ => fun _ hstack => (if_pos hstack).symm
  | .list items => builds_list (builds_items items)
  | .object members => builds_object (builds_members members)

theorem builds_items : ∀ items : List Json, ∀ j ∈ items, Builds limit j.tokens j
  | [] => List.forall_mem_nil _
  | j :: rest => List.forall_mem_cons.mpr ⟨builds_tokens j, builds_items rest⟩

theorem builds_members : ∀ members : List (String × Json),
    ∀ m ∈ members, Builds limit m.2.tokens m.2
  | [] => List.forall_mem_nil _
  | (_, v) :: rest => List.forall_mem_cons.mpr ⟨builds_tokens v, builds_members rest⟩

end

/-! ## Texts -/

/-- A value is read back from its text, unless it is too deep. -/
theorem ofTextWithin?_print {layout : Layout} (hlayout : layout.IsBlank) {j : Json}
    (hj : j.AllLeaves IsExactLeaf) :
    ofTextWithin? limit (print layout 0 j) = if j.depth ≤ limit then some j else none := by
  have hscan : scan? .between (print layout 0 j).toList = some j.tokens := by
    have hscans := scans_print hlayout hj 0 [] trivial
    rw [List.append_nil] at hscans
    rw [hscans]
    exact congrArg some (List.append_nil j.tokens)
  have hbuilds : j.tokens.foldlM (Progress.step? limit) ⟨[], .value⟩
      = if [].length + j.depth ≤ limit then some ⟨[], .after j⟩ else none :=
    builds_tokens j [] (Nat.zero_le limit)
  rw [List.length_nil, Nat.zero_add] at hbuilds
  rw [ofTextWithin?, hscan, Option.bind_some, hbuilds]
  by_cases hdepth : j.depth ≤ limit
  · rw [if_pos hdepth, if_pos hdepth]
  · rw [if_neg hdepth, if_neg hdepth]

/-- So is the text of a value on one line, read as a document. -/
theorem ofText?_compact {j : Json} (hj : j.AllLeaves IsExactLeaf) :
    ofText? j.compact = if j.depth ≤ maxDepth then some j else none :=
  ofTextWithin?_print Layout.isBlank_compact hj

end ContentSearch.Json
