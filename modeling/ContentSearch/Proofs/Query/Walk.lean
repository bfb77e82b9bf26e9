import ContentSearch.Proofs.Query.WellFormed
import Mathlib.Data.List.Basic

/-!
# The order of a walk

Every node of a tree has a position: the numbers of the children that lead down to it from the
root. The main statement says that a walk meets every position once, in lexicographic order: a node
before what is below it, and all that is below a child before the next child. It also says that a
walker that keeps the children of a node in a queue, and walks one after the other from its front,
shows a visitor the same nodes in the same order.
-/

namespace ContentSearch

namespace Node

theorem length_walk (n : Node) : n.walk.length = (n.children.flatMap walk).length + 1 := by
  conv => lhs; rw [walk_eq_children]
  rfl

/-- The walk below a node is longer than that below its children, which the recursion goes by. -/
theorem length_walk_lt {n c : Node} (hc : c ∈ n.children) : c.walk.length < n.walk.length := by
  obtain ⟨front, back, hsplit⟩ := List.append_of_mem hc
  rw [length_walk n, hsplit, List.flatMap_append, List.flatMap_cons, List.length_append,
    List.length_append]
  omega

/-- What holds of a node if it holds of its children holds of every node. -/
theorem induction_children {motive : Node → Prop}
    (step : ∀ n : Node, (∀ c ∈ n.children, motive c) → motive n) (n : Node) : motive n :=
  step n fun c _ => induction_children step c
termination_by n.walk.length
decreasing_by exact length_walk_lt ‹_›

/-! ## Walking with a queue -/

mutual

/-- Shows a node to a visitor, which has a state of its own, and then walks the children of the
node from a queue. -/
def visitAll {σ : Type} (visit : σ → Node → σ) (s : σ) (n : Node) : σ :=
  visitQueue visit (visit s n) n.children
termination_by 2 * n.walk.length
decreasing_by
  rw [length_walk n]
  omega

/-- Walks the nodes of a queue, taking one after the other from the front. -/
def visitQueue {σ : Type} (visit : σ → Node → σ) (s : σ) : List Node → σ
  | [] => s
  | n :: queue => visitQueue visit (visitAll visit s n) queue
termination_by queue => 2 * (queue.flatMap walk).length + 1
decreasing_by
  all_goals
    rw [List.flatMap_cons, List.length_append]
    have hn := length_walk n
    omega

end

mutual

/-- The visitor is shown the nodes of the walk. -/
theorem visitAll_eq_foldl {σ : Type} (visit : σ → Node → σ) (s : σ) (n : Node) :
    visitAll visit s n = n.walk.foldl visit s := by
  rw [visitAll, visitQueue_eq_foldl visit (visit s n) n.children, ← List.foldl_cons,
    ← walk_eq_children]
termination_by 2 * n.walk.length
decreasing_by
  rw [length_walk n]
  omega

/-- A queue is walked node by node. -/
theorem visitQueue_eq_foldl {σ : Type} (visit : σ → Node → σ) (s : σ) (queue : List Node) :
    visitQueue visit s queue = (queue.flatMap walk).foldl visit s := by
  cases queue with
  | nil => rw [visitQueue, List.flatMap_nil, List.foldl_nil]
  | cons n queue =>
    rw [visitQueue, visitAll_eq_foldl visit s n, visitQueue_eq_foldl visit _ queue,
      List.flatMap_cons, List.foldl_append]
termination_by 2 * (queue.flatMap walk).length + 1
decreasing_by
  all_goals
    rw [List.flatMap_cons, List.length_append]
    have hn := length_walk n
    omega

end

/-! ## Positions -/

/-- The node at a position. -/
def at? : Node → List Nat → Option Node
  | n, [] => some n
  | n, i :: rest => n.children[i]?.bind (·.at? rest)

/-- The positions of all nodes from this one down. -/
def positions (n : Node) : List (List Nat) :=
  [] :: n.children.attach.zipIdx.flatMap fun c => (positions c.1.1).map (c.2 :: ·)
termination_by n.walk.length
decreasing_by exact length_walk_lt c.1.2

/-- The position of a node below a child begins with the place of the child. -/
theorem positions_eq (n : Node) :
    n.positions = [] :: n.children.zipIdx.flatMap fun c => c.1.positions.map (c.2 :: ·) := by
  have hchildren : n.children.zipIdx = n.children.attach.zipIdx.map (Prod.map Subtype.val id) := by
    rw [← List.zipIdx_map, List.attach_map_subtype_val]
  rw [positions, hchildren, List.flatMap_map]
  rfl

theorem at?_cons {n c : Node} {i : Nat} (hc : (c, i) ∈ n.children.zipIdx) (p : List Nat) :
    n.at? (i :: p) = c.at? p := by
  rw [at?, List.mem_zipIdx_iff_getElem?.mp hc]
  rfl

/-- Positions lead on from where they have led. -/
theorem at?_append (n : Node) (r p : List Nat) : n.at? (r ++ p) = (n.at? r).bind (·.at? p) := by
  induction r generalizing n with
  | nil => rfl
  | cons i r ih =>
    rw [List.cons_append, at?, at?, Option.bind_assoc]
    exact congrArg (n.children[i]?.bind ·) (funext ih)

/-- The positions are those at which there is a node. -/
theorem mem_positions_iff {n : Node} {p : List Nat} : p ∈ n.positions ↔ (n.at? p).isSome := by
  induction p generalizing n with
  | nil =>
    rw [positions_eq]
    exact iff_of_true List.mem_cons_self rfl
  | cons i rest ih =>
    rw [positions_eq]
    simp only [List.mem_cons, List.mem_flatMap, List.mem_map, reduceCtorEq, false_or]
    constructor
    · rintro ⟨⟨c, j⟩, hc, p, hp, hcons⟩
      obtain ⟨rfl, rfl⟩ := List.cons.inj hcons
      rw [at?_cons hc]
      exact ih.mp hp
    · intro hsome
      obtain ⟨m, hm⟩ := Option.isSome_iff_exists.mp hsome
      obtain ⟨c, hc, hm⟩ := Option.bind_eq_some_iff.mp hm
      refine ⟨(c, i), List.mem_zipIdx_iff_getElem?.mpr hc, rest, ?_, rfl⟩
      exact ih.mpr (Option.isSome_iff_exists.mpr ⟨m, hm⟩)

/-- The positions are listed in lexicographic order. -/
theorem pairwise_positions (n : Node) : n.positions.Pairwise (· < ·) := by
  induction n using induction_children with
  | step n ih =>
    rw [positions_eq, List.pairwise_cons, List.pairwise_flatMap]
    refine ⟨?_, ?_, ?_⟩
    · -- the node itself comes before all that is below it
      intro p hp
      obtain ⟨c, -, hp⟩ := List.mem_flatMap.mp hp
      obtain ⟨q, -, rfl⟩ := List.mem_map.mp hp
      exact List.nil_lt_cons _ _
    · -- below one child, the order is that of the child
      intro c hc
      have hchild : c.1 ∈ n.children := List.fst_mem_of_mem_zipIdx hc
      rw [List.pairwise_map]
      refine (ih c.1 hchild).imp fun hlt => ?_
      exact List.cons_lt_cons_iff.mpr (Or.inr ⟨rfl, hlt⟩)
    · -- what is below a child comes before what is below a later one
      have hnumbers : (n.children.zipIdx.map Prod.snd).Pairwise (· < ·) := by
        rw [List.zipIdx_map_snd]
        exact List.pairwise_lt_range'
      rw [List.pairwise_map] at hnumbers
      refine hnumbers.imp fun hlt p hp q hq => ?_
      obtain ⟨p, -, rfl⟩ := List.mem_map.mp hp
      obtain ⟨q, -, rfl⟩ := List.mem_map.mp hq
      exact List.cons_lt_cons_iff.mpr (Or.inl hlt)

/-- The nodes at the positions are those of the walk. -/
theorem map_at?_positions (n : Node) : n.positions.map n.at? = n.walk.map some := by
  induction n using induction_children with
  | step n ih =>
    have hchild : ∀ c ∈ n.children.zipIdx,
        (c.1.positions.map (c.2 :: ·)).map n.at? = c.1.walk.map some := by
      intro c hc
      rw [← ih c.1 (List.fst_mem_of_mem_zipIdx hc), List.map_map]
      exact List.map_congr_left fun p _ => at?_cons hc p
    rw [positions_eq, walk_eq_children, List.map_cons, List.map_cons, List.map_flatMap,
      List.flatMap_congr hchild, List.map_flatMap]
    refine congrArg (some n :: ·) ?_
    calc n.children.zipIdx.flatMap (fun c => c.1.walk.map some)
        = (n.children.zipIdx.map Prod.fst).flatMap fun c => c.walk.map some := by
          rw [List.flatMap_map]
      _ = n.children.flatMap fun c => c.walk.map some := by rw [List.zipIdx_map_fst]

/-- Every node that a position leads to is visited. -/
theorem mem_walk_of_at? {n m : Node} {p : List Nat} (h : n.at? p = some m) : m ∈ n.walk := by
  have hp : p ∈ n.positions := mem_positions_iff.mpr (by rw [h]; rfl)
  have hmem := List.mem_map_of_mem (f := n.at?) hp
  rw [h, map_at?_positions] at hmem
  obtain ⟨m', hm', hsame⟩ := List.mem_map.mp hmem
  rwa [← Option.some.inj hsame]

/-! ## Places in a walk -/

/-- The positions stand in the order of the nodes they lead to. -/
theorem map_at?_getElem? (n : Node) (i : Nat) :
    n.positions[i]?.map n.at? = n.walk[i]?.map some := by
  rw [← List.getElem?_map, ← List.getElem?_map, map_at?_positions]

/-- The node that a walk meets at a place is the one at the position of the place. -/
theorem walk_getElem? {n : Node} {i : Nat} {p : List Nat} (hp : n.positions[i]? = some p) :
    n.walk[i]? = n.at? p := by
  have hmap := map_at?_getElem? n i
  rw [hp, Option.map_some] at hmap
  obtain ⟨m, hm, hsome⟩ := Option.map_eq_some_iff.mp hmap.symm
  rw [hm, ← hsome]

/-- Every node that is visited has a position. -/
theorem exists_position {n m : Node} {i : Nat} (hm : n.walk[i]? = some m) :
    ∃ p, n.positions[i]? = some p ∧ n.at? p = some m := by
  have hmap := map_at?_getElem? n i
  rw [hm, Option.map_some] at hmap
  exact Option.map_eq_some_iff.mp hmap

/-- Of two places, the one with the lesser position comes first. -/
theorem lt_of_position_lt {n : Node} {i j : Nat} {p q : List Nat} (hp : n.positions[i]? = some p)
    (hq : n.positions[j]? = some q) (hlt : p < q) : i < j := by
  obtain ⟨hi, rfl⟩ := List.getElem?_eq_some_iff.mp hp
  obtain ⟨hj, rfl⟩ := List.getElem?_eq_some_iff.mp hq
  rcases Nat.lt_trichotomy i j with hij | rfl | hji
  · exact hij
  · exact absurd hlt (List.lt_irrefl _)
  · have hgt := List.pairwise_iff_getElem.mp n.pairwise_positions j i hj hi hji
    exact absurd hgt (List.lt_asymm hlt)

/-- Of two children, all below the first comes before all below the second. -/
theorem append_cons_lt_append_cons (r : List Nat) {k k' : Nat} (hk : k < k') (p p' : List Nat) :
    r ++ k :: p < r ++ k' :: p' := by
  induction r with
  | nil => exact List.cons_lt_cons_iff.mpr (Or.inl hk)
  | cons i r ih => exact List.cons_lt_cons_iff.mpr (Or.inr ⟨rfl, ih⟩)

/-! ## Queries -/

/-- What is visited below the other children of a query comes after the source. -/
theorem flatMap_walk_tail (q : Query) : (ofQuery q).tail.flatMap walk = afterSource q := by
  have hwalk : walkQuery q = .query q :: (ofQuery q).flatMap walk := walk_eq_children (.query q)
  have hsplit : (ofQuery q).flatMap walk
      = walkSource q.source ++ (ofQuery q).tail.flatMap walk := by
    rw [← walk_source]
    exact List.flatMap_cons
  rw [walkQuery_eq, hsplit] at hwalk
  exact (List.append_cancel_left (List.cons.inj hwalk).2).symm

/-- All selectors of a query stand in its source. -/
theorem exists_position_of_selector {q : Query} {p : List Nat} {s : Selector}
    (h : (query q).at? p = some (.selector s)) : ∃ rest, p = 0 :: rest := by
  match p with
  | [] => cases h
  | 0 :: rest => exact ⟨rest, rfl⟩
  | (k + 1) :: rest =>
    obtain ⟨c, hc, hs⟩ := Option.bind_eq_some_iff.mp h
    have hc : (ofQuery q).tail[k]? = some c := hc
    -- behind the source nothing declares a selector
    have hmem : .selector s ∈ afterSource q := by
      rw [← flatMap_walk_tail]
      exact List.mem_flatMap.mpr ⟨c, List.mem_of_getElem? hc, mem_walk_of_at? hs⟩
    exact absurd rfl (isSilent_of_mem_rest hmem s)

/-- Selectors are visited before all parts of the query that may refer to them. -/
theorem lt_of_selector {q : Query} {s : Selector} {i j k : Nat} {p : List Nat}
    (hi : (query q).walk[i]? = some (Node.selector s))
    (hj : (query q).positions[j]? = some ((k + 1) :: p)) : i < j := by
  obtain ⟨p', hp', hs⟩ := exists_position hi
  obtain ⟨rest, rfl⟩ := exists_position_of_selector hs
  exact lt_of_position_lt hp' hj (append_cons_lt_append_cons [] (Nat.succ_pos k) rest p)

/-- The condition of a join has a place in the walk, behind all nodes of either side. -/
theorem exists_place_of_join {n : Node} {r : List Nat} {kind : JoinKind} {left right : Source}
    {condition : JoinCondition} (hr : n.at? r = some (Node.join kind left right condition)) :
    ∃ j, n.positions[j]? = some (r ++ [2]) ∧ n.walk[j]? = some (Node.joinCondition condition)
      ∧ ∀ {i side : Nat} {p : List Nat}, side < 2 → n.positions[i]? = some (r ++ side :: p) →
        i < j := by
  have hcondition : n.at? (r ++ [2]) = some (Node.joinCondition condition) := by
    rw [at?_append, hr]
    rfl
  have hmem : r ++ [2] ∈ n.positions := mem_positions_iff.mpr (by rw [hcondition]; rfl)
  obtain ⟨j, hj⟩ := List.mem_iff_getElem?.mp hmem
  refine ⟨j, hj, (walk_getElem? hj).trans hcondition, fun hside hi => ?_⟩
  exact lt_of_position_lt hi hj (append_cons_lt_append_cons r hside _ [])

/-- A walk is the preorder traversal of a tree. A walker with a queue shows a visitor its nodes in
order; they are the nodes at the positions of the tree, each position occurring once, in
lexicographic order. So a walk of a query meets all selectors of the source, from left to right,
before any node of the constraint, the orderings and the columns, and it meets the condition of a
join after all nodes of either side. -/
theorem walk_preorder (n : Node) :
    (∀ {σ : Type} (visit : σ → Node → σ) (s : σ), n.visitAll visit s = n.walk.foldl visit s)
      ∧ n.positions.Pairwise (· < ·)
      ∧ (∀ p, p ∈ n.positions ↔ (n.at? p).isSome)
      ∧ n.positions.map n.at? = n.walk.map some
      ∧ (∀ q, n = .query q → declared n.walk = q.source.selectors
        ∧ ∀ {i j k : Nat} {p : List Nat} {s : Selector}, n.walk[i]? = some (Node.selector s) →
          n.positions[j]? = some ((k + 1) :: p) → i < j)
      ∧ ∀ r kind left right condition, n.at? r = some (Node.join kind left right condition) →
        ∃ j, n.positions[j]? = some (r ++ [2]) ∧ n.walk[j]? = some (Node.joinCondition condition)
          ∧ ∀ {i side : Nat} {p : List Nat}, side < 2 → n.positions[i]? = some (r ++ side :: p) →
            i < j := by
  refine ⟨fun visit s => visitAll_eq_foldl visit s n, n.pairwise_positions,
    fun p => mem_positions_iff, n.map_at?_positions, ?_, ?_⟩
  · rintro q rfl
    exact ⟨declared_walkQuery q, lt_of_selector⟩
  · intro r kind left right condition hr
    exact exists_place_of_join hr

/-- Documents with long titles in folders that have an owner. -/
def filed : Query :=
  ⟨.join .inner (.selector ⟨"doc", some "d"⟩) (.selector ⟨"folder", some "f"⟩) (.child "d" "f"),
    some (.and (.compare (.length ⟨some "d", "title"⟩) .greaterThan
      (.literal (Literal.ofValue (.long 3)))) (.hasValue ⟨some "f", "owner"⟩)),
    [⟨.name (some "d"), .ascending⟩], [⟨some "d", some "title", none⟩], Limit.unlimited⟩

/-- The folders come before the constraint and before the condition that joins them to the
documents. -/
theorem walk_preorder_filed :
    (query filed).walk[3]? = some (Node.selector ⟨"folder", some "f"⟩)
      ∧ (query filed).positions[5]? = some [1] ∧ 3 < 5
      ∧ declared (query filed).walk = [⟨"doc", some "d"⟩, ⟨"folder", some "f"⟩]
      ∧ ∃ j, (query filed).walk[j]? = some (Node.joinCondition (.child "d" "f")) ∧ 3 < j := by
  have hfolder : (query filed).walk[3]? = some (Node.selector ⟨"folder", some "f"⟩) := rfl
  have hplace : (query filed).positions[3]? = some ([0] ++ 1 :: []) := by decide +kernel
  have hconstraint : (query filed).positions[5]? = some [1] := by decide +kernel
  obtain ⟨-, -, -, -, hquery, hjoin⟩ := walk_preorder (query filed)
  obtain ⟨hselectors, hfirst⟩ := hquery filed rfl
  obtain ⟨j, -, hcondition, hbehind⟩ := hjoin [0] .inner _ _ _ rfl
  exact ⟨hfolder, hconstraint, hfirst hfolder hconstraint, hselectors, j, hcondition,
    hbehind (by decide) hplace⟩

end Node

end ContentSearch
