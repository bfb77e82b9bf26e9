import ContentSearch.Proofs.Plan.Expansion
import ContentSearch.Proofs.Plan.Key
import Mathlib.Tactic.ByContra

/-!
# Remembered plans and fresh plans

A memo answers calls by the plans that it keeps, and gives kept plans up at any time. The main
statement says exactly when all its answers are the plans that would be made afresh: when no call
shares its key with an earlier call of another plan. Keys are texts put together with zero
characters. Calls without zero characters share a key only if they look alike, and it is alike calls
that have to have the same plan; calls that contain zero characters can share a key although they
are different.
-/

namespace ContentSearch

/-- A query to be planned, with the values of its variables. -/
structure PlanCall where
  query : Query
  bindings : Bindings

namespace PlanCall

/-- What the plan of the call is kept under. -/
def key (c : PlanCall) : String :=
  PlanMemo.key c.query.statement c.bindings

/-- The plan that is made for the call when nothing is kept. -/
def fresh (rules : PlanRules) (c : PlanCall) : Except PlanError Plan :=
  Plan.ofQuery rules c.query c.bindings

/-- An earlier call takes the place of a later one: both have one key, the earlier one has a plan,
and the later one another or none. -/
def Shadows (rules : PlanRules) (earlier later : PlanCall) : Prop :=
  earlier.key = later.key
    ∧ ∃ p, earlier.fresh rules = .ok p ∧ later.fresh rules ≠ .ok p

/-- Statement, names and texts of a call are free of zero characters. -/
def ZeroFree (c : PlanCall) : Prop :=
  IsZeroFree c.query.statement ∧ ∀ t ∈ PlanMemo.tags c.bindings, t.ZeroFree

/-- Two calls have one statement, and bind the same names to values of the same types and texts. -/
def LooksLike (c c' : PlanCall) : Prop :=
  c.query.statement = c'.query.statement
    ∧ PlanMemo.tags c.bindings = PlanMemo.tags c'.bindings

/-- Without zero characters, a call does not take the place of a later one if the plan of the one is
that of the other, should they look alike. -/
theorem not_shadows_iff {rules : PlanRules} {earlier later : PlanCall} (hearlier : earlier.ZeroFree)
    (hlater : later.ZeroFree) :
    ¬earlier.Shadows rules later
      ↔ (earlier.LooksLike later →
          ∀ p, earlier.fresh rules = .ok p → later.fresh rules = .ok p) := by
  have hkey : earlier.key = later.key ↔ earlier.LooksLike later :=
    PlanMemo.key_eq_iff hearlier.1 hlater.1 hearlier.2 hlater.2
  rw [Shadows, hkey, not_and, not_exists]
  simp only [not_and, ne_eq, not_not]

end PlanCall

/-- A call, and the keys of the plans that are still kept when it comes. -/
structure PlanTurn where
  call : PlanCall
  keeps : String → Bool

namespace PlanMemo

/-- Gives up all plans but those of some keys. -/
def evict (m : PlanMemo) (keeps : String → Bool) : PlanMemo :=
  { m with plans := m.plans.filter fun k _ => keeps k }

/-- The memo and its answer after a turn. -/
def turn (m : PlanMemo) (rules : PlanRules) (t : PlanTurn) : PlanMemo × Except PlanError Plan :=
  let (next, answer) := (m.evict t.keeps).plan rules t.call.query t.call.bindings
  (next, answer.map (·.plan))

/-- The answers to a sequence of turns. -/
def answers (m : PlanMemo) (rules : PlanRules) : List PlanTurn → List (Except PlanError Plan)
  | [] => []
  | t :: rest =>
    let (next, answer) := m.turn rules t
    answer :: next.answers rules rest

/-! ## One turn -/

/-- The plan that is kept under a key. -/
def kept? (m : PlanMemo) (key : String) : Option Plan :=
  (m.plans.get? key).map (·.plan)

theorem kept?_evict {m : PlanMemo} {keeps : String → Bool} {key : String} :
    (m.evict keeps).kept? key = if keeps key then m.kept? key else none := by
  unfold kept? evict
  rw [OrderedMap.get?_filter]
  cases m.plans.get? key with
  | none => simp
  | some n => simp [Option.filter]

/-- A plan that is kept is the answer, and the memo stays as it is. -/
theorem plan_of_kept {m : PlanMemo} {c : PlanCall} {p : Plan} (h : m.kept? c.key = some p)
    (rules : PlanRules) :
    ∃ n, m.plan rules c.query c.bindings = (m, .ok n) ∧ n.plan = p := by
  obtain ⟨n, hn, hp⟩ := Option.map_eq_some_iff.mp h
  have hfind : m.find? c.query c.bindings = some n := hn
  refine ⟨n, ?_, hp⟩
  simp only [plan, hfind]

/-- Without a kept plan the answer is fresh, and from then on the plan is kept, if there is one. -/
theorem plan_of_not_kept {m : PlanMemo} {c : PlanCall} (h : m.kept? c.key = none)
    (rules : PlanRules) :
    ∃ next answer, m.plan rules c.query c.bindings = (next, answer)
      ∧ answer.map (·.plan) = c.fresh rules
      ∧ ∀ key, next.kept? key
        = if key = c.key then (c.fresh rules).toOption else m.kept? key := by
  have hfind : m.find? c.query c.bindings = none := Option.map_eq_none_iff.mp h
  unfold PlanCall.fresh
  cases hmade : Plan.ofQuery rules c.query c.bindings with
  | error problem =>
    -- errors are not kept
    refine ⟨m, .error problem, by simp only [plan, hfind, hmade], rfl, fun key => ?_⟩
    split
    · rename_i hkey
      rw [hkey, h]
      rfl
    · rfl
  | ok made =>
    refine ⟨(m.keep c.key made).1, .ok (m.keep c.key made).2,
      by simp only [plan, hfind, hmade, PlanCall.key], rfl, fun key => ?_⟩
    unfold kept? keep
    rw [OrderedMap.get?_insert]
    split
    · rfl
    · rfl

/-! ## Answers that are fresh -/

/-- Every plan that is kept was made for one of these calls, under its key. -/
def MadeFor (m : PlanMemo) (rules : PlanRules) (calls : List PlanCall) : Prop :=
  ∀ key p, m.kept? key = some p → ∃ c ∈ calls, c.key = key ∧ c.fresh rules = .ok p

theorem MadeFor.evict {m : PlanMemo} {rules : PlanRules} {calls : List PlanCall}
    (h : m.MadeFor rules calls) (keeps : String → Bool) : (m.evict keeps).MadeFor rules calls := by
  intro key p hp
  rw [kept?_evict] at hp
  split at hp
  · exact h key p hp
  · cases hp

/-- A turn that no earlier call shadows has a fresh answer, and its plan is made for it. -/
theorem MadeFor.turn {m : PlanMemo} {rules : PlanRules} {calls : List PlanCall}
    (h : m.MadeFor rules calls) {t : PlanTurn}
    (hshadow : ∀ c ∈ calls, ¬c.Shadows rules t.call) :
    (m.turn rules t).2 = t.call.fresh rules
      ∧ (m.turn rules t).1.MadeFor rules (t.call :: calls) := by
  have hevicted := h.evict t.keeps
  cases hkept : (m.evict t.keeps).kept? t.call.key with
  | some p =>
    obtain ⟨n, hplan, hn⟩ := plan_of_kept hkept rules
    -- the kept plan was made for a call with the same key, which is no other plan
    obtain ⟨c, hc, hkey, hfresh⟩ := hevicted _ p hkept
    have hsame : t.call.fresh rules = .ok p := by
      by_contra hother
      exact hshadow c hc ⟨hkey, p, hfresh, hother⟩
    simp only [PlanMemo.turn, hplan]
    refine ⟨?_, fun key q hq => ?_⟩
    · rw [hsame, ← hn]
      rfl
    · obtain ⟨c, hc, hmade⟩ := hevicted key q hq
      exact ⟨c, List.mem_cons_of_mem _ hc, hmade⟩
  | none =>
    -- a new plan is kept for the call itself, the others were kept before
    obtain ⟨next, answer, hplan, hanswer, hnext⟩ := plan_of_not_kept hkept rules
    simp only [PlanMemo.turn, hplan]
    refine ⟨hanswer, fun key q hq => ?_⟩
    rw [hnext] at hq
    split at hq
    · rename_i hkey
      exact ⟨t.call, List.mem_cons_self, hkey.symm, Outcome.toOption_eq_some hq⟩
    · obtain ⟨c, hc, hmade⟩ := hevicted key q hq
      exact ⟨c, List.mem_cons_of_mem _ hc, hmade⟩

theorem MadeFor.answers {rules : PlanRules} {turns : List PlanTurn} {m : PlanMemo}
    {calls : List PlanCall} (h : m.MadeFor rules calls)
    (hpast : ∀ c ∈ calls, ∀ t ∈ turns, ¬c.Shadows rules t.call)
    (hturns : turns.Pairwise fun earlier later => ¬earlier.call.Shadows rules later.call) :
    m.answers rules turns = turns.map (·.call.fresh rules) := by
  induction turns generalizing m calls with
  | nil => rfl
  | cons t rest ih =>
    obtain ⟨hfirst, hrest⟩ := List.pairwise_cons.mp hturns
    obtain ⟨hanswer, hnext⟩ := h.turn fun c hc => hpast c hc t List.mem_cons_self
    have hpast' : ∀ c ∈ t.call :: calls, ∀ later ∈ rest, ¬c.Shadows rules later.call := by
      intro c hc later hlater
      rcases List.mem_cons.mp hc with rfl | hc
      · exact hfirst later hlater
      · exact hpast c hc later (List.mem_cons_of_mem t hlater)
    rw [PlanMemo.answers, List.map_cons]
    simp only [hanswer, ih hnext hpast' hrest]

/-! ## Calls whose answers are fresh -/

/-- A turn before which nothing is given up. -/
def keepingAll (c : PlanCall) : PlanTurn :=
  ⟨c, fun _ => true⟩

/-- Every plan of these calls is kept under the key of the call. -/
def Keeps (m : PlanMemo) (rules : PlanRules) (calls : List PlanCall) : Prop :=
  ∀ c ∈ calls, ∀ p, c.fresh rules = .ok p → m.kept? c.key = some p

theorem Keeps.not_shadows {m : PlanMemo} {rules : PlanRules} {calls : List PlanCall}
    (h : m.Keeps rules calls) {c : PlanCall}
    (hanswer : ∀ p, m.kept? c.key = some p → c.fresh rules = .ok p) :
    ∀ earlier ∈ calls, ¬earlier.Shadows rules c := by
  rintro earlier hmem ⟨hkey, p, hfresh, hother⟩
  have hkept := h earlier hmem p hfresh
  rw [hkey] at hkept
  exact hother (hanswer p hkept)

theorem turn_keepingAll {m : PlanMemo} {rules : PlanRules} {c : PlanCall} {next : PlanMemo}
    {answer : Except PlanError NumberedPlan}
    (h : m.plan rules c.query c.bindings = (next, answer)) :
    m.turn rules (keepingAll c) = (next, answer.map (·.plan)) := by
  have hall : m.evict (keepingAll c).keeps = m := by
    have hplans : (m.plans.filter fun k _ => (keepingAll c).keeps k) = m.plans :=
      OrderedMap.filter_eq_self fun _ _ => rfl
    unfold evict
    rw [hplans]
  unfold turn
  rw [hall]
  simp only [keepingAll, h]

/-- After a fresh answer the plan of the call is kept as well, and no earlier call shadows it. -/
theorem Keeps.turn {m : PlanMemo} {rules : PlanRules} {calls : List PlanCall}
    (h : m.Keeps rules calls) {c : PlanCall}
    (hanswer : (m.turn rules (keepingAll c)).2 = c.fresh rules) :
    (∀ earlier ∈ calls, ¬earlier.Shadows rules c)
      ∧ (m.turn rules (keepingAll c)).1.Keeps rules (c :: calls) := by
  cases hkept : m.kept? c.key with
  | some p =>
    obtain ⟨n, hplan, rfl⟩ := plan_of_kept hkept rules
    rw [turn_keepingAll hplan] at hanswer ⊢
    -- the kept plan is the answer, so it is the fresh plan
    have hfresh : c.fresh rules = .ok n.plan := hanswer.symm
    refine ⟨h.not_shadows fun p hp => ?_, fun c' hc' p hp => ?_⟩
    · rw [hfresh, ← Option.some.inj (hkept.symm.trans hp)]
    · rcases List.mem_cons.mp hc' with rfl | hc'
      · rw [hfresh] at hp
        rw [← Except.ok.inj hp]
        exact hkept
      · exact h c' hc' p hp
  | none =>
    obtain ⟨next, answer, hplan, -, hnext⟩ := plan_of_not_kept hkept rules
    rw [turn_keepingAll hplan]
    refine ⟨h.not_shadows fun p hp => ?_, fun c' hc' p hp => ?_⟩
    · rw [hkept] at hp
      cases hp
    · rw [hnext]
      split
      · rename_i hkey
        rcases List.mem_cons.mp hc' with rfl | hc'
        · rw [hp]
          rfl
        · -- no earlier call with a plan has this key
          have hother := h c' hc' p hp
          rw [hkey, hkept] at hother
          cases hother
      · rename_i hkey
        rcases List.mem_cons.mp hc' with rfl | hc'
        · exact absurd rfl hkey
        · exact h c' hc' p hp

theorem Keeps.pairwise_of_answers {rules : PlanRules} {later : List PlanCall} {m : PlanMemo}
    {calls : List PlanCall} (h : m.Keeps rules calls)
    (hanswers : m.answers rules (later.map keepingAll) = later.map (·.fresh rules)) :
    (∀ earlier ∈ calls, ∀ c ∈ later, ¬earlier.Shadows rules c)
      ∧ later.Pairwise fun earlier c => ¬earlier.Shadows rules c := by
  induction later generalizing m calls with
  | nil => exact ⟨fun _ _ c hc => (List.not_mem_nil hc).elim, List.Pairwise.nil⟩
  | cons c rest ih =>
    rw [List.map_cons, List.map_cons, PlanMemo.answers] at hanswers
    obtain ⟨hanswer, hrest⟩ := List.cons.inj hanswers
    obtain ⟨hfirst, hnext⟩ := h.turn hanswer
    obtain ⟨hpast, hpairwise⟩ := ih hnext hrest
    refine ⟨fun earlier hearlier d hd => ?_, ?_⟩
    · rcases List.mem_cons.mp hd with rfl | hd
      · exact hfirst earlier hearlier
      · exact hpast earlier (List.mem_cons_of_mem c hearlier) d hd
    · exact List.pairwise_cons.mpr ⟨hpast c List.mem_cons_self, hpairwise⟩

/-- The answers to a sequence of calls are the plans and errors that would be made afresh, whatever
is given up in between, exactly if no call shadows a later one: no later call has the key of an
earlier one that has another plan. For calls without zero characters this says that a later call has
the plan of an earlier one that looks like it, if the earlier one has a plan. -/
theorem answers_fresh_iff (rules : PlanRules) (calls : List PlanCall) :
    ((∀ turns : List PlanTurn, turns.map (·.call) = calls →
        empty.answers rules turns = calls.map (·.fresh rules))
      ↔ calls.Pairwise fun earlier later => ¬earlier.Shadows rules later)
    ∧ ((∀ c ∈ calls, c.ZeroFree) →
      (calls.Pairwise (fun earlier later => ¬earlier.Shadows rules later)
        ↔ calls.Pairwise fun earlier later => earlier.LooksLike later →
            ∀ p, earlier.fresh rules = .ok p → later.fresh rules = .ok p)) := by
  refine ⟨⟨?_, ?_⟩, fun hfree => ?_⟩
  · -- it is enough to give nothing up: then every shadow is seen
    intro h
    have hnone : empty.Keeps rules [] := fun c hc => (List.not_mem_nil hc).elim
    refine (hnone.pairwise_of_answers (h (calls.map keepingAll) ?_)).2
    rw [List.map_map]
    exact List.map_id calls
  · -- a plan that is still kept was made for a call with the same plan
    rintro h turns rfl
    have hnone : empty.MadeFor rules [] := fun key p hp => by cases hp
    rw [hnone.answers (fun c hc => (List.not_mem_nil hc).elim) (List.pairwise_map.mp h),
      List.map_map]
    rfl
  · exact List.Pairwise.iff_of_mem fun hearlier hlater =>
      PlanCall.not_shadows_iff (hfree _ hearlier) (hfree _ hlater)

/-! ## Calls with two variables -/

/-- Title and owner of documents are text. -/
def ownedRules : PlanRules :=
  { schema := Schema.empty.withTable
      (Table.ofColumns "doc" [Column.plain "title" .string, Column.plain "owner" .string])
    caseSensitive := true
    checksColumns := true
    resolvePath := fun _ => none }

/-- Asks for a title and an owner by two variables. -/
def ownedQuery : Query :=
  (Query.all (.selector ⟨"doc", none⟩)).withConstraint
    (.and (.compare (.property ⟨none, "title"⟩) .equalTo (.variable "x"))
      (.compare (.property ⟨none, "owner"⟩) .equalTo (.variable "y")))

/-- Both variables have values. -/
def bothBound : PlanCall :=
  ⟨ownedQuery, OrderedMap.ofList [("x", .string "1"), ("y", .string "2")]⟩

/-- One variable has a value, which spells out the part of a key that stands for the other. -/
def oneBound : PlanCall :=
  ⟨ownedQuery, OrderedMap.ofList [("x", .string "1\x00y\x00STRING:2")]⟩

theorem sortedBindings_bothBound :
    sortedBindings bothBound.bindings = [("x", .string "1"), ("y", .string "2")] :=
  List.mergeSort_of_pairwise (by decide +kernel)

/-- A call that comes twice has no zero characters, and both answers are fresh. -/
theorem answers_fresh_iff_twice :
    (∀ c ∈ [bothBound, bothBound], c.ZeroFree)
      ∧ ∀ turns : List PlanTurn, turns.map (·.call) = [bothBound, bothBound] →
        empty.answers ownedRules turns
          = [bothBound.fresh ownedRules, bothBound.fresh ownedRules] := by
  have hstatement : IsZeroFree bothBound.query.statement := by
    rw [IsZeroFree]
    decide +kernel
  have htags : ∀ t ∈ tags bothBound.bindings, t.ZeroFree := by
    rw [tags, sortedBindings_bothBound]
    simp only [Tag.ZeroFree, IsZeroFree]
    decide +kernel
  have hfree : ∀ c ∈ [bothBound, bothBound], c.ZeroFree := by
    simp only [List.mem_cons, List.not_mem_nil, or_false, or_self, forall_eq]
    exact ⟨hstatement, htags⟩
  obtain ⟨hfresh, halike⟩ := answers_fresh_iff ownedRules [bothBound, bothBound]
  refine ⟨hfree, hfresh.mpr ((halike hfree).mpr ?_)⟩
  simp

/-- The two calls have one key, although they bind different variables. -/
theorem key_bothBound : bothBound.key = oneBound.key := by
  have hone : sortedBindings oneBound.bindings = oneBound.bindings.entries :=
    List.mergeSort_of_pairwise (by decide +kernel)
  rw [PlanCall.key, PlanCall.key, key, key, sortedBindings_bothBound, hone]
  decide +kernel

/-- A variable without a value is overlooked behind a call with the same key. -/
theorem bothBound_shadows_oneBound : bothBound.Shadows ownedRules oneBound
    ∧ empty.answers ownedRules [keepingAll bothBound, keepingAll oneBound]
      ≠ [bothBound.fresh ownedRules, oneBound.fresh ownedRules] := by
  have hboth : (bothBound.fresh ownedRules).isOk = true := by decide +kernel
  have hone : (oneBound.fresh ownedRules).isOk = false := by decide +kernel
  have hshadows : bothBound.Shadows ownedRules oneBound := by
    refine ⟨key_bothBound, ?_⟩
    cases hfresh : bothBound.fresh ownedRules with
    | error problem =>
      rw [hfresh] at hboth
      cases hboth
    | ok p =>
      refine ⟨p, rfl, fun hother => ?_⟩
      rw [hother] at hone
      cases hone
  refine ⟨hshadows, fun hfresh => ?_⟩
  have hnone : empty.Keeps ownedRules [] := fun c hc => (List.not_mem_nil hc).elim
  have hpairwise := (@Keeps.pairwise_of_answers _ [bothBound, oneBound] _ _ hnone hfresh).2
  exact (List.pairwise_cons.mp hpairwise).1 oneBound List.mem_cons_self hshadows

end PlanMemo

end ContentSearch
