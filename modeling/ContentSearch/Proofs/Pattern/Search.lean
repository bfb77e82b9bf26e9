import ContentSearch.Proofs.Pattern.Meaning

/-!
# Searches

An engine searches a text for a part that the body of an expression stands for. An anchor in front
of the body binds the part to the start of the text, and one behind it to the end. Only where both
are written is the part the whole text (`Regex.Search.finds_iff_of_bound`). The engine of the index
searches in this way (`Regex.engine_searches`).
-/

namespace ContentSearch

namespace Pattern

/-- A text follows two patterns in a row if it falls into two parts that follow one each. -/
theorem follows_append_iff {p q : Pattern} {cs : List Char} :
    Follows (p ++ q) cs ↔ ∃ front back, cs = front ++ back ∧ Follows p front ∧ Follows q back := by
  induction p generalizing cs with
  | nil =>
    constructor
    · intro h
      exact ⟨[], cs, rfl, .nil, h⟩
    · intro ⟨front, back, hcs, hfront, hback⟩
      rw [hcs, follows_nil_iff.mp hfront]
      exact hback
  | cons step p ih =>
    rw [List.cons_append, follows_cons_iff]
    constructor
    · intro ⟨taken, rest, hcs, hstep, hrest⟩
      obtain ⟨front, back, hfalls, hfront, hback⟩ := ih.mp hrest
      refine ⟨taken ++ front, back, ?_, .cons hstep hfront, hback⟩
      rw [hcs, hfalls, List.append_assoc]
    · intro ⟨front, back, hcs, hfront, hback⟩
      obtain ⟨taken, rest, hfalls, hstep, hrest⟩ := follows_cons_iff.mp hfront
      refine ⟨taken, rest ++ back, ?_, hstep, ih.mpr ⟨rest, back, rfl, hrest, hback⟩⟩
      rw [hcs, hfalls, List.append_assoc]

/-- What may stand between a match and an end of the text: nothing if the match is bound to that
end, and any text if it is not. -/
def margin (bound : Bool) : Pattern :=
  if bound then [] else [.anyText]

theorem follows_margin_iff {bound : Bool} {cs : List Char} :
    Follows (margin bound) cs ↔ (bound = true → cs = []) := by
  cases bound with
  | true =>
    show Follows [] cs ↔ _
    rw [follows_nil_iff]
    exact ⟨fun h _ => h, fun h => h rfl⟩
  | false =>
    refine iff_of_true ?_ nofun
    exact follows_anyText_iff.mpr ⟨cs, [], (List.append_nil cs).symm, .nil⟩

end Pattern

namespace Regex

/-- What a text is searched for: a body, which is bound to the start of the text or not, and to its
end or not. -/
structure Search where
  fromStart : Bool
  body : List Char
  toEnd : Bool

namespace Search

/-- The body between the anchors that it is bound by. -/
def expression (s : Search) : String :=
  String.ofList ((if s.fromStart then ['^'] else []) ++ (s.body ++ if s.toEnd then ['$'] else []))

/-- The body stands for a part of the text, with nothing in front of the part or behind it where the
body is bound. -/
def Finds (s : Search) (text : List Char) : Prop :=
  ∃ before part after, text = before ++ (part ++ after) ∧ Matches s.body part
    ∧ (s.fromStart = true → before = []) ∧ (s.toEnd = true → after = [])

/-- A body that is bound to both ends is found in the texts that it stands for. -/
theorem finds_iff_of_bound {body text : List Char} :
    (Search.mk true body true).Finds text ↔ Matches body text := by
  constructor
  · intro ⟨before, part, after, htext, hmatches, hbefore, hafter⟩
    rw [htext, hbefore rfl, hafter rfl, List.append_nil]
    exact hmatches
  · intro h
    exact ⟨[], text, [], (List.append_nil text).symm, h, fun _ => rfl, fun _ => rfl⟩

end Search

/-- With regard to case, a test that the engine makes of an expression accepts the texts in which
the expression is found. -/
def Engine.Searches (engine : Engine) : Prop :=
  ∀ s : Search, IsBody s.body → ∀ test, engine.compile s.expression true = .ok test →
    ∀ t : String, test t = true ↔ s.Finds t.toList

/-- An engine that searches for what it accepts reads bodies between two anchors. -/
theorem Engine.Searches.readsWellFormed {engine : Engine} (hsearches : engine.Searches) :
    engine.ReadsWellFormed := by
  intro body hbody test hcompile t
  rw [hsearches ⟨true, body, true⟩ hbody test hcompile, Search.finds_iff_of_bound]

/-! ## The engine of the index -/

/-- A body is read in the same way with and without an anchor behind it, but for the text that may
follow. -/
theorem IsBody.steps?_append_anchor {body : List Char} (h : IsBody body) {p : Pattern}
    (hp : steps? (body ++ ['$']) = some p) (toEnd : Bool) :
    steps? (body ++ if toEnd then ['$'] else []) = some (p ++ Pattern.margin toEnd) := by
  cases toEnd with
  | true => exact hp.trans (congrArg some (List.append_nil p).symm)
  | false =>
    show steps? (body ++ []) = some (p ++ [.anyText])
    rw [List.append_nil]
    induction h generalizing p with
    | nil =>
      obtain rfl := Option.some.inj hp
      rfl
    | @plain c rest hc hrest ih =>
      rw [List.cons_append, steps?_plain hc] at hp
      obtain ⟨q, hq, rfl⟩ := Option.map_eq_some_iff.mp hp
      rw [steps?_plain hc, ih hq, Option.map_some, List.cons_append]
    | @escaped c rest hc hrest ih =>
      rw [List.cons_append, List.cons_append, steps?, if_pos hc] at hp
      obtain ⟨q, hq, rfl⟩ := Option.map_eq_some_iff.mp hp
      rw [steps?, if_pos hc, ih hq, Option.map_some, List.cons_append]
    | @anyChar rest hrest ih =>
      rw [List.cons_append, steps?_anyChar hrest.append_anchor_ne_star] at hp
      obtain ⟨q, hq, rfl⟩ := Option.map_eq_some_iff.mp hp
      rw [steps?_anyChar fun _ => hrest.ne_star, ih hq, Option.map_some, List.cons_append]
    | @anyText rest hrest ih =>
      rw [List.cons_append, List.cons_append, steps?] at hp
      obtain ⟨q, hq, rfl⟩ := Option.map_eq_some_iff.mp hp
      rw [steps?, ih hq, Option.map_some, List.cons_append]

/-- Neither a body nor the anchor at its end is the anchor in front. -/
theorem IsBody.append_ne_anchor {body : List Char} (h : IsBody body) (toEnd : Bool)
    (rest : List Char) : (body ++ if toEnd then ['$'] else []) ≠ '^' :: rest := by
  cases h with
  | nil => cases toEnd <;> exact nofun
  | plain hc _ =>
    intro heq
    rw [(List.cons.inj heq).1] at hc
    cases hc
  | escaped | anyChar | anyText => exact fun heq => absurd (List.cons.inj heq).1 (by decide)

/-- The expression of a search is read as the pattern of its body, with any text on the sides where
it is not bound. -/
theorem Search.pattern?_expression {s : Search} (h : IsBody s.body) {p : Pattern}
    (hp : steps? (s.body ++ ['$']) = some p) :
    pattern? s.expression
      = some (Pattern.margin s.fromStart ++ (p ++ Pattern.margin s.toEnd)) := by
  have hread := h.steps?_append_anchor hp s.toEnd
  rw [expression]
  cases s.fromStart with
  | true => exact (pattern?_anchor _).trans hread
  | false =>
    refine (pattern?_of_ne_anchor (h.append_ne_anchor s.toEnd)).trans ?_
    rw [hread, Option.map_some]
    rfl

/-- The engine of the index searches. -/
theorem engine_searches : engine.Searches := by
  intro s hbody test hcompile t
  obtain ⟨p, hp⟩ := hbody.exists_steps
  rw [engine_compile (Search.pattern?_expression hbody hp)] at hcompile
  obtain rfl := Except.ok.inj hcompile
  show Pattern.follows (· == ·) _ t.toList = true ↔ _
  rw [Pattern.follows_eq_true_iff, Pattern.follows_append_iff]
  simp only [Pattern.follows_append_iff, Pattern.follows_margin_iff, ← hbody.matches_iff hp]
  constructor
  · intro ⟨before, back, htext, hbefore, part, after, hback, hpart, hafter⟩
    exact ⟨before, part, after, by rw [htext, hback], hpart, hbefore, hafter⟩
  · intro ⟨before, part, after, htext, hpart, hbefore, hafter⟩
    exact ⟨before, _, htext, hbefore, part, after, rfl, hpart, hafter⟩

/-- The engine of the index keeps to the meaning of what is between two anchors. -/
theorem engine_readsWellFormed : engine.ReadsWellFormed :=
  engine_searches.readsWellFormed

end Regex

end ContentSearch
