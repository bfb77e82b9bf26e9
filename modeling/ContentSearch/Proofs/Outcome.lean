/-!
# Outcomes

What is known of the steps of a computation that was not refused, of those of one that was, and of
computations that end in the same way.
-/

namespace ContentSearch.Outcome

variable {ε ε' α β : Type}

/-- Two steps that both come to an end: the first one passes on what the second one ends with. -/
theorem bind_eq_ok {x : Except ε α} {f : α → Except ε β} {b : β} (h : (x >>= f) = .ok b) :
    ∃ a, x = .ok a ∧ f a = .ok b := by
  cases x with
  | error problem => cases h
  | ok a => exact ⟨a, rfl, h⟩

/-- A step whose result only has to be put into something. -/
theorem bind_ok_eq_ok {x : Except ε α} {f : α → β} {b : β}
    (h : (x >>= fun a => Except.ok (f a)) = .ok b) : ∃ a, x = .ok a ∧ f a = b := by
  obtain ⟨a, ha, h⟩ := bind_eq_ok h
  exact ⟨a, ha, Except.ok.inj h⟩

@[simp] theorem ok_bind (a : α) (f : α → Except ε β) : (Except.ok a >>= f) = f a := rfl

theorem map_eq_ok {x : Except ε α} {f : α → β} {b : β} (h : x.map f = .ok b) :
    ∃ a, x = .ok a ∧ f a = b := by
  cases x with
  | error problem => cases h
  | ok a => exact ⟨a, rfl, Except.ok.inj h⟩

theorem mapError_eq_ok {x : Except ε α} {f : ε → ε'} {a : α} (h : x.mapError f = .ok a) :
    x = .ok a := by
  cases x with
  | error problem => cases h
  | ok a' => exact congrArg Except.ok (Except.ok.inj h)

theorem toOption_eq_some {x : Except ε α} {a : α} (h : x.toOption = some a) : x = .ok a := by
  cases x with
  | error problem => cases h
  | ok a' => exact congrArg Except.ok (Option.some.inj h)

/-- What ends well is its own value, taken out with any default. -/
theorem eq_ok_getD {x : Except ε α} (h : x.isOk = true) (default : α) :
    x = .ok (x.toOption.getD default) := by
  cases x with
  | error problem => cases h
  | ok a => rfl

theorem exists_of_isOk {x : Except ε α} (h : x.isOk = true) : ∃ a, x = .ok a := by
  cases x with
  | error problem => cases h
  | ok a => exact ⟨a, rfl⟩

/-- A computation fails if it has no result. -/
theorem exists_error_iff {x : Except ε α} : (∃ e, x = .error e) ↔ ∀ a, x ≠ .ok a := by
  cases x with
  | error e => exact iff_of_true ⟨e, rfl⟩ nofun
  | ok a => exact iff_of_false nofun fun h => h a rfl

/-! ## Refused computations -/

/-- Two steps are refused by the first or by the second. -/
theorem bind_eq_error {x : Except ε α} {f : α → Except ε β} {e : ε} (h : (x >>= f) = .error e) :
    x = .error e ∨ ∃ a, x = .ok a ∧ f a = .error e := by
  cases x with
  | error problem => exact Or.inl (congrArg Except.error (Except.error.inj h))
  | ok a => exact Or.inr ⟨a, rfl, h⟩

theorem map_eq_error {x : Except ε α} {f : α → β} {e : ε} (h : x.map f = .error e) :
    x = .error e := by
  cases x with
  | error problem => exact congrArg Except.error (Except.error.inj h)
  | ok a => cases h

/-- A refusal in another wording has a refusal behind it. -/
theorem mapError_eq_error {x : Except ε α} {f : ε → ε'} {e : ε'} (h : x.mapError f = .error e) :
    ∃ problem, x = .error problem ∧ f problem = e := by
  cases x with
  | error problem => exact ⟨problem, rfl, Except.error.inj h⟩
  | ok a => cases h

/-- Why a computation was refused, if it was. -/
def refusal? : Except ε α → Option ε
  | .error e => some e
  | .ok _ => none

theorem eq_error_of_refusal {x : Except ε α} {e : ε} (h : refusal? x = some e) : x = .error e := by
  cases x with
  | error problem => exact congrArg Except.error (Option.some.inj h)
  | ok a => cases h

/-- What a list is made into comes from its members. -/
theorem exists_of_mem_mapM {f : α → Except ε β} {as : List α} {bs : List β}
    (h : as.mapM f = .ok bs) {b : β} (hb : b ∈ bs) : ∃ a ∈ as, f a = .ok b := by
  induction as generalizing bs with
  | nil =>
    obtain rfl := Except.ok.inj h
    cases hb
  | cons a rest ih =>
    rw [List.mapM_cons] at h
    obtain ⟨first, hfirst, h⟩ := bind_eq_ok h
    obtain ⟨others, hothers, h⟩ := bind_eq_ok h
    obtain rfl := Except.ok.inj h
    rcases List.mem_cons.mp hb with rfl | hb
    · exact ⟨a, List.mem_cons_self, hfirst⟩
    · obtain ⟨a', ha', hb⟩ := ih hothers hb
      exact ⟨a', List.mem_cons_of_mem a ha', hb⟩

/-- A list is refused for one of its members. -/
theorem mapM_eq_error {f : α → Except ε β} {as : List α} {e : ε} (h : as.mapM f = .error e) :
    ∃ a ∈ as, f a = .error e := by
  induction as with
  | nil => cases h
  | cons a rest ih =>
    rw [List.mapM_cons] at h
    obtain ha | ⟨b, -, h⟩ := bind_eq_error h
    · exact ⟨a, List.mem_cons_self, ha⟩
    · obtain hrest | ⟨bs, -, h⟩ := bind_eq_error h
      · obtain ⟨a', hmem, ha'⟩ := ih hrest
        exact ⟨a', List.mem_cons_of_mem a hmem, ha'⟩
      · cases h

/-- A list is folded until one of its members is refused. -/
theorem foldlM_eq_error {f : β → α → Except ε β} {as : List α} {b : β} {e : ε}
    (h : as.foldlM f b = .error e) : ∃ a ∈ as, ∃ b', f b' a = .error e := by
  induction as generalizing b with
  | nil => cases h
  | cons a rest ih =>
    rw [List.foldlM_cons] at h
    obtain ha | ⟨next, -, hrest⟩ := bind_eq_error h
    · exact ⟨a, List.mem_cons_self, b, ha⟩
    · obtain ⟨a', hmem, ha'⟩ := ih hrest
      exact ⟨a', List.mem_cons_of_mem a hmem, ha'⟩

/-! ## Computations that end alike -/

/-- Two computations are refused for the same reason, or both give results, which are related. -/
inductive EndAlike (related : α → β → Prop) : Except ε α → Except ε β → Prop
  | ok {a : α} {b : β} (h : related a b) : EndAlike related (.ok a) (.ok b)
  | error (problem : ε) : EndAlike related (.error problem) (.error problem)

namespace EndAlike

variable {α' β' : Type} {related : α → β → Prop} {related' : α' → β' → Prop}
  {x : Except ε α} {y : Except ε β}

/-- Steps that go on alike end alike. -/
theorem bind {f : α → Except ε α'} {g : β → Except ε β'} (h : EndAlike related x y)
    (hfg : ∀ {a b}, related a b → EndAlike related' (f a) (g b)) :
    EndAlike related' (x >>= f) (y >>= g) := by
  cases h with
  | ok hab => exact hfg hab
  | error problem => exact .error problem

theorem map {f : α → α'} {g : β → β'} (h : EndAlike related x y)
    (hfg : ∀ {a b}, related a b → related' (f a) (g b)) :
    EndAlike related' (x.map f) (y.map g) := by
  cases h with
  | ok hab => exact .ok (hfg hab)
  | error problem => exact .error problem

/-- The results are related as well as what is known of each result. -/
theorem of_eq_ok {related' : α → β → Prop} (h : EndAlike related x y)
    (hok : ∀ {a b}, x = .ok a → y = .ok b → related' a b) : EndAlike related' x y := by
  cases h with
  | ok hab => exact .ok (hok rfl rfl)
  | error problem => exact .error problem

/-- Outcomes that end alike with equal values are equal. -/
theorem eq {x y : Except ε α} (h : EndAlike (· = ·) x y) : x = y := by
  cases h with
  | ok hab => rw [hab]
  | error problem => rfl

end EndAlike

end ContentSearch.Outcome
