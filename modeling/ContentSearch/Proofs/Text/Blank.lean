import ContentSearch.Text.Blank

/-!
# Texts without blanks

Trimming leaves a text without blanks as it is. The texts of numbers and instants are such texts.
-/

namespace ContentSearch.Text

/-- No character is blank. -/
def IsSolid (cs : List Char) : Prop :=
  ∀ c ∈ cs, isBlank c = false

instance (cs : List Char) : Decidable (IsSolid cs) :=
  List.decidableBAll (isBlank · = false) cs

@[simp] theorem isSolid_nil : IsSolid [] := by
  simp [IsSolid]

@[simp] theorem isSolid_cons {c : Char} {cs : List Char} :
    IsSolid (c :: cs) ↔ isBlank c = false ∧ IsSolid cs :=
  List.forall_mem_cons

@[simp] theorem isSolid_append {front back : List Char} :
    IsSolid (front ++ back) ↔ IsSolid front ∧ IsSolid back :=
  List.forall_mem_append

theorem isBlank_of_isDigit {c : Char} (h : c.isDigit = true) : isBlank c = false := by
  have hcode : 0x30 ≤ c.toNat ∧ c.toNat ≤ 0x39 := by
    simp only [Char.isDigit, Bool.and_eq_true, decide_eq_true_eq, UInt32.le_iff_toNat_le] at h
    exact h
  have hne : ∀ code, 0x3a ≤ code ∨ code < 0x30 → (c.toNat == code) = false := by
    intro code hcode'
    rw [beq_eq_false_iff_ne]
    omega
  have hrange : ∀ low high, 0x3a ≤ low ∨ high < 0x30 →
      (Nat.ble low c.toNat && Nat.ble c.toNat high) = false := by
    intro low high hrange'
    rw [Bool.and_eq_false_iff, ← Bool.not_eq_true, ← Bool.not_eq_true, Nat.ble_eq, Nat.ble_eq]
    omega
  simp [isBlank, hne, hrange]

theorem isSolid_of_isDigit {cs : List Char} (h : ∀ c ∈ cs, c.isDigit = true) : IsSolid cs :=
  fun c hc => isBlank_of_isDigit (h c hc)

/-- Of a text without blanks nothing is trimmed. -/
theorem trim_of_isSolid {s : String} (h : IsSolid s.toList) : trim s = s := by
  have hdrop : ∀ {cs : List Char}, IsSolid cs → cs.dropWhile isBlank = cs := by
    intro cs hcs
    cases cs with
    | nil => rfl
    | cons c rest => simp [(isSolid_cons.mp hcs).1]
  have hback : IsSolid s.toList.reverse := fun c hc => h c (List.mem_reverse.mp hc)
  rw [trim, trimChars, hdrop h, hdrop hback, List.reverse_reverse, String.ofList_toList]

end ContentSearch.Text
