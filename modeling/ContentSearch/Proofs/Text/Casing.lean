import ContentSearch.Text.Casing

/-!
# Texts in one case

Lower case leaves a text in lower case as it is, for every text: this is checked run by run on the
tables. On texts whose case the two mappings give back to each other, being equal in upper case is
being equal in lower case. Texts of ASCII are in one order in upper and in lower case if they have
no signs that stand between the capital and the small letters.
-/

namespace ContentSearch.Text

/-! ## Runs of code points -/

namespace CodeRun

theorem covers_iff {run : CodeRun} {code : Nat} :
    run.covers code = true
      ↔ run.first ≤ code ∧ code ≤ run.last ∧ (code - run.first) % run.step = 0 := by
  simp only [covers, Bool.and_eq_true, Nat.ble_eq, beq_iff_eq, and_assoc]

/-- Whether nothing that the first run maps to is mapped by the second. Where their ranges overlap,
the one has the even code points, and the other the odd ones. -/
def isApart (run other : CodeRun) : Bool :=
  Nat.blt other.last run.target || Nat.blt (run.target + (run.last - run.first)) other.first
    || ((run.step == 2 || run.first == run.last) && other.step == 2
      && (run.target + other.first) % 2 == 1)

/-- The lower case of a character in one run is in no run that is apart from it. -/
theorem covers_eq_false_of_isApart {run other : CodeRun} {code : Nat}
    (hapart : run.isApart other = true) (hcode : run.covers code = true) :
    other.covers (run.target + (code - run.first)) = false := by
  obtain ⟨hfirst, hlast, hstep⟩ := covers_iff.mp hcode
  rw [← Bool.not_eq_true, covers_iff]
  rintro ⟨hfirst', hlast', hstep'⟩
  simp only [isApart, Bool.or_eq_true, Bool.and_eq_true, Nat.blt_eq, beq_iff_eq] at hapart
  rcases hapart with (habove | hbelow) | ⟨⟨heven | hsingle, htwo⟩, hodd⟩
  · omega
  · omega
  · rw [heven] at hstep
    rw [htwo] at hstep'
    omega
  · rw [htwo] at hstep'
    omega

end CodeRun

/-! ## Characters in lower case -/

/-- The capital letters of ASCII move up to the small ones. -/
theorem toLower_cases (c : Char) :
    (0x41 ≤ c.toNat ∧ c.toNat ≤ 0x5a) ∧ c.toLower.toNat = c.toNat + 32
      ∨ (c.toNat < 0x41 ∨ 0x5a < c.toNat) ∧ c.toLower.toNat = c.toNat := by
  unfold Char.toLower
  by_cases h : 'A'.val ≤ c.val ∧ c.val ≤ 'Z'.val
  · have hcode : 0x41 ≤ c.val.toNat ∧ c.val.toNat ≤ 0x5a := h
    have hmove : ('a'.val - 'A'.val).toNat = 32 := rfl
    rw [dif_pos h]
    refine .inl ⟨hcode, ?_⟩
    show (c.val + ('a'.val - 'A'.val)).toNat = c.val.toNat + 32
    rw [UInt32.toNat_add, hmove]
    omega
  · have hcode : ¬(0x41 ≤ c.toNat ∧ c.toNat ≤ 0x5a) := h
    rw [dif_neg h]
    omega

/-- The small letters of ASCII move down to the capital ones. -/
theorem toUpper_cases (c : Char) :
    (0x61 ≤ c.toNat ∧ c.toNat ≤ 0x7a) ∧ c.toUpper.toNat + 32 = c.toNat
      ∨ (c.toNat < 0x61 ∨ 0x7a < c.toNat) ∧ c.toUpper.toNat = c.toNat := by
  unfold Char.toUpper
  by_cases h : 'a'.val ≤ c.val ∧ c.val ≤ 'z'.val
  · have hcode : 0x61 ≤ c.val.toNat ∧ c.val.toNat ≤ 0x7a := h
    -- what is added is the negative distance, as a word
    have hmove : ('A'.val - 'a'.val).toNat = 0x100000000 - 32 := rfl
    rw [dif_pos h]
    refine .inl ⟨hcode, ?_⟩
    show (c.val + ('A'.val - 'a'.val)).toNat + 32 = c.val.toNat
    rw [UInt32.toNat_add, hmove]
    omega
  · have hcode : ¬(0x61 ≤ c.toNat ∧ c.toNat ≤ 0x7a) := h
    rw [dif_neg h]
    omega

/-- All characters that lower case changes, as runs of code points. -/
def changingRuns : List CodeRun :=
  ⟨0x41, 0x5a, 1, 0x61⟩ :: ⟨0x130, 0x130, 1, 0x69⟩ :: lowerRuns

/-- Whether lower case leaves a character as it is, whatever stands around it. -/
def isLower (c : Char) : Bool :=
  changingRuns.all fun run => !run.covers c.toNat

/-- A character is its own lower case if no run changes it. -/
theorem isLower_iff_forall {c : Char} :
    isLower c = true ↔ ∀ run ∈ changingRuns, run.covers c.toNat = false := by
  simp only [isLower, List.all_eq_true, Bool.not_eq_true']

theorem isLower_iff {c : Char} :
    isLower c = true ↔ (c.toNat < 0x41 ∨ 0x5a < c.toNat) ∧ c.toNat ≠ 0x130
      ∧ ∀ run ∈ lowerRuns, run.covers c.toNat = false := by
  rw [isLower_iff_forall]
  simp only [changingRuns, List.forall_mem_cons, ← Bool.not_eq_true, CodeRun.covers_iff,
    Nat.mod_one, and_true]
  refine and_congr (by omega) (and_congr (by omega) Iff.rfl)

/-- Lower case is reached in one step: what a run leads to is changed by no run. The table is gone
through once, here. -/
theorem isApart_changingRuns :
    (changingRuns.all fun run => changingRuns.all fun other => run.isApart other) = true := by
  decide +kernel

theorem isLower_iff_of_ascii {c : Char} (hc : c.toNat < 128) :
    isLower c = true ↔ c.toNat < 0x41 ∨ 0x5a < c.toNat := by
  have habove : (lowerRuns.all fun run => Nat.ble 128 run.first) = true := by decide
  rw [isLower_iff]
  refine ⟨And.left, fun h => ⟨h, by omega, fun run hrun => ?_⟩⟩
  have hfirst := Nat.le_of_ble_eq_true (List.all_eq_true.mp habove run hrun)
  rw [← Bool.not_eq_true, CodeRun.covers_iff]
  omega

theorem isLower_toLower_of_ascii {c : Char} (hc : c.toNat < 128) : isLower c.toLower = true := by
  have hcase := toLower_cases c
  rw [isLower_iff_of_ascii (by omega)]
  omega

/-- On ASCII, the two notions of lower case agree. -/
theorem toLower_of_isLower {c : Char} (hc : c.toNat < 128) (h : isLower c = true) :
    c.toLower = c := by
  have hcode := (isLower_iff_of_ascii hc).mp h
  have hcase := toLower_cases c
  exact Char.toNat_inj.mp (by omega)

/-- Only the capital I with a dot becomes more than one character in lower case. -/
theorem lookup_lowerExpansions {code : Nat} (h : code ≠ 0x130) :
    lowerExpansions.lookup code = none := by
  rw [lowerExpansions, List.lookup_cons, beq_eq_false_iff_ne.mpr h]
  rfl

/-- The lower case of a character: that of ASCII, the two characters of the capital I with a dot,
the image of a run, or the character itself. -/
theorem lowerChar_cases (c : Char) :
    (c.toNat < 128 ∧ lowerChar c = [c.toLower])
      ∨ (c.toNat = 0x130 ∧ lowerChar c = ['i', '\u0307'])
      ∨ (∃ run ∈ lowerRuns, run.covers c.toNat = true
        ∧ lowerChar c = [Char.ofNat (run.target + (c.toNat - run.first))])
      ∨ (128 ≤ c.toNat ∧ c.toNat ≠ 0x130 ∧ (∀ run ∈ lowerRuns, run.covers c.toNat = false)
        ∧ lowerChar c = [c]) := by
  unfold lowerChar
  split
  · rename_i hascii
    exact .inl ⟨hascii, rfl⟩
  rename_i hascii
  by_cases hdotted : c.toNat = 0x130
  · refine .inr (.inl ⟨hdotted, ?_⟩)
    rw [hdotted]
    rfl
  rw [lookup_lowerExpansions hdotted, CodeRun.image?]
  refine .inr (.inr ?_)
  cases hfind : lowerRuns.find? (·.covers c.toNat) with
  | some run =>
    have hcovers : run.covers c.toNat = true := by simpa using List.find?_some hfind
    exact .inl ⟨run, List.mem_of_find?_eq_some hfind, hcovers, rfl⟩
  | none =>
    rw [List.find?_eq_none] at hfind
    exact .inr ⟨by omega, hdotted, fun run hrun => Bool.eq_false_iff.mpr (hfind run hrun), rfl⟩

/-- What a run maps to is in lower case. -/
theorem isLower_of_covers {run : CodeRun} (hrun : run ∈ changingRuns) {code : Nat}
    (hcode : run.covers code = true) :
    isLower (Char.ofNat (run.target + (code - run.first))) = true := by
  by_cases hvalid : (run.target + (code - run.first)).isValidChar
  · have hnat : (Char.ofNat (run.target + (code - run.first))).toNat
        = run.target + (code - run.first) := by
      rw [Char.ofNat, dif_pos hvalid]
      rfl
    rw [isLower_iff_forall, hnat]
    intro other hother
    exact CodeRun.covers_eq_false_of_isApart
      (List.all_eq_true.mp (List.all_eq_true.mp isApart_changingRuns run hrun) other hother) hcode
  · -- a number that is no code point stands for the first character of all
    rw [Char.ofNat, dif_neg hvalid]
    decide

theorem ne_capitalSigma_of_isLower {c : Char} (h : isLower c = true) : c ≠ capitalSigma := by
  rintro rfl
  have hsigma : isLower capitalSigma = false := by decide
  rw [hsigma] at h
  cases h

/-- A character without capitals is its own lower case. -/
theorem lowerChar_of_isLower {c : Char} (h : isLower c = true) : lowerChar c = [c] := by
  obtain ⟨-, hdotted, hruns⟩ := isLower_iff.mp h
  rcases lowerChar_cases c with ⟨hascii, hlower⟩ | ⟨hdotted', -⟩ | ⟨run, hrun, hcovers, -⟩
    | ⟨-, -, -, hlower⟩
  · rw [hlower, toLower_of_isLower hascii h]
  · exact absurd hdotted' hdotted
  · rw [hruns run hrun] at hcovers
    cases hcovers
  · exact hlower

/-- The lower case of a character is in lower case. -/
theorem isLower_of_mem_lowerChar {c d : Char} (h : d ∈ lowerChar c) : isLower d = true := by
  rcases lowerChar_cases c with ⟨hascii, hlower⟩ | ⟨-, hlower⟩ | ⟨run, hrun, hcovers, hlower⟩
    | ⟨hascii, hdotted, hruns, hlower⟩
  · rw [hlower] at h
    rw [List.mem_singleton.mp h]
    exact isLower_toLower_of_ascii hascii
  · have hall : ['i', '\u0307'].all isLower = true := by decide
    rw [hlower] at h
    exact List.all_eq_true.mp hall d h
  · rw [hlower] at h
    rw [List.mem_singleton.mp h]
    exact isLower_of_covers (List.mem_cons_of_mem _ (List.mem_cons_of_mem _ hrun)) hcovers
  · rw [hlower] at h
    rw [List.mem_singleton.mp h]
    exact isLower_iff.mpr ⟨by omega, hdotted, hruns⟩

theorem isLower_lowerSigma (before after : List Char) :
    isLower (lowerSigma before after) = true := by
  unfold lowerSigma
  split <;> decide

/-! ## Texts in lower case -/

/-- All characters of a lower case are lower, the sigma at the end of a word included. -/
theorem isLower_of_mem_lowerFrom {before cs : List Char} {d : Char}
    (h : d ∈ lowerFrom before cs) : isLower d = true := by
  induction cs generalizing before with
  | nil => cases h
  | cons c rest ih =>
    rw [lowerFrom, List.mem_append] at h
    rcases h with h | h
    · split at h
      · rw [List.mem_singleton.mp h]
        exact isLower_lowerSigma before rest
      · exact isLower_of_mem_lowerChar h
    · exact ih h

/-- A text in lower case is not changed, whatever stands before it. -/
theorem lowerFrom_of_isLower {cs : List Char} (h : ∀ c ∈ cs, isLower c = true)
    (before : List Char) :
    lowerFrom before cs = cs := by
  induction cs generalizing before with
  | nil => rfl
  | cons c rest ih =>
    obtain ⟨hc, hrest⟩ := List.forall_mem_cons.mp h
    rw [lowerFrom, if_neg (ne_capitalSigma_of_isLower hc), lowerChar_of_isLower hc, ih hrest,
      List.singleton_append]

/-- A text in lower case stays as it is. -/
theorem lower_lower (s : String) : lower (lower s) = lower s := by
  unfold lower
  rw [String.toList_ofList, lowerFrom_of_isLower fun d hd => isLower_of_mem_lowerFrom hd]

/-! ## Regular case -/

/-- A text whose case the two mappings give back to each other. -/
structure IsCaseRegular (s : String) : Prop where
  upper_lower : upper (lower s) = upper s
  lower_upper : lower (upper s) = lower s

/-- Among texts of regular case, one has a text in upper case as its upper case if both have one
lower case. -/
theorem IsCaseRegular.upper_eq_iff {s t : String} (hs : IsCaseRegular s) (ht : IsCaseRegular t) :
    upper s = t ↔ upper t = t ∧ lower s = lower t := by
  constructor
  · rintro rfl
    refine ⟨?_, hs.lower_upper.symm⟩
    rw [← ht.upper_lower, hs.lower_upper, hs.upper_lower]
  · rintro ⟨hupper, hlower⟩
    rw [← hs.upper_lower, hlower, ht.upper_lower, hupper]

/-! ## ASCII -/

/-- Whether all characters are ASCII. -/
def isAscii (cs : List Char) : Bool :=
  cs.all fun c => Nat.blt c.toNat 128

theorem isAscii_iff {cs : List Char} : isAscii cs = true ↔ ∀ c ∈ cs, c.toNat < 128 := by
  simp only [isAscii, List.all_eq_true, Nat.blt_eq]

/-- Texts stay ASCII under a function that keeps the characters ASCII. -/
theorem isAscii_map {f : Char → Char} (hf : ∀ c : Char, c.toNat < 128 → (f c).toNat < 128)
    {cs : List Char} (h : isAscii cs = true) : isAscii (cs.map f) = true := by
  rw [isAscii_iff] at h ⊢
  exact List.forall_mem_map.mpr fun c hc => hf c (h c hc)

theorem isAscii_map_toLower {cs : List Char} (h : isAscii cs = true) :
    isAscii (cs.map Char.toLower) = true := by
  refine isAscii_map (fun c hc => ?_) h
  have hcase := toLower_cases c
  omega

theorem isAscii_map_toUpper {cs : List Char} (h : isAscii cs = true) :
    isAscii (cs.map Char.toUpper) = true := by
  refine isAscii_map (fun c hc => ?_) h
  have hcase := toUpper_cases c
  omega

theorem toUpper_toLower (c : Char) : c.toLower.toUpper = c.toUpper := by
  have hlower := toLower_cases c
  have hupper := toUpper_cases c
  have hback := toUpper_cases c.toLower
  exact Char.toNat_inj.mp (by omega)

theorem toLower_toUpper (c : Char) : c.toUpper.toLower = c.toLower := by
  have hlower := toLower_cases c
  have hupper := toUpper_cases c
  have hback := toLower_cases c.toUpper
  exact Char.toNat_inj.mp (by omega)

/-- The lower case of an ASCII text is found character by character. -/
theorem lowerFrom_of_isAscii {cs : List Char} (h : isAscii cs = true) (before : List Char) :
    lowerFrom before cs = cs.map Char.toLower := by
  rw [isAscii_iff] at h
  induction cs generalizing before with
  | nil => rfl
  | cons c rest ih =>
    obtain ⟨hc, hrest⟩ := List.forall_mem_cons.mp h
    have hsigma : c ≠ capitalSigma := by
      rintro rfl
      exact absurd hc (by decide)
    rw [lowerFrom, if_neg hsigma, lowerChar, if_pos hc, ih hrest, List.singleton_append,
      List.map_cons]

/-- The upper case of an ASCII text is found character by character. -/
theorem flatMap_upperChar_of_isAscii {cs : List Char} (h : isAscii cs = true) :
    cs.flatMap upperChar = cs.map Char.toUpper := by
  rw [isAscii_iff] at h
  induction cs with
  | nil => rfl
  | cons c rest ih =>
    obtain ⟨hc, hrest⟩ := List.forall_mem_cons.mp h
    rw [List.flatMap_cons, upperChar, if_pos hc, ih hrest, List.singleton_append, List.map_cons]

/-- Texts of ASCII characters are of regular case. -/
theorem isCaseRegular_of_isAscii {s : String} (h : isAscii s.toList = true) :
    IsCaseRegular s := by
  constructor
  · have hsame : Char.toUpper ∘ Char.toLower = Char.toUpper := funext toUpper_toLower
    rw [lower, upper, upper, String.toList_ofList, lowerFrom_of_isAscii h,
      flatMap_upperChar_of_isAscii (isAscii_map_toLower h), flatMap_upperChar_of_isAscii h,
      List.map_map, hsame]
  · have hsame : Char.toLower ∘ Char.toUpper = Char.toLower := funext toLower_toUpper
    rw [upper, lower, lower, String.toList_ofList, flatMap_upperChar_of_isAscii h,
      lowerFrom_of_isAscii (isAscii_map_toUpper h), lowerFrom_of_isAscii h, List.map_map, hsame]

/-! ## Order -/

/-- Whether all characters are ASCII, and none of them is one of the six signs that stand between
capital and small letters. -/
def isCaseOrdered (cs : List Char) : Bool :=
  cs.all fun c => Nat.blt c.toNat 0x5b || Nat.blt 0x60 c.toNat && Nat.blt c.toNat 128

/-- The characters that keep their order are those of ASCII outside the six signs that stand between
capitals and small letters. -/
theorem isCaseOrdered_iff {cs : List Char} :
    isCaseOrdered cs = true ↔ ∀ c ∈ cs, c.toNat < 0x5b ∨ 0x60 < c.toNat ∧ c.toNat < 128 := by
  simp only [isCaseOrdered, List.all_eq_true, Bool.or_eq_true, Bool.and_eq_true, Nat.blt_eq]

theorem isAscii_of_isCaseOrdered {cs : List Char} (h : isCaseOrdered cs = true) :
    isAscii cs = true := by
  rw [isCaseOrdered_iff] at h
  rw [isAscii_iff]
  intro c hc
  have hcode := h c hc
  omega

/-- The lower case of such a character by its upper case: the letters move up, and no sign is among
them or in the places that they move to. -/
theorem toNat_toLower_of_toUpper {c : Char}
    (hc : c.toNat < 0x5b ∨ 0x60 < c.toNat ∧ c.toNat < 128) :
    (c.toUpper.toNat < 0x41 ∨ 0x7a < c.toUpper.toNat) ∧ c.toLower.toNat = c.toUpper.toNat
      ∨ (0x41 ≤ c.toUpper.toNat ∧ c.toUpper.toNat ≤ 0x5a)
        ∧ c.toLower.toNat = c.toUpper.toNat + 32 := by
  have hlower := toLower_cases c
  have hupper := toUpper_cases c
  omega

/-- Such characters are in one order in either case. -/
theorem toUpper_lt_toUpper_iff {c d : Char}
    (hc : c.toNat < 0x5b ∨ 0x60 < c.toNat ∧ c.toNat < 128)
    (hd : d.toNat < 0x5b ∨ 0x60 < d.toNat ∧ d.toNat < 128) :
    c.toUpper < d.toUpper ↔ c.toLower < d.toLower := by
  have hlower := toNat_toLower_of_toUpper hc
  have hlower' := toNat_toLower_of_toUpper hd
  show c.toUpper.toNat < d.toUpper.toNat ↔ c.toLower.toNat < d.toLower.toNat
  omega

/-- Texts are in one order by two functions of their characters if all characters are. -/
theorem map_lt_map_iff {f g : Char → Char} {cs ds : List Char}
    (h : ∀ c ∈ cs, ∀ d ∈ ds, (f c < f d ↔ g c < g d) ∧ (f d < f c ↔ g d < g c)) :
    cs.map f < ds.map f ↔ cs.map g < ds.map g := by
  induction cs generalizing ds with
  | nil => cases ds <;> simp
  | cons c cs ih =>
    cases ds with
    | nil => simp
    | cons d ds =>
      obtain ⟨hlt, hgt⟩ := h c List.mem_cons_self d List.mem_cons_self
      have heq : f c = f d ↔ g c = g d := by
        rw [← Std.le_antisymm_iff, ← Std.le_antisymm_iff, ← Std.not_lt, ← Std.not_lt, ← Std.not_lt,
          ← Std.not_lt, hlt, hgt]
      have hrest : cs.map f < ds.map f ↔ cs.map g < ds.map g :=
        ih fun c' hc' d' hd' => h c' (List.mem_cons_of_mem c hc') d' (List.mem_cons_of_mem d hd')
      simp only [List.map_cons, List.cons_lt_cons_iff, hlt, heq, hrest]

/-- Texts without such signs stand in the same order in upper and in lower case. -/
theorem upper_lt_upper_iff {s t : String} (hs : isCaseOrdered s.toList = true)
    (ht : isCaseOrdered t.toList = true) : upper s < upper t ↔ lower s < lower t := by
  rw [String.lt_iff, String.lt_iff, upper, upper, lower, lower]
  simp only [String.toList_ofList]
  rw [flatMap_upperChar_of_isAscii (isAscii_of_isCaseOrdered hs),
    flatMap_upperChar_of_isAscii (isAscii_of_isCaseOrdered ht),
    lowerFrom_of_isAscii (isAscii_of_isCaseOrdered hs),
    lowerFrom_of_isAscii (isAscii_of_isCaseOrdered ht)]
  rw [isCaseOrdered_iff] at hs ht
  exact map_lt_map_iff fun c hc d hd =>
    ⟨toUpper_lt_toUpper_iff (hs c hc) (ht d hd), toUpper_lt_toUpper_iff (ht d hd) (hs c hc)⟩

end ContentSearch.Text
