import ContentSearch.Proofs.Text.Casing
import ContentSearch.Text.Folding

/-!
# Lower case and folding

The folding of a text in lower case is found character by character: folding takes the two small
sigmas together, so that the neighbours of a capital sigma do not matter. Only the capital I with a
dot becomes more than one character, and no sign of ASCII comes from another character.
-/

namespace ContentSearch.Text

/-! ## One character -/

/-- The capital I with a dot, whose lower case has two characters. -/
def dottedI : Char := 'İ'

/-- What lower case makes of a character between others. -/
def lowerAt (before : List Char) (c : Char) (after : List Char) : List Char :=
  if c = capitalSigma then [lowerSigma before after] else lowerChar c

theorem lowerFrom_cons (before : List Char) (c : Char) (rest : List Char) :
    lowerFrom before (c :: rest) = lowerAt before c rest ++ lowerFrom (c :: before) rest := rfl

/-- The folding of the lower case of a character. -/
def foldedChar (c : Char) : List Char :=
  (lowerChar c).map foldChar

/-- The two small sigmas have the folding that the lower case of a capital sigma has by itself. -/
theorem map_foldChar_lowerAt (before : List Char) (c : Char) (after : List Char) :
    (lowerAt before c after).map foldChar = foldedChar c := by
  unfold lowerAt
  split
  · rename_i hsigma
    subst hsigma
    have hfinal : [foldChar 'ς'] = foldedChar capitalSigma := by decide
    have hinner : [foldChar 'σ'] = foldedChar capitalSigma := by decide
    rw [List.map_singleton, lowerSigma]
    split
    · exact hfinal
    · exact hinner
  · rfl

/-- All characters but the capital I with a dot have one character as their lower case. -/
theorem exists_lowerAt {c : Char} (hc : c ≠ dottedI) (before after : List Char) :
    ∃ d, lowerAt before c after = [d] := by
  unfold lowerAt
  split
  · exact ⟨_, rfl⟩
  · rcases lowerChar_cases c with ⟨-, hlower⟩ | ⟨hcode, -⟩ | ⟨run, -, -, hlower⟩
      | ⟨-, -, -, hlower⟩
    · exact ⟨_, hlower⟩
    · refine absurd ?_ hc
      rw [← Char.ofNat_toNat c, hcode]
      rfl
    · exact ⟨_, hlower⟩
    · exact ⟨_, hlower⟩

theorem exists_foldedChar {c : Char} (hc : c ≠ dottedI) : ∃ d, foldedChar c = [d] := by
  obtain ⟨d, hd⟩ := exists_lowerAt hc [] []
  rw [← map_foldChar_lowerAt [] c [], hd]
  exact ⟨foldChar d, rfl⟩

theorem lowerAt_dottedI (before after : List Char) :
    lowerAt before dottedI after = ['i', '\u0307'] := by
  have hsigma : dottedI ≠ capitalSigma := by decide
  rw [lowerAt, if_neg hsigma]
  decide

/-- What the tables map to are code points above the signs and capital letters of ASCII. -/
theorem target_lowerRuns :
    (lowerRuns.all fun run => Nat.ble 0x61 run.target
      && (Nat.blt (run.target + (run.last - run.first)) 0xd800
        || Nat.blt 0xdfff run.target
          && Nat.blt (run.target + (run.last - run.first)) 0x110000)) = true := by
  decide

theorem le_toNat_of_covers {run : CodeRun} (hrun : run ∈ lowerRuns) {code : Nat}
    (hcovers : run.covers code = true) :
    0x61 ≤ (Char.ofNat (run.target + (code - run.first))).toNat := by
  obtain ⟨hfirst, hlast, -⟩ := CodeRun.covers_iff.mp hcovers
  have htarget := List.all_eq_true.mp target_lowerRuns run hrun
  simp only [Bool.and_eq_true, Bool.or_eq_true, Nat.ble_eq, Nat.blt_eq] at htarget
  have hvalid : (run.target + (code - run.first)).isValidChar := by
    unfold Nat.isValidChar
    omega
  have hnat : (Char.ofNat (run.target + (code - run.first))).toNat
      = run.target + (code - run.first) := by
    rw [Char.ofNat, dif_pos hvalid]
    rfl
  omega

/-- A sign of ASCII is the lower case of itself only. -/
theorem eq_of_mem_lowerAt {before after : List Char} {c d : Char}
    (h : d ∈ lowerAt before c after) (hd : d.toNat < 0x61) : c = d := by
  unfold lowerAt at h
  split at h
  · rw [List.mem_singleton.mp h, lowerSigma] at hd
    split at hd <;> exact absurd hd (by decide)
  rcases lowerChar_cases c with ⟨-, hlower⟩ | ⟨-, hlower⟩ | ⟨run, hrun, hcovers, hlower⟩
    | ⟨-, -, -, hlower⟩
  · rw [hlower] at h
    obtain rfl := List.mem_singleton.mp h
    have hcase := toLower_cases c
    exact Char.toNat_inj.mp (by omega)
  · have hall : ['i', '\u0307'].all (fun d => Nat.ble 0x61 d.toNat) = true := by decide
    rw [hlower] at h
    have habove := Nat.le_of_ble_eq_true (List.all_eq_true.mp hall d h)
    omega
  · rw [hlower] at h
    have habove := le_toNat_of_covers hrun hcovers
    rw [← List.mem_singleton.mp h] at habove
    omega
  · rw [hlower] at h
    exact (List.mem_singleton.mp h).symm

/-! ## Texts -/

/-- The folding of the lower case of a text: what texts that differ in case have in common. -/
def folded (s : String) : List Char :=
  (lower s).toList.map foldChar

/-- The folding of the lower case is found character by character. -/
theorem map_foldChar_lowerFrom (before cs : List Char) :
    (lowerFrom before cs).map foldChar = cs.flatMap foldedChar := by
  induction cs generalizing before with
  | nil => rfl
  | cons c rest ih =>
    rw [lowerFrom_cons, List.map_append, map_foldChar_lowerAt, ih, List.flatMap_cons]

theorem folded_eq_flatMap (s : String) : folded s = s.toList.flatMap foldedChar := by
  rw [folded, lower, String.toList_ofList, map_foldChar_lowerFrom]

/-- Texts of one lower case have one folding. -/
theorem folded_of_lower_eq {s t : String} (h : lower s = lower t) : folded s = folded t := by
  rw [folded, folded, h]

/-- Texts are one if their foldings are, as long as no character of the one has the folding of
another character of the other. -/
theorem eq_of_map_foldChar_eq {cs ds : List Char} (h : cs.map foldChar = ds.map foldChar)
    (hchars : ∀ c ∈ cs, ∀ d ∈ ds, foldChar c = foldChar d → c = d) : cs = ds := by
  induction cs generalizing ds with
  | nil => exact (List.map_eq_nil_iff.mp h.symm).symm
  | cons c cs ih =>
    cases ds with
    | nil => cases h
    | cons d ds =>
      obtain ⟨hfirst, hrest⟩ := List.cons.inj h
      have heq : c = d := hchars c List.mem_cons_self d List.mem_cons_self hfirst
      rw [heq, ih hrest fun c' hc' d' hd' =>
        hchars c' (List.mem_cons_of_mem c hc') d' (List.mem_cons_of_mem d hd')]

end ContentSearch.Text
