import ContentSearch.Json.Printing
import ContentSearch.Json.Token
import ContentSearch.Proofs.Number.Spelling

/-!
# The tokens of printed JSON

Printed JSON is cut into the tokens of the value that it was printed from, whatever layout it has
(`Json.scans_print`). Strings are closed by a mark of their own. Numbers and words end where a
character follows that cannot be part of them, and in printed JSON such a character always follows.
-/

namespace ContentSearch.Json

open Number

/-! ## Parts of values -/

/-- All parts of a value that are no lists or objects satisfy a condition. -/
inductive AllLeaves (p : Json → Prop) : Json → Prop
  | null (h : p .null) : AllLeaves p .null
  | bool {b : Bool} (h : p (.bool b)) : AllLeaves p (.bool b)
  | int {n : Int} (h : p (.int n)) : AllLeaves p (.int n)
  | real {x : Binary64} (h : p (.real x)) : AllLeaves p (.real x)
  | text {s : String} (h : p (.text s)) : AllLeaves p (.text s)
  | list {items : List Json} (h : ∀ j ∈ items, AllLeaves p j) : AllLeaves p (.list items)
  | object {members : List (String × Json)} (h : ∀ m ∈ members, AllLeaves p m.2) :
      AllLeaves p (.object members)

theorem AllLeaves.mono {p p' : Json → Prop} (hp : ∀ j, p j → p' j) {j : Json}
    (h : j.AllLeaves p) : j.AllLeaves p' := by
  induction h with
  | null h => exact .null (hp _ h)
  | bool h => exact .bool (hp _ h)
  | int h => exact .int (hp _ h)
  | real h => exact .real (hp _ h)
  | text h => exact .text (hp _ h)
  | list _ ih => exact .list ih
  | object _ ih => exact .object ih

/-- Whether the text of a leaf says all about it: it is no floating-point number, and an integer has
64 bits, with a sign or without. -/
def IsExactLeaf : Json → Prop
  | .int n => -0x8000000000000000 ≤ n ∧ n < 0x10000000000000000
  | .real _ => False
  | _ => True

/-! ## Tokens -/

/-- Runs of tokens with commas between them. -/
def separated : List (List Token) → List Token
  | [] => []
  | first :: rest => first ++ rest.flatMap (.comma :: ·)

mutual

/-- The tokens of a value. -/
def tokens : Json → List Token
  | .null => [.literal .null]
  | .bool b => [.literal (.bool b)]
  | .int n => [.literal (.int n)]
  | .real x => [.literal (.real x)]
  | .text s => [.string s]
  | .list items => .openList :: (separated (itemTokens items) ++ [.closeList])
  | .object members => .openObject :: (separated (memberTokens members) ++ [.closeObject])

/-- The tokens of each item of a list. -/
def itemTokens : List Json → List (List Token)
  | [] => []
  | j :: rest => tokens j :: itemTokens rest

/-- The tokens of each member of an object. -/
def memberTokens : List (String × Json) → List (List Token)
  | [] => []
  | (name, v) :: rest => (.string name :: .colon :: tokens v) :: memberTokens rest

end

/-! ## Scanning piece by piece -/

/-- What follows is no part of a number or word. -/
def Stops : List Char → Prop
  | [] => True
  | c :: _ => isNumberChar c = false ∧ c.isAlphanum = false

/-- A text is cut into these tokens, whatever follows that stops. -/
def Scans (text : List Char) (ts : List Token) : Prop :=
  ∀ rest, Stops rest → scan? .between (text ++ rest) = (scan? .between rest).map (ts ++ ·)

/-- One character makes one step, and the tokens of the step come first. -/
theorem scan?_of_advance {place next : Place} {c : Char} {ts : List Token}
    (h : advance? place c = some (ts, next)) (rest : List Char) :
    scan? place (c :: rest) = (scan? next rest).map (ts ++ ·) := by
  rw [scan?, h, Option.bind_some]

/-- A character may complete no token. -/
theorem scan?_of_advance_nil {place : Place} {c : Char} (next : Place)
    (h : advance? place c = some ([], next)) (rest : List Char) :
    scan? place (c :: rest) = scan? next rest := by
  rw [scan?_of_advance h]
  exact Option.map_id'

/-- A mark is a token by itself. -/
theorem scan?_mark {c : Char} {token : Token} (h : start? c = some ([token], .between))
    (rest : List Char) :
    scan? .between (c :: rest) = (scan? .between rest).map (token :: ·) := by
  have hadvance : advance? .between c = some ([token], .between) := h
  exact scan?_of_advance hadvance rest

/-- Blanks between tokens are passed over. -/
theorem scan?_append_of_isSpace {blanks : List Char} (h : ∀ c ∈ blanks, isSpace c = true)
    (rest : List Char) : scan? .between (blanks ++ rest) = scan? .between rest := by
  induction blanks with
  | nil => rfl
  | cons c blanks ih =>
    have hstart : advance? .between c = some ([], .between) := by
      rw [advance?, start?, if_pos (h c List.mem_cons_self)]
    rw [List.cons_append, scan?_of_advance_nil .between hstart]
    exact ih fun d hd => h d (List.mem_cons_of_mem c hd)

/-- A blank ends a word or a number. -/
theorem stops_of_isSpace {c : Char} (h : isSpace c = true) (rest : List Char) :
    Stops (c :: rest) := by
  simp only [isSpace, Bool.or_eq_true, beq_iff_eq] at h
  rcases h with ((rfl | rfl) | rfl) | rfl <;> exact ⟨rfl, rfl⟩

/-- What stops still does so behind blanks. -/
theorem Stops.append_of_isSpace {blanks rest : List Char} (h : ∀ c ∈ blanks, isSpace c = true)
    (hrest : Stops rest) : Stops (blanks ++ rest) := by
  cases blanks with
  | nil => exact hrest
  | cons c blanks => exact stops_of_isSpace (h c List.mem_cons_self) _

/-- Characters that belong to an open token are put in front of those before them. -/
theorem scan?_run (place : List Char → Place) {body : List Char}
    (h : ∀ before, ∀ c ∈ body, advance? (place before) c = some ([], place (c :: before)))
    (before rest : List Char) :
    scan? (place before) (body ++ rest) = scan? (place (body.reverse ++ before)) rest := by
  induction body generalizing before with
  | nil => rfl
  | cons c body ih =>
    rw [List.cons_append, scan?_of_advance_nil _ (h before c List.mem_cons_self),
      ih (fun before d hd => h before d (List.mem_cons_of_mem c hd)), List.reverse_cons,
      List.append_assoc, List.singleton_append]

/-- A token that is still open ends at what stops, and scanning goes on from there. -/
theorem scan?_of_ends {place : Place} {token : Token} (hend : atEnd? place = some [token])
    (hnext : ∀ c, isNumberChar c = false → c.isAlphanum = false →
      advance? place c = endAt? (some token) c)
    {rest : List Char} (h : Stops rest) :
    scan? place rest = (scan? .between rest).map (token :: ·) := by
  cases rest with
  | nil => exact hend
  | cons c rest =>
    rw [scan?, scan?, hnext c h.1 h.2, endAt?, Option.bind_some, advance?]
    cases start? c with
    | none => rfl
    | some step =>
      simp only [Option.map_some, Option.bind_some, List.cons_append, Option.map_map,
        Function.comp_def]

/-! ## Literals -/

/-- Letters up to the end of a word make the token of the word. -/
theorem scans_word (first : Char) (letters : List Char) {token : Token}
    (hfirst : start? first = some ([], .word [first]))
    (hletters : letters.all Char.isAlphanum = true)
    (hword : word? (first :: letters).reverse = some token) :
    Scans (first :: letters) [token] := by
  intro rest hrest
  have hstart : advance? .between first = some ([], .word [first]) := hfirst
  have hrun := scan?_run .word
    (fun before c hc => by rw [advance?, if_pos (List.all_eq_true.mp hletters c hc)]) [first] rest
  rw [List.reverse_cons] at hword
  rw [List.cons_append, scan?_of_advance_nil _ hstart, hrun]
  apply scan?_of_ends
  · rw [atEnd?, hword]
    rfl
  · intro c _ hc
    rw [advance?, hc, hword]
    rfl
  · exact hrest

/-! ## Numbers -/

/-- A digit is taken in as long as 64 bits hold the number. -/
theorem push?_of_lt {n : Nat} {e : Int} {c : Char}
    (h : n * 10 + (c.toNat - 0x30) < 0x10000000000000000) :
    Significand.push? ⟨n, e⟩ c = some (n * 10 + (c.toNat - 0x30)) := by
  unfold Significand.push?
  rw [if_pos h]

/-- A digit that does not fit any more goes to the exponent, with all digits behind it. -/
theorem whole_cons (s : Significand) (c : Char) (cs : List Char) :
    s.whole (c :: cs) = match s.push? c with
      | some digits => { s with digits }.whole cs
      | none => { s with exponent := s.exponent + cs.length + 1 } := by
  rfl

/-- Digits that fit into a word are all taken in. -/
theorem whole_of_lt {cs : List Char} {n : Nat}
    (h : Nat.ofDigitChars 10 cs n < 0x10000000000000000) :
    Significand.whole ⟨n, 0⟩ cs = ⟨Nat.ofDigitChars 10 cs n, 0⟩ := by
  induction cs generalizing n with
  | nil => rfl
  | cons c rest ih =>
    have hstep : Nat.ofDigitChars 10 (c :: rest) n
        = Nat.ofDigitChars 10 rest (n * 10 + (c.toNat - 0x30)) := by
      rw [Nat.ofDigitChars_cons, Nat.mul_comm 10 n]
      rfl
    rw [hstep] at h
    have hnext := Nat.lt_of_le_of_lt (le_ofDigitChars rest _) h
    rw [hstep, whole_cons, push?_of_lt hnext]
    exact ih h

/-- The digits of a number of 64 bits are read as the integer. -/
theorem unsigned?_toDigits {n : Nat} (h : n < 0x10000000000000000) :
    unsigned? (Nat.toDigits 10 n) = some (.inl n) := by
  have hdigits : ∀ c ∈ Nat.toDigits 10 n, c.isDigit = true := fun c hc =>
    Nat.isDigit_of_mem_toDigits (by decide) (by decide) hc
  have hend : ∀ c ∈ ([] : List Char).head?, c.isDigit = false := by simp
  obtain ⟨htake, hdrop⟩ := takeWhile_append_of_head hdigits hend
  rw [List.append_nil] at htake hdrop
  have hwhole : Significand.whole ⟨0, 0⟩ (Nat.toDigits 10 n) = ⟨n, 0⟩ := by
    rw [whole_of_lt (by rwa [Nat.ofDigitChars_ten_toDigits]), Nat.ofDigitChars_ten_toDigits]
  unfold unsigned?
  simp only [htake, hdrop, hwhole]
  split
  · rename_i hnil
    exact absurd hnil Nat.toDigits_ne_nil
  · -- a zero in front is the only digit
    rename_i hzero
    obtain rfl | hn := Nat.eq_zero_or_pos n
    · rw [Nat.toDigits_zero] at hzero
      cases hzero
    · exact absurd hzero (toDigits_ne_zero_cons hn _)
  · rfl
  · rename_i hpoint _ _
    cases hpoint
  · rename_i hnot _
    exact absurd rfl hnot

theorem start?_of_isDigit {c : Char} (h : c.isDigit = true) :
    start? c = some ([], .number [c]) := by
  have hne : ∀ d : Char, d.isDigit = false → c ≠ d := by
    rintro d hd rfl
    rw [h] at hd
    cases hd
  have hspace : isSpace c = false := by
    simp [isSpace, hne ' ' rfl, hne '\t' rfl, hne '\n' rfl, hne '\r' rfl]
  simp [start?, hspace, h, hne '[' rfl, hne ']' rfl, hne '\x7b' rfl, hne '\x7d' rfl, hne ',' rfl,
    hne ':' rfl, hne '\x22' rfl]

/-- Digits up to the end of a number make the token of the number. -/
theorem scans_number {first : Char} {body : List Char} {v : Json}
    (hfirst : start? first = some ([], .number [first]))
    (hbody : ∀ c ∈ body, c.isDigit = true) (hnumber : number? (first :: body) = some v) :
    Scans (first :: body) [.literal v] := by
  intro rest hrest
  have hstart : advance? .between first = some ([], .number [first]) := hfirst
  have hrun := scan?_run .number
    (fun before c hc => by
      rw [advance?, if_pos (by rw [isNumberChar, hbody c hc]; rfl)]) [first] rest
  have hread : number? (body.reverse ++ [first]).reverse = some v := by
    rw [List.reverse_append, List.reverse_reverse]
    exact hnumber
  rw [List.cons_append, scan?_of_advance_nil _ hstart, hrun]
  apply scan?_of_ends
  · rw [atEnd?, hread]
    rfl
  · intro c hc _
    rw [advance?, hc, hread]
    rfl
  · exact hrest

/-- An integer that a word can hold is read back as it is. -/
theorem scans_int {n : Int} (hlow : -0x8000000000000000 ≤ n) (hhigh : n < 0x10000000000000000) :
    Scans (intText n).toList [.literal (.int n)] := by
  have hdigits : ∀ c ∈ Nat.toDigits 10 n.natAbs, c.isDigit = true := fun c hc =>
    Nat.isDigit_of_mem_toDigits (by decide) (by decide) hc
  have hread : unsigned? (Nat.toDigits 10 n.natAbs) = some (.inl n.natAbs) :=
    unsigned?_toDigits (by omega)
  unfold intText
  by_cases hneg : n < 0
  · rw [if_pos hneg, String.toList_append, Nat.toList_repr]
    show Scans ('-' :: Nat.toDigits 10 n.natAbs) _
    apply scans_number rfl hdigits
    have hrange : ¬(n.natAbs = 0 ∨ 0x8000000000000000 < n.natAbs) := by omega
    have hnumber : -(n.natAbs : Int) = n := by omega
    simp only [number?, hread, Option.map_some, if_neg hrange, hnumber]
  · rw [if_neg hneg, Nat.toList_repr]
    have hnumber : (n.natAbs : Int) = n := by omega
    cases hcs : Nat.toDigits 10 n.natAbs with
    | nil => exact absurd hcs Nat.toDigits_ne_nil
    | cons first body =>
      rw [hcs] at hdigits hread
      have hfirst := hdigits first List.mem_cons_self
      apply scans_number (start?_of_isDigit hfirst)
        (fun c hc => hdigits c (List.mem_cons_of_mem _ hc))
      unfold number?
      split
      · -- a digit is no sign
        rename_i hsign
        obtain ⟨rfl, -⟩ := List.cons.inj hsign
        cases hfirst
      · simp only [hread, Option.map_some, hnumber]

/-! ## Strings -/

/-- The four digits of a code that is no half of a pair. -/
theorem scan?_code {n : Nat} (hn : n < 0x20) (before rest : List Char) :
    scan? (.code before none []) (hexWord 4 n ++ rest)
      = scan? (.string (Char.ofNat n :: before)) rest := by
  have hread : hexFrom? 0 (hexWord 4 n) = some n := hexFrom?_hexWord (by omega)
  obtain ⟨a, b, c, d, hword⟩ : ∃ a b c d, hexWord 4 n = [a, b, c, d] := ⟨_, _, _, _, rfl⟩
  rw [hword] at hread
  have hhigh : isHighSurrogate n = false := by
    rw [isHighSurrogate, Bool.and_eq_false_imp, Nat.ble_eq]
    intro h
    omega
  have hlow : isLowSurrogate n = false := by
    rw [isLowSurrogate, Bool.and_eq_false_imp, Nat.ble_eq]
    intro h
    omega
  have hend : advance? (.code before none [c, b, a]) d =
      some ([], .string (Char.ofNat n :: before)) := by
    simp [advance?, hread, endCode?, hhigh, hlow]
  rw [hword]
  show scan? (.code before none []) (a :: b :: c :: d :: rest) = _
  rw [scan?_of_advance_nil (.code before none [a]) rfl,
    scan?_of_advance_nil (.code before none [b, a]) rfl,
    scan?_of_advance_nil (.code before none [c, b, a]) rfl, scan?_of_advance_nil _ hend]

/-- A character is escaped by a letter, by its code, or not at all. -/
theorem escape_cases (c : Char) :
    (∃ e, e ≠ 'u' ∧ escaped? e = some c ∧ escape c = ['\\', e])
      ∨ (c.toNat < 0x20 ∧ escape c = '\\' :: 'u' :: hexWord 4 c.toNat)
      ∨ (c ≠ '\x22' ∧ c ≠ '\\' ∧ ¬c.toNat < 0x20 ∧ escape c = [c]) := by
  by_cases hletter : c ∈ ['\x22', '\\', '\x08', '\x0c', '\n', '\r', '\t']
  · left
    simp only [List.mem_cons, List.not_mem_nil, or_false] at hletter
    rcases hletter with rfl | rfl | rfl | rfl | rfl | rfl | rfl
    · exact ⟨'\x22', by decide, rfl, rfl⟩
    · exact ⟨'\\', by decide, rfl, rfl⟩
    · exact ⟨'b', by decide, rfl, rfl⟩
    · exact ⟨'f', by decide, rfl, rfl⟩
    · exact ⟨'n', by decide, rfl, rfl⟩
    · exact ⟨'r', by decide, rfl, rfl⟩
    · exact ⟨'t', by decide, rfl, rfl⟩
  · simp only [List.mem_cons, List.not_mem_nil, or_false, not_or] at hletter
    obtain ⟨hquote, hbackslash, hback, hfeed, hline, hreturn, htab⟩ := hletter
    unfold escape
    rw [if_neg hquote, if_neg hbackslash, if_neg hback, if_neg hfeed, if_neg hline, if_neg hreturn,
      if_neg htab]
    by_cases hcontrol : c.toNat < 0x20
    · exact Or.inr (Or.inl ⟨hcontrol, if_pos hcontrol⟩)
    · exact Or.inr (Or.inr ⟨hquote, hbackslash, hcontrol, if_neg hcontrol⟩)

/-- An escaped character is read back whatever it is. -/
theorem scan?_escape (before : List Char) (c : Char) (rest : List Char) :
    scan? (.string before) (escape c ++ rest) = scan? (.string (c :: before)) rest := by
  have hbackslash : ∀ tail, scan? (.string before) ('\\' :: tail) = scan? (.escape before) tail :=
    fun tail => scan?_of_advance_nil _ rfl tail
  obtain ⟨e, hu, he, hescape⟩ | ⟨hcontrol, hescape⟩ | ⟨hquote, hslash, hcontrol, hescape⟩ :=
    escape_cases c
  · rw [hescape, List.cons_append, hbackslash]
    apply scan?_of_advance_nil _ _ rest
    rw [advance?, if_neg hu, he]
    rfl
  · rw [hescape, List.cons_append, hbackslash, List.cons_append,
      scan?_of_advance_nil (.code before none []) rfl, scan?_code hcontrol, Char.ofNat_toNat]
  · rw [hescape]
    apply scan?_of_advance_nil _ _ rest
    rw [advance?, if_neg hquote, if_neg hslash, if_neg hcontrol]

/-- A string in quotation marks is one token. -/
theorem scan?_stringText (s : String) (rest : List Char) :
    scan? .between ((stringText s).toList ++ rest)
      = (scan? .between rest).map (.string s :: ·) := by
  have hbody : ∀ (cs before : List Char),
      scan? (.string before) (cs.flatMap escape ++ '\x22' :: rest)
        = (scan? .between rest).map (.string (String.ofList (before.reverse ++ cs)) :: ·) := by
    intro cs
    induction cs with
    | nil =>
      intro before
      rw [List.append_nil]
      have hclose : advance? (.string before) '\x22'
          = some ([.string (String.ofList before.reverse)], .between) := rfl
      exact scan?_of_advance hclose rest
    | cons c cs ih =>
      intro before
      rw [List.flatMap_cons, List.append_assoc, scan?_escape, ih, List.reverse_cons,
        List.append_assoc, List.singleton_append]
  have hopen : scan? .between ('\x22' :: (s.toList.flatMap escape ++ '\x22' :: rest))
      = scan? (.string []) (s.toList.flatMap escape ++ '\x22' :: rest) :=
    scan?_of_advance_nil _ rfl _
  have htext : (stringText s).toList ++ rest
      = '\x22' :: (s.toList.flatMap escape ++ '\x22' :: rest) := by
    simp [stringText]
  rw [htext, hopen, hbody, List.reverse_nil, List.nil_append, String.ofList_toList]

/-! ## Lists and objects -/

/-- A layout of nothing but blanks. -/
structure Layout.IsBlank (layout : Layout) : Prop where
  lineBreak : ∀ depth, ∀ c ∈ (layout.lineBreak depth).toList, isSpace c = true
  afterColon : ∀ c ∈ layout.afterColon.toList, isSpace c = true

/-- The compact layout adds nothing between tokens. -/
theorem Layout.isBlank_compact : Layout.compact.IsBlank := by
  constructor
  · intro depth c hc
    cases hc
  · intro c hc
    cases hc

theorem intercalate_cons {α : Type} (mark : α) (first : List α) (rest : List (List α)) :
    List.intercalate [mark] (first :: rest) = first ++ rest.flatMap (mark :: ·) := by
  induction rest generalizing first with
  | nil => simp
  | cons second rest ih =>
    rw [List.intercalate_cons_cons, ih, List.flatMap_cons, List.append_assoc]
    rfl

section
variable {blanks blanks' : List Char} (hblanks : ∀ c ∈ blanks, isSpace c = true)
  (hblanks' : ∀ c ∈ blanks', isSpace c = true) {closing : List Char} {token : Token}
  (hclosing : ∀ rest, scan? .between (closing ++ rest) = (scan? .between rest).map (token :: ·))
  (hstops : ∀ rest, Stops (closing ++ rest))

include hblanks' hstops in
/-- Each part is followed by a comma, a blank or the closing bracket. -/
theorem stops_parts (blanks : List Char) (parts : List (List Char × List Token))
    (rest : List Char) :
    Stops (parts.flatMap (fun p => ',' :: (blanks ++ p.1)) ++ (blanks' ++ (closing ++ rest))) := by
  cases parts with
  | nil =>
    rw [List.flatMap_nil, List.nil_append]
    exact Stops.append_of_isSpace hblanks' (hstops rest)
  | cons p ps => exact ⟨rfl, rfl⟩

include hblanks hblanks' hclosing hstops in
/-- Parts that are cut into tokens one by one are so with commas and blanks before them. -/
theorem scan?_parts (parts : List (List Char × List Token)) (h : ∀ p ∈ parts, Scans p.1 p.2)
    (rest : List Char) :
    scan? .between
        (parts.flatMap (fun p => ',' :: (blanks ++ p.1)) ++ (blanks' ++ (closing ++ rest)))
      = (scan? .between rest).map (parts.flatMap (fun p => .comma :: p.2) ++ token :: ·) := by
  induction parts with
  | nil =>
    rw [List.flatMap_nil, List.nil_append, scan?_append_of_isSpace hblanks', hclosing]
    rfl
  | cons p ps ih =>
    rw [List.forall_mem_cons] at h
    have hcomma : start? ',' = some ([.comma], .between) := rfl
    rw [List.flatMap_cons, List.cons_append, List.cons_append, List.append_assoc, List.append_assoc,
      scan?_mark hcomma, scan?_append_of_isSpace hblanks,
      h.1 _ (stops_parts hblanks' hstops blanks ps rest), ih h.2]
    simp only [Option.map_map, Function.comp_def, List.flatMap_cons, List.cons_append,
      List.append_assoc]

end

/-- Parts between brackets are cut into the tokens of the parts between those of the brackets. -/
theorem scans_bracketed {layout : Layout} (hlayout : layout.IsBlank) (depth : Nat)
    {opening closing : String} {token token' : Token}
    (hopening : ∀ rest,
      scan? .between (opening.toList ++ rest) = (scan? .between rest).map (token :: ·))
    (hclosing : ∀ rest,
      scan? .between (closing.toList ++ rest) = (scan? .between rest).map (token' :: ·))
    (hstops : ∀ rest, Stops (closing.toList ++ rest)) (parts : List (String × List Token))
    (h : ∀ p ∈ parts, Scans p.1.toList p.2) :
    Scans (bracketed layout depth opening closing (parts.map Prod.fst)).toList
      (token :: (separated (parts.map Prod.snd) ++ [token'])) := by
  intro rest _
  unfold bracketed
  cases parts with
  | nil =>
    have htext : (opening ++ closing).toList ++ rest =
        opening.toList ++ (closing.toList ++ rest) := by
      rw [String.toList_append, List.append_assoc]
    rw [List.map_nil, List.isEmpty_nil, if_pos rfl, htext, hopening, hclosing]
    exact Option.map_map ..
  | cons p ps =>
    rw [List.forall_mem_cons] at h
    have hrest := scan?_parts (hlayout.lineBreak (depth + 1)) (hlayout.lineBreak depth) hclosing
      hstops (ps.map fun p => (p.1.toList, p.2)) (List.forall_mem_map.mpr h.2) rest
    have hstop := stops_parts (hlayout.lineBreak depth) hstops
      (layout.lineBreak (depth + 1)).toList (ps.map fun p => (p.1.toList, p.2)) rest
    rw [List.flatMap_map] at hrest hstop
    -- the first part stands apart, as it has no comma before it
    have htext : (opening ++ String.intercalate "," (((p :: ps).map Prod.fst).map
          (layout.lineBreak (depth + 1) ++ ·)) ++ layout.lineBreak depth ++ closing).toList ++ rest
        = opening.toList ++ ((layout.lineBreak (depth + 1)).toList ++ (p.1.toList
          ++ (ps.flatMap (fun p => ',' :: ((layout.lineBreak (depth + 1)).toList ++ p.1.toList))
            ++ ((layout.lineBreak depth).toList ++ (closing.toList ++ rest))))) := by
      have hcomma : ",".toList = [','] := rfl
      simp only [String.toList_append, String.toList_intercalate, hcomma, List.map_cons,
        List.map_map, intercalate_cons, List.flatMap_map, List.append_assoc, Function.comp_def]
    rw [List.map_cons, List.isEmpty_cons, if_neg Bool.false_ne_true, ← List.map_cons, htext,
      hopening, scan?_append_of_isSpace (hlayout.lineBreak (depth + 1)), h.1 _ hstop, hrest]
    simp only [separated, List.map_cons, List.flatMap_map, Option.map_map, Function.comp_def,
      List.cons_append, List.append_assoc, List.nil_append]

/-! ## Values -/

/-- The items of a list are printed one by one. -/
theorem printItems_eq_map (layout : Layout) (depth : Nat) (items : List Json) :
    printItems layout depth items = items.map (print layout depth) := by
  induction items with
  | nil => rfl
  | cons j rest ih => rw [printItems, ih, List.map_cons]

/-- The members of an object are printed one by one. -/
theorem printMembers_eq_map (layout : Layout) (depth : Nat) (members : List (String × Json)) :
    printMembers layout depth members
      = members.map fun m =>
        stringText m.1 ++ ":" ++ layout.afterColon ++ print layout depth m.2 := by
  induction members with
  | nil => rfl
  | cons m rest ih => rw [printMembers, ih, List.map_cons]

theorem itemTokens_eq_map (items : List Json) : itemTokens items = items.map tokens := by
  induction items with
  | nil => rfl
  | cons j rest ih => rw [itemTokens, ih, List.map_cons]

theorem memberTokens_eq_map (members : List (String × Json)) :
    memberTokens members = members.map fun m => .string m.1 :: .colon :: tokens m.2 := by
  induction members with
  | nil => rfl
  | cons m rest ih => rw [memberTokens, ih, List.map_cons]

/-- A printed value is cut into its tokens. -/
theorem scans_print {layout : Layout} (hlayout : layout.IsBlank) {j : Json}
    (hj : j.AllLeaves IsExactLeaf) (depth : Nat) :
    Scans (print layout depth j).toList j.tokens := by
  induction hj generalizing depth with
  | null _ =>
    rw [print, tokens]
    exact scans_word 'n' ['u', 'l', 'l'] rfl (by decide) rfl
  | @bool b _ =>
    rw [print, tokens]
    cases b with
    | true => exact scans_word 't' ['r', 'u', 'e'] rfl (by decide) rfl
    | false => exact scans_word 'f' ['a', 'l', 's', 'e'] rfl (by decide) rfl
  | int h => exact scans_int h.1 h.2
  | real h => exact h.elim
  | @text s _ =>
    intro rest _
    exact scan?_stringText s rest
  | @list items _ ih =>
    have hopening : ∀ rest, scan? .between ("[".toList ++ rest)
        = (scan? .between rest).map (.openList :: ·) := fun rest => scan?_mark rfl rest
    have hclosing : ∀ rest, scan? .between ("]".toList ++ rest)
        = (scan? .between rest).map (.closeList :: ·) := fun rest => scan?_mark rfl rest
    have hparts := scans_bracketed hlayout depth hopening hclosing (fun rest => ⟨rfl, rfl⟩)
      (items.map fun j => (print layout (depth + 1) j, tokens j))
      (List.forall_mem_map.mpr fun j hj => ih j hj (depth + 1))
    rw [List.map_map, List.map_map] at hparts
    rw [print, tokens, printItems_eq_map, itemTokens_eq_map]
    exact hparts
  | @object members _ ih =>
    have hopening : ∀ rest, scan? .between ("\x7b".toList ++ rest)
        = (scan? .between rest).map (.openObject :: ·) := fun rest => scan?_mark rfl rest
    have hclosing : ∀ rest, scan? .between ("\x7d".toList ++ rest)
        = (scan? .between rest).map (.closeObject :: ·) := fun rest => scan?_mark rfl rest
    have hcolon : ∀ rest, scan? .between (":".toList ++ rest)
        = (scan? .between rest).map (.colon :: ·) := fun rest => scan?_mark rfl rest
    have hmember : ∀ m ∈ members,
        Scans (stringText m.1 ++ ":" ++ layout.afterColon ++ print layout (depth + 1) m.2).toList
          (.string m.1 :: .colon :: tokens m.2) := by
      intro m hm rest hrest
      simp only [String.toList_append, List.append_assoc]
      rw [scan?_stringText, hcolon, scan?_append_of_isSpace hlayout.afterColon,
        ih m hm (depth + 1) rest hrest]
      simp only [Option.map_map, Function.comp_def, List.cons_append]
    have hparts := scans_bracketed hlayout depth hopening hclosing (fun rest => ⟨rfl, rfl⟩)
      (members.map fun m => (stringText m.1 ++ ":" ++ layout.afterColon
        ++ print layout (depth + 1) m.2, .string m.1 :: .colon :: tokens m.2))
      (by rw [List.forall_mem_map]; exact hmember)
    rw [List.map_map, List.map_map] at hparts
    rw [print, tokens, printMembers_eq_map, memberTokens_eq_map]
    exact hparts

end ContentSearch.Json
