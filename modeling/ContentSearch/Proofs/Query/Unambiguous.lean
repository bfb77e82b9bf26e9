import ContentSearch.Proofs.Query.Reading

/-!
# Statements are unambiguous

Sources, lists and the clauses of a query are read back as their parts are. The reader of a whole
statement is `Query.ofStatement?`; as it gives a legible query back from its statement
(`Query.ofStatement?_statement`), no two legible queries have one statement.
-/

namespace ContentSearch

open Statement

namespace Statement

/-! ## Optional parts -/

section
variable {α : Type} {rest : List Char}

/-- A part with the word before it, if there is a part. -/
def optionalText (word : String) (f : α → String) : Option α → String
  | some a => word ++ f a
  | none => ""

/-- What follows is a part with its word, or what stands behind the part. -/
theorem of_optionalText {p : List Char → Prop} {word : String}
    (hword : ∀ tail, p (word.toList ++ tail)) (hrest : p rest) (f : α → String) (a? : Option α) :
    p ((optionalText word f a?).toList ++ rest) := by
  cases a? with
  | none => exact hrest
  | some a =>
    rw [optionalText, String.toList_append, List.append_assoc]
    exact hword _

/-- A part is no longer than it is with its word. -/
theorem length_le_optionalText {f : α → String} {a? : Option α} {a : α} (ha : a? = some a)
    (word : String) : (f a).length ≤ (optionalText word f a?).length := by
  rw [ha, optionalText, String.length_append]
  omega

/-- An optional part is read back if the part is; without one, its word does not follow. -/
theorem readAfter_optionalText {word : String} {r : Reader α} {f : α → String} (a? : Option α)
    (hread : ∀ a, a? = some a → r.run ((f a).toList ++ rest) = some (a, rest))
    (hskip : skip? word rest = none) :
    (readAfter word r).run ((optionalText word f a?).toList ++ rest) = some (a?, rest) := by
  cases a? with
  | none => exact readAfter_of_skip? hskip r
  | some a =>
    rw [optionalText, String.toList_append, List.append_assoc]
    exact readAfter_append (hread a rfl)

end

/-! ## What ends a clause -/

/-- A clause ends here: neither an alias nor a further join follows. -/
def endsClause (cs : List Char) : Bool :=
  closes cs && [" AS ", " INNER JOIN ", " LEFT OUTER JOIN ", " RIGHT OUTER JOIN "].all
    fun word => (skip? word cs).isNone

section
variable {rest : List Char}

/-- The end of a clause closes what stands in it. -/
theorem closes_of_endsClause (h : endsClause rest = true) : closes rest = true :=
  (Bool.and_eq_true_iff.mp h).1

/-- The end of a clause is no alias and no further join. -/
theorem skip?_of_endsClause (h : endsClause rest = true) {word : String}
    (hword : word ∈ [" AS ", " INNER JOIN ", " LEFT OUTER JOIN ", " RIGHT OUTER JOIN "]) :
    skip? word rest = none :=
  Option.isNone_iff_eq_none.mp (List.all_eq_true.mp (Bool.and_eq_true_iff.mp h).2 word hword)

end

/-! ## Sources -/

/-- A table with its alias. -/
def readSelector : Reader Selector := do
  let table ← readName
  let alias? ← readAfter " AS " readName
  return ⟨table, alias?⟩

/-- The condition after `ON`. -/
def readJoinCondition : Reader JoinCondition :=
  readCall function equi
where
  /-- What stands in the parentheses of a condition that is written as a function. -/
  function : String → Reader JoinCondition
    | "ISCHILDNODE" => do
      let c ← readName
      expect ", "
      let p ← readName
      expect ")"
      return .child c p
    | "ISDESCENDANTNODE" => do
      let d ← readName
      expect ", "
      let a ← readName
      expect ")"
      return .descendant d a
    | "ISSAMENODE" => do
      let s₁ ← readName
      expect ", "
      let s₂ ← readName
      let path? ← readAfter ", " readName
      expect ")"
      return .same s₁ s₂ path?
    | _ => failure
  /-- Two properties that are equal, of which the first selector has been read. -/
  equi (s₁ : String) : Reader JoinCondition := do
    expect "."
    let p₁ ← readName
    expect " = "
    let s₂ ← readName
    expect "."
    let p₂ ← readName
    return .equi s₁ p₁ s₂ p₂

/-- The kind of a join, if there is a join. -/
def readJoinKind : Reader (Option JoinKind) :=
  ifNext " INNER JOIN " (return some .inner) <|
    ifNext " LEFT OUTER JOIN " (return some .leftOuter) <|
      ifNext " RIGHT OUTER JOIN " (return some .rightOuter) (return none)

/-- The right side of a join: a table, or a join in parentheses. -/
def readRight (inner : Reader Source) : Reader Source :=
  ifNext "("
    (do
      let right ← inner
      expect ")"
      return right)
    (.selector <$> readSelector)

/-- Joins what has been read with all that follows. -/
def readJoins (inner : Reader Source) : Nat → Source → Reader Source
  | 0, left => return left
  | joins + 1, left => do
    match ← readJoinKind with
    | none => return left
    | some kind =>
      let right ← readRight inner
      expect " ON "
      let condition ← readJoinCondition
      readJoins inner joins (.join kind left right condition)

/-- A source with at most so many levels of parentheses and so many joins in a row. -/
def readSource : Nat → Reader Source
  | 0 => failure
  | levels + 1 => do
    let first ← readSelector
    readJoins (readSource levels) levels (.selector first)

/-- How the right side of a join is written. -/
def rightText (right : Source) : String :=
  if right.isJoin then "(" ++ right.statement ++ ")" else right.statement

/-- What stands behind the left side of a join, and the text behind it. -/
def joinTail (kind : JoinKind) (right : Source) (condition : JoinCondition) (rest : List Char) :
    List Char :=
  " ".toList ++ (kind.symbol.toList ++ (" ".toList ++ ((rightText right).toList
    ++ (" ON ".toList ++ (condition.statement.toList ++ rest)))))

/-- How many joins stand in a row outside of parentheses. -/
def joinsOf : Source → Nat
  | .selector _ => 0
  | .join _ left _ _ => joinsOf left + 1

section
variable {rest : List Char}

/-- A selector is read back if no alias stands behind it that is not its own. -/
theorem readSelector_statement (s : Selector) (h : closes rest = true)
    (halias : skip? " AS " rest = none) :
    readSelector.run (s.statement.toList ++ rest) = some (s, rest) := by
  obtain ⟨table, alias?⟩ := s
  have hstatement : (Selector.mk table alias?).statement
      = ident table ++ optionalText " AS " ident alias? := by
    cases alias? with
    | none => exact (String.append_empty).symm
    | some shown => exact String.append_assoc
  have hends : ends ((optionalText " AS " ident alias?).toList ++ rest) = true :=
    of_optionalText (p := (ends · = true)) (fun _ => rfl) (ends_of_closes h) ident alias?
  rw [hstatement, String.toList_append, List.append_assoc, readSelector,
    run_bind_of_run (readName_ident table hends), run_bind_of_run (readAfter_optionalText alias?
      (fun shown _ => readName_ident shown (ends_of_closes h)) halias)]
  rfl

/-- Join conditions of all kinds are read back. -/
theorem readJoinCondition_statement (c : JoinCondition) (h : closes rest = true) :
    readJoinCondition.run (c.statement.toList ++ rest) = some (c, rest) := by
  cases c with
  | child c p =>
    have hlist : (JoinCondition.child c p).statement.toList ++ rest
        = ("ISCHILDNODE" ++ "(").toList ++ ((ident c).toList ++ (", ".toList
          ++ ((ident p).toList ++ (")".toList ++ rest)))) := by
      unfold JoinCondition.statement
      simp only [String.toList_append, List.append_assoc]
      rfl
    rw [hlist, readJoinCondition, readCall_function rfl, readJoinCondition.function,
      run_bind_of_run (readName_ident c rfl), run_bind_of_run (expect_append _ _),
      run_bind_of_run (readName_ident p rfl), run_bind_of_run (expect_append _ _)]
    rfl
  | descendant d a =>
    have hlist : (JoinCondition.descendant d a).statement.toList ++ rest
        = ("ISDESCENDANTNODE" ++ "(").toList ++ ((ident d).toList ++ (", ".toList
          ++ ((ident a).toList ++ (")".toList ++ rest)))) := by
      unfold JoinCondition.statement
      simp only [String.toList_append, List.append_assoc]
      rfl
    rw [hlist, readJoinCondition, readCall_function rfl, readJoinCondition.function,
      run_bind_of_run (readName_ident d rfl), run_bind_of_run (expect_append _ _),
      run_bind_of_run (readName_ident a rfl), run_bind_of_run (expect_append _ _)]
    rfl
  | equi s₁ p₁ s₂ p₂ =>
    unfold JoinCondition.statement
    simp only [String.toList_append, List.append_assoc]
    rw [readJoinCondition, readCall_other _ _ s₁ rfl rfl, readJoinCondition.equi,
      run_bind_of_run (expect_append _ _), run_bind_of_run (readName_ident p₁ rfl),
      run_bind_of_run (expect_append _ _), run_bind_of_run (readName_ident s₂ rfl),
      run_bind_of_run (expect_append _ _), run_bind_of_run (readName_ident p₂ (ends_of_closes h))]
    rfl
  | same s₁ s₂ path? =>
    have hlist : (JoinCondition.same s₁ s₂ path?).statement.toList ++ rest
        = ("ISSAMENODE" ++ "(").toList ++ ((ident s₁).toList ++ (", ".toList ++ ((ident s₂).toList
          ++ ((optionalText ", " ident path?).toList ++ (")".toList ++ rest))))) := by
      unfold JoinCondition.statement
      cases path? <;>
        simp only [optionalText, String.toList_append, List.append_assoc] <;>
        rfl
    have hends : ends ((optionalText ", " ident path?).toList ++ (")".toList ++ rest)) = true :=
      of_optionalText (p := (ends · = true)) (fun _ => rfl) rfl ident path?
    rw [hlist, readJoinCondition, readCall_function rfl, readJoinCondition.function,
      run_bind_of_run (readName_ident s₁ rfl), run_bind_of_run (expect_append _ _),
      run_bind_of_run (readName_ident s₂ hends), run_bind_of_run (readAfter_optionalText path?
        (fun path _ => readName_ident path rfl) rfl), run_bind_of_run (expect_append _ _)]
    rfl

/-- Joins are written from the left: the statement of a join begins with that of its left side. -/
theorem statement_join (kind : JoinKind) (left right : Source) (condition : JoinCondition)
    (rest : List Char) :
    (Source.join kind left right condition).statement.toList ++ rest
      = left.statement.toList ++ joinTail kind right condition rest := by
  have hstatement : (Source.join kind left right condition).statement
      = left.statement ++ " " ++ kind.symbol ++ " " ++ rightText right ++ " ON "
        ++ condition.statement := rfl
  rw [hstatement, joinTail]
  simp only [String.toList_append, List.append_assoc]

/-- Both sides of a join are shorter than the join. -/
theorem length_statement_join (kind : JoinKind) (left right : Source) (condition : JoinCondition) :
    left.statement.length < (Source.join kind left right condition).statement.length
      ∧ right.statement.length < (Source.join kind left right condition).statement.length := by
  have hstatement : (Source.join kind left right condition).statement
      = left.statement ++ " " ++ kind.symbol ++ " " ++ rightText right ++ " ON "
        ++ condition.statement := rfl
  have hright : right.statement.length ≤ (rightText right).length := by
    rw [rightText]
    split
    · simp only [String.length_append]
      omega
    · exact Nat.le_refl _
  have hblank : " ".length = 1 := rfl
  rw [hstatement]
  simp only [String.length_append]
  omega

/-- There are no more joins in a row than characters. -/
theorem joinsOf_le_length (source : Source) : joinsOf source ≤ source.statement.length := by
  induction source with
  | selector s => exact Nat.zero_le _
  | join kind left right condition ihleft _ =>
    have hlength := (length_statement_join kind left right condition).1
    rw [joinsOf]
    omega

/-- The right side of a join is read back if the joins in it are. -/
theorem readRight_rightText {inner : Reader Source} {right : Source}
    (hinner : ∀ tail, right.isJoin = true →
      inner.run (right.statement.toList ++ (")".toList ++ tail)) = some (right, ")".toList ++ tail))
    (h : closes rest = true) (halias : skip? " AS " rest = none) :
    (readRight inner).run ((rightText right).toList ++ rest) = some (right, rest) := by
  cases right with
  | selector s =>
    have hread := readSelector_statement s h halias
    have hopen : skip? "(" (s.statement.toList ++ rest) = none := by
      cases hskip : skip? "(" (s.statement.toList ++ rest) with
      | none => rfl
      | some tail =>
        rw [skip?_eq_some_iff.mp hskip] at hread
        cases hread
    show (readRight inner).run (s.statement.toList ++ rest) = _
    rw [readRight, ifNext_of_skip? hopen, run_map_of_run hread]
  | join kind left right condition =>
    have htext : rightText (.join kind left right condition)
        = "(" ++ (Source.join kind left right condition).statement ++ ")" := rfl
    rw [htext, String.toList_append, String.toList_append, List.append_assoc,
      List.append_assoc, readRight, ifNext_append, run_bind_of_run (hinner rest rfl),
      run_bind_of_run (expect_append _ _)]
    rfl

/-- A join is read behind its left side. -/
theorem readJoins_joinTail {inner : Reader Source} {right : Source}
    (hinner : ∀ tail, right.isJoin = true →
      inner.run (right.statement.toList ++ (")".toList ++ tail)) = some (right, ")".toList ++ tail))
    (joins : Nat) (left : Source) (kind : JoinKind) (condition : JoinCondition)
    (h : closes rest = true) :
    (readJoins inner (joins + 1) left).run (joinTail kind right condition rest)
      = (readJoins inner joins (.join kind left right condition)).run rest := by
  have hkind : (readJoins inner (joins + 1) left).run (joinTail kind right condition rest)
      = (do
          let right ← readRight inner
          expect " ON "
          let condition ← readJoinCondition
          readJoins inner joins (.join kind left right condition) : Reader Source).run
        ((rightText right).toList ++ (" ON ".toList ++ (condition.statement.toList ++ rest))) := by
    cases kind <;> rfl
  rw [hkind, run_bind_of_run (readRight_rightText hinner rfl rfl),
    run_bind_of_run (expect_append _ _), run_bind_of_run (readJoinCondition_statement condition h)]

/-- Where a clause ends, no join follows. -/
theorem readJoins_of_endsClause (inner : Reader Source) (joins : Nat) (source : Source)
    (h : endsClause rest = true) :
    (readJoins inner joins source).run rest = some (source, rest) := by
  cases joins with
  | zero => rfl
  | succ joins =>
    have hkind : readJoinKind.run rest = some (none, rest) := by
      rw [readJoinKind, ifNext_of_skip? (skip?_of_endsClause h (by simp)),
        ifNext_of_skip? (skip?_of_endsClause h (by simp)),
        ifNext_of_skip? (skip?_of_endsClause h (by simp))]
      rfl
    rw [readJoins, run_bind_of_run hkind]
    rfl

/-- All joins in a row are read back, the induction being on the left side, with joins to spare for
those that follow. -/
theorem readJoins_statement {inner : Reader Source} (source : Source)
    (hinner : ∀ part tail, part.statement.length < source.statement.length →
      inner.run (part.statement.toList ++ (")".toList ++ tail)) = some (part, ")".toList ++ tail))
    (joins : Nat) (h : closes rest = true) (halias : skip? " AS " rest = none) :
    (do
        let first ← readSelector
        readJoins inner (joins + joinsOf source) (.selector first) : Reader Source).run
        (source.statement.toList ++ rest)
      = (readJoins inner joins source).run rest := by
  induction source generalizing joins rest with
  | selector s =>
    show (readSelector >>= _).run (s.statement.toList ++ rest) = _
    rw [run_bind_of_run (readSelector_statement s h halias)]
    rfl
  | join kind left right condition ihleft _ =>
    obtain ⟨hleft, hright⟩ := length_statement_join kind left right condition
    have hjoins : joins + joinsOf (.join kind left right condition) = joins + 1 + joinsOf left := by
      rw [joinsOf]
      omega
    have hcloses : closes (joinTail kind right condition rest) = true := rfl
    have hword : skip? " AS " (joinTail kind right condition rest) = none := by
      cases kind <;> rfl
    rw [statement_join, hjoins,
      ihleft (fun part tail hpart => hinner part tail (by omega)) (joins + 1) hcloses hword,
      readJoins_joinTail (fun tail _ => hinner right tail hright) joins left kind condition h]

/-- Sources are read back, the induction being on the levels of parentheses. -/
theorem readSource_statement (source : Source) {levels : Nat}
    (hlevels : source.statement.length < levels) (h : endsClause rest = true) :
    (readSource levels).run (source.statement.toList ++ rest) = some (source, rest) := by
  induction levels generalizing source rest with
  | zero => omega
  | succ levels ih =>
    have hjoins : joinsOf source ≤ levels := by
      have hlength := joinsOf_le_length source
      omega
    obtain ⟨joins, rfl⟩ := Nat.exists_eq_add_of_le' hjoins
    rw [readSource, readJoins_statement source
      (fun part tail hpart => ih part (by omega) rfl) joins (closes_of_endsClause h)
      (skip?_of_endsClause h (by simp))]
    exact readJoins_of_endsClause _ joins source h

end

/-! ## Lists -/

section
variable {α : Type}

/-- Further items, each behind a comma. -/
def readMore (item : Reader α) : Nat → Reader (List α)
  | 0 => return []
  | items + 1 =>
    ifNext ", "
      (do
        let a ← item
        let as ← readMore item items
        return a :: as)
      (return [])

/-- At least one item, with commas between the items. -/
def readList (item : Reader α) (items : Nat) : Reader (List α) := do
  let a ← item
  let as ← readMore item items
  return a :: as

/-- There are no more commas than characters. -/
theorem length_le_commaSeparated (a : String) (as : List String) :
    as.length ≤ (commaSeparated (a :: as)).length := by
  induction as generalizing a with
  | nil => exact Nat.zero_le _
  | cons b bs ih =>
    have htext : commaSeparated (a :: b :: bs) = a ++ ", " ++ commaSeparated (b :: bs) :=
      String.intercalate_cons_cons
    have hcomma : ", ".length = 2 := rfl
    have hlength := ih b
    rw [htext, String.length_append, String.length_append, List.length_cons]
    omega

/-- Items are no longer than the list. -/
theorem length_le_of_mem {items : List String} {s : String} (hs : s ∈ items) :
    s.length ≤ (commaSeparated items).length := by
  induction items with
  | nil => cases hs
  | cons a as ih =>
    cases as with
    | nil =>
      have htext : commaSeparated [a] = a := String.intercalate_singleton
      have hsame : s = commaSeparated [a] := by rw [List.mem_singleton.mp hs, htext]
      exact Nat.le_of_eq (congrArg String.length hsame)
    | cons b bs =>
      have htext : commaSeparated (a :: b :: bs) = a ++ ", " ++ commaSeparated (b :: bs) :=
        String.intercalate_cons_cons
      rw [htext, String.length_append, String.length_append]
      rcases List.mem_cons.mp hs with rfl | hs
      · omega
      · have hlength := ih hs
        omega

/-- A list is read back if its items are, the induction being on the items behind the first. -/
theorem readList_commaSeparated {item : Reader α} {f : α → String} {rest : List Char}
    (h : endsClause rest = true) (hcomma : skip? ", " rest = none) (a : α) (as : List α)
    (hitem : ∀ b ∈ a :: as, ∀ tail, endsClause tail = true →
      item.run ((f b).toList ++ tail) = some (b, tail))
    {n : Nat} (hn : as.length ≤ n) :
    (readList item n).run ((commaSeparated ((a :: as).map f)).toList ++ rest)
      = some (a :: as, rest) := by
  induction as generalizing a n with
  | nil =>
    have htext : commaSeparated ([a].map f) = f a := String.intercalate_singleton
    have hmore : (readMore item n).run rest = some ([], rest) := by
      cases n with
      | zero => rfl
      | succ n => rw [readMore, ifNext_of_skip? hcomma]; rfl
    rw [htext, readList, run_bind_of_run (hitem a List.mem_cons_self rest h),
      run_bind_of_run hmore]
    rfl
  | cons b bs ih =>
    rw [List.length_cons] at hn
    obtain ⟨m, rfl⟩ : ∃ m, n = m + 1 := ⟨n - 1, by omega⟩
    have htext : commaSeparated ((a :: b :: bs).map f)
        = f a ++ ", " ++ commaSeparated ((b :: bs).map f) := String.intercalate_cons_cons
    have hlist : (readList item m).run ((commaSeparated ((b :: bs).map f)).toList ++ rest)
        = some (b :: bs, rest) :=
      ih b (fun c hc => hitem c (List.mem_cons_of_mem a hc)) (by omega)
    have hmore : (readMore item (m + 1)).run (", ".toList
        ++ ((commaSeparated ((b :: bs).map f)).toList ++ rest)) = some (b :: bs, rest) := by
      rw [readMore, ifNext_append]
      exact hlist
    rw [htext, String.toList_append, String.toList_append, List.append_assoc, List.append_assoc,
      readList, run_bind_of_run (hitem a List.mem_cons_self _ rfl), run_bind_of_run hmore]
    rfl

end

/-! ## Clauses -/

/-- A column of the result with its alias. -/
def readColumn : Reader ResultColumn := do
  let (selector?, property?) ← readStarOr
  let alias? ← readAfter " AS " readName
  return ⟨selector?, property?, alias?⟩

/-- The columns after `SELECT`, of which a single star is no column. -/
def readColumns (columns : Nat) : Reader (List ResultColumn) :=
  (fun cs => if cs = [⟨none, none, none⟩] then [] else cs) <$> readList readColumn columns

/-- An operand and the direction. -/
def readOrderBy (levels : Nat) : Reader OrderBy := do
  let operand ← readOperand levels
  let direction ← ifNext " ASC" (return .ascending) do
    expect " DESC"
    return .descending
  return ⟨operand, direction⟩

section
variable {rest : List Char}

/-- Columns of the result are read back, with their alias. -/
theorem readColumn_statement (c : ResultColumn) (h : endsClause rest = true) :
    readColumn.run (c.statement.toList ++ rest) = some (c, rest) := by
  obtain ⟨selector?, property?, alias?⟩ := c
  have hcloses := closes_of_endsClause h
  have halias : skip? " AS " rest = none := skip?_of_endsClause h (by simp)
  have hstatement : (ResultColumn.mk selector? property? alias?).statement
      = starOr selector? property? ++ optionalText " AS " ident alias? := by
    cases alias? <;> rfl
  have hafter : closes ((optionalText " AS " ident alias?).toList ++ rest) = true :=
    of_optionalText (p := (closes · = true)) (fun _ => rfl) hcloses ident alias?
  rw [hstatement, String.toList_append, List.append_assoc, readColumn,
    run_bind_of_run (readStarOr_starOr selector? property? hafter),
    run_bind_of_run (readAfter_optionalText alias?
      (fun shown _ => readName_ident shown (ends_of_closes hcloses)) halias)]
  rfl

/-- The columns are read back, unless they are the single column that is written as none. -/
theorem readColumns_statement {columns : List ResultColumn} (hstar : columns ≠ [⟨none, none, none⟩])
    (h : endsClause rest = true) (hcomma : skip? ", " rest = none) {n : Nat}
    (hn : (columnsStatement columns).length ≤ n) :
    (readColumns n).run ((columnsStatement columns).toList ++ rest) = some (columns, rest) := by
  cases columns with
  | nil =>
    have hlist := readList_commaSeparated (f := ResultColumn.statement) h hcomma
      ⟨none, none, none⟩ [] (fun c _ tail htail => readColumn_statement c htail) (Nat.zero_le n)
    exact run_map_of_run hlist _
  | cons c cs =>
    have hlength := length_le_commaSeparated c.statement (cs.map (·.statement))
    rw [List.length_map] at hlength
    have hlist := readList_commaSeparated (f := ResultColumn.statement) h hcomma c cs
      (fun b _ tail htail => readColumn_statement b htail) (Nat.le_trans hlength hn)
    have hstatement : columnsStatement (c :: cs)
        = commaSeparated ((c :: cs).map ResultColumn.statement) := rfl
    rw [hstatement, readColumns, run_map_of_run hlist, if_neg hstar]

/-- An ordering is read back, given levels for the functions in its operand. -/
theorem readOrderBy_statement (o : OrderBy) {levels : Nat}
    (hlevels : o.statement.length < levels) :
    (readOrderBy levels).run (o.statement.toList ++ rest) = some (o, rest) := by
  obtain ⟨operand, direction⟩ := o
  have hstatement : (OrderBy.mk operand direction).statement
      = operand.statement ++ " " ++ direction.symbol := rfl
  rw [hstatement] at hlevels ⊢
  simp only [String.length_append] at hlevels
  simp only [String.toList_append, List.append_assoc]
  rw [readOrderBy, run_bind_of_run (readOperand_statement operand (by omega) rfl)]
  cases direction <;> rfl

/-- The orderings are read back if there are any. -/
theorem readOrderings_statement {orderings : List OrderBy} (hne : orderings ≠ [])
    (h : endsClause rest = true) (hcomma : skip? ", " rest = none) {levels : Nat}
    (hlevels : (commaSeparated (orderings.map OrderBy.statement)).length < levels) :
    (readList (readOrderBy levels) levels).run
        ((commaSeparated (orderings.map OrderBy.statement)).toList ++ rest)
      = some (orderings, rest) := by
  cases orderings with
  | nil => exact absurd rfl hne
  | cons o os =>
    have hlength := length_le_commaSeparated o.statement (os.map OrderBy.statement)
    rw [List.length_map] at hlength
    refine readList_commaSeparated h hcomma o os (fun b hb tail _ => ?_)
      (Nat.le_of_lt (Nat.lt_of_le_of_lt hlength hlevels))
    exact readOrderBy_statement b
      (Nat.lt_of_le_of_lt (length_le_of_mem (List.mem_map_of_mem hb)) hlevels)

end

end Statement

/-! ## Limits -/

namespace Limit

/-- The number of rows, if it is limited. -/
def rows? (l : Limit) : Option Nat :=
  if l.hasRowLimit then some l.rows.toNat else none

/-- The offset, if there is one. -/
def offset? (l : Limit) : Option Nat :=
  if l.offset.toNat = 0 then none else some l.offset.toNat

/-- The limit of which this is written. -/
def ofParts (rows? offset? : Option Nat) : Limit :=
  ⟨(rows?.map UInt64.ofNat).getD unlimited.rows, (offset?.map UInt64.ofNat).getD unlimited.offset⟩

/-- A limit is made of the parts that are written. -/
theorem ofParts_rows?_offset? (l : Limit) : ofParts l.rows? l.offset? = l := by
  obtain ⟨rows, offset⟩ := l
  have hrows : ((rows? ⟨rows, offset⟩).map UInt64.ofNat).getD unlimited.rows = rows := by
    rw [rows?]
    split
    · exact UInt64.ofNat_toNat
    · rename_i hlimit
      have hrows : rows = 18446744073709551615 := by simpa [hasRowLimit] using hlimit
      exact hrows.symm
  have hoffset : ((offset? ⟨rows, offset⟩).map UInt64.ofNat).getD unlimited.offset = offset := by
    rw [offset?]
    split
    · rename_i hzero
      exact (UInt64.toNat_inj.mp hzero).symm
    · exact UInt64.ofNat_toNat
  rw [ofParts, hrows, hoffset]

theorem statement_eq (l : Limit) :
    l.statement
      = optionalText " LIMIT " Nat.repr l.rows? ++ optionalText " OFFSET " Nat.repr l.offset? := by
  rw [Limit.statement, rows?, offset?]
  split <;> split <;> rfl

/-- A limit is written as nothing, or it begins with one of two words. -/
theorem of_statement {p : List Char → Prop} (hnil : p [])
    (hlimit : ∀ tail, p (" LIMIT ".toList ++ tail))
    (hoffset : ∀ tail, p (" OFFSET ".toList ++ tail)) (l : Limit) : p l.statement.toList := by
  have hlist : l.statement.toList = (optionalText " LIMIT " Nat.repr l.rows?).toList
      ++ ((optionalText " OFFSET " Nat.repr l.offset?).toList ++ []) := by
    rw [l.statement_eq, String.toList_append, List.append_nil]
  rw [hlist]
  exact of_optionalText hlimit (of_optionalText hoffset hnil Nat.repr _) Nat.repr _

end Limit

namespace Statement

/-- The number of rows and the offset. -/
def readLimit : Reader Limit := do
  let rows? ← readAfter " LIMIT " readNatural
  let offset? ← readAfter " OFFSET " readNatural
  return Limit.ofParts rows? offset?

/-- A limit is read back at the end of a text. -/
theorem readLimit_statement (l : Limit) : readLimit.run l.statement.toList = some (l, []) := by
  have hlist : l.statement.toList = (optionalText " LIMIT " Nat.repr l.rows?).toList
      ++ ((optionalText " OFFSET " Nat.repr l.offset?).toList ++ []) := by
    rw [l.statement_eq, String.toList_append, List.append_nil]
  have hends : ends ((optionalText " OFFSET " Nat.repr l.offset?).toList ++ []) = true :=
    of_optionalText (p := (ends · = true)) (fun _ => rfl) rfl Nat.repr l.offset?
  have hword : skip? " LIMIT " ((optionalText " OFFSET " Nat.repr l.offset?).toList ++ []) = none :=
    of_optionalText (p := (skip? " LIMIT " · = none)) (fun _ => rfl) rfl Nat.repr l.offset?
  rw [hlist, readLimit,
    run_bind_of_run (readAfter_optionalText l.rows? (fun n _ => readNatural_repr n hends) hword),
    run_bind_of_run (readAfter_optionalText l.offset? (fun n _ => readNatural_repr n rfl) rfl)]
  show some (Limit.ofParts l.rows? l.offset?, []) = _
  rw [l.ofParts_rows?_offset?]

/-! ## The whole -/

/-- The orderings, if there are any. -/
def someOrderings (orderings : List OrderBy) : Option (List OrderBy) :=
  if orderings.isEmpty then none else some orderings

theorem getD_someOrderings (orderings : List OrderBy) :
    (someOrderings orderings).getD [] = orderings := by
  cases orderings <;> rfl

theorem ne_nil_of_someOrderings {orderings os : List OrderBy}
    (h : someOrderings orderings = some os) : os ≠ [] := by
  rintro rfl
  cases orderings <;> cases h

/-- A query of which all parts have at most so many levels and items. -/
def readQuery (levels : Nat) : Reader Query := do
  expect "SELECT "
  let columns ← readColumns levels
  expect " FROM "
  let source ← readSource levels
  let constraint? ← readAfter " WHERE " (readConstraint levels)
  let orderings? ← readAfter " ORDER BY " (readList (readOrderBy levels) levels)
  let limit ← readLimit
  return ⟨source, constraint?, orderings?.getD [], columns, limit⟩

end Statement

namespace Query

/-- The clause for the constraint. -/
def constraintText (q : Query) : String :=
  optionalText " WHERE " Constraint.statement q.constraint?

/-- The clause for the orderings. -/
def orderingsText (q : Query) : String :=
  optionalText " ORDER BY " (fun os => commaSeparated (os.map OrderBy.statement))
    (someOrderings q.orderings)

/-- The parts of a statement, in the order in which the reader asks for them. -/
theorem toList_statement (q : Query) :
    q.statement.toList = "SELECT ".toList ++ ((columnsStatement q.columns).toList
      ++ (" FROM ".toList ++ (q.source.statement.toList ++ (q.constraintText.toList
        ++ (q.orderingsText.toList ++ q.limit.statement.toList))))) := by
  obtain ⟨source, constraint?, orderings, columns, limit⟩ := q
  have hstatement : (Query.mk source constraint? orderings columns limit).statement
      = "SELECT " ++ columnsStatement columns ++ " FROM " ++ source.statement
        ++ (Query.mk source constraint? orderings columns limit).constraintText
        ++ (Query.mk source constraint? orderings columns limit).orderingsText
        ++ limit.statement := by
    cases constraint? <;> cases orderings <;> rfl
  rw [hstatement]
  simp only [String.toList_append, List.append_assoc]

/-- The query that a statement is the statement of. -/
def ofStatement? (s : String) : Option Query :=
  match (readQuery (s.length + 1)).run s.toList with
  | some (q, []) => some q
  | _ => none

/-- All parts of a query are shorter than its statement. -/
theorem length_statement (q : Query) :
    (columnsStatement q.columns).length + q.source.statement.length + q.constraintText.length
      + q.orderingsText.length ≤ q.statement.length := by
  have hlength := congrArg List.length q.toList_statement
  simp only [List.length_append, String.length_toList] at hlength
  omega

/-- The whole statement of a legible query is read, and it is read as the query. -/
theorem readQuery_statement {q : Query} (hq : q.isLegible = true) {levels : Nat}
    (hlevels : q.statement.length < levels) :
    (readQuery levels).run q.statement.toList = some (q, []) := by
  obtain ⟨hconstraint, hstar⟩ := Bool.and_eq_true_iff.mp hq
  have hlength := q.length_statement
  -- what may follow the orderings, the constraint and the source
  have hlimit : endsClause q.limit.statement.toList = true :=
    Limit.of_statement (p := (endsClause · = true)) rfl (fun _ => rfl) (fun _ => rfl) q.limit
  have hcomma : skip? ", " q.limit.statement.toList = none :=
    Limit.of_statement (p := (skip? ", " · = none)) rfl (fun _ => rfl) (fun _ => rfl) q.limit
  have horder : skip? " ORDER BY " q.limit.statement.toList = none :=
    Limit.of_statement (p := (skip? " ORDER BY " · = none)) rfl (fun _ => rfl) (fun _ => rfl) _
  have horderings : endsClause (q.orderingsText.toList ++ q.limit.statement.toList) = true :=
    of_optionalText (p := (endsClause · = true)) (fun _ => rfl) hlimit _ _
  have hwhere : skip? " WHERE " (q.orderingsText.toList ++ q.limit.statement.toList) = none :=
    of_optionalText (p := (skip? " WHERE " · = none)) (fun _ => rfl)
      (Limit.of_statement (p := (skip? " WHERE " · = none)) rfl (fun _ => rfl) (fun _ => rfl) _) _ _
  have hclauses : endsClause (q.constraintText.toList
      ++ (q.orderingsText.toList ++ q.limit.statement.toList)) = true :=
    of_optionalText (p := (endsClause · = true)) (fun _ => rfl) horderings _ _
  have hreadConstraint : (readAfter " WHERE " (readConstraint levels)).run (q.constraintText.toList
      ++ (q.orderingsText.toList ++ q.limit.statement.toList))
      = some (q.constraint?, q.orderingsText.toList ++ q.limit.statement.toList) := by
    refine readAfter_optionalText q.constraint? (fun c hc => ?_) hwhere
    have hc' : c.statement.length ≤ q.constraintText.length :=
      length_le_optionalText (f := Constraint.statement) hc " WHERE "
    rw [hc] at hconstraint
    exact readConstraint_statement c hconstraint (by omega) (closes_of_endsClause horderings)
  have hreadOrderings : (readAfter " ORDER BY " (readList (readOrderBy levels) levels)).run
      (q.orderingsText.toList ++ q.limit.statement.toList)
      = some (someOrderings q.orderings, q.limit.statement.toList) := by
    refine readAfter_optionalText (someOrderings q.orderings) (fun os hos => ?_) horder
    have hos' : (commaSeparated (os.map OrderBy.statement)).length ≤ q.orderingsText.length :=
      length_le_optionalText (a := os)
        (f := fun items : List OrderBy => commaSeparated (items.map OrderBy.statement)) hos
        " ORDER BY "
    exact readOrderings_statement (ne_nil_of_someOrderings hos) hlimit hcomma (by omega)
  rw [q.toList_statement, readQuery, run_bind_of_run (expect_append _ _),
    run_bind_of_run (readColumns_statement (by simpa using hstar) rfl rfl (by omega)),
    run_bind_of_run (expect_append _ _),
    run_bind_of_run (readSource_statement q.source (by omega) hclauses),
    run_bind_of_run hreadConstraint, run_bind_of_run hreadOrderings,
    run_bind_of_run (readLimit_statement q.limit), getD_someOrderings]
  rfl

/-- The statement of a legible query is read back. -/
theorem ofStatement?_statement {q : Query} (hq : q.isLegible = true) :
    ofStatement? q.statement = some q := by
  rw [ofStatement?, readQuery_statement hq (Nat.lt_succ_self _)]

/-- Legible queries with the same statement are the same query. -/
theorem eq_of_statement {q q' : Query} (hq : q.isLegible = true) (hq' : q'.isLegible = true)
    (hstatement : q.statement = q'.statement) : q = q' := by
  have hread : ofStatement? q.statement = some q := ofStatement?_statement hq
  have hread' : ofStatement? q'.statement = some q' := ofStatement?_statement hq'
  rw [hstatement, hread'] at hread
  exact (Option.some.inj hread).symm

/-- A join within a join, where words of the language, the empty name and names with brackets,
blanks and quotes stand for tables, selectors and properties. -/
def wordy : Query where
  source := .join .leftOuter (.selector ⟨"SELECT", some "NOT"⟩)
    (.join .inner (.selector ⟨"", some "a]b"⟩) (.selector ⟨"ON", none⟩)
      (.same "a]b" "ON" (some "/it\x27s")))
    (.equi "NOT" "LIKE" "ON" "AND x")
  constraint? := some (.and
    (.not (.compare (.property ⟨none, "NOT"⟩) .like
      (.literal (Literal.ofValue (Value.string "\x27")))))
    (.or (.hasValue ⟨none, "NOT"⟩)
      (.compare (.upper (.lower (.name (some "NOT")))) .notEqualTo (.variable "v_1"))))
  orderings := [⟨.property ⟨some "ON", "ASC"⟩, .descending⟩, ⟨.score none, .ascending⟩]
  columns := [⟨some "ON", none, none⟩, ⟨none, some "AS", some "*"⟩]
  limit := ⟨10, 3⟩

/-- Setting the limit that the query already has leaves its statement as it is, and so leaves the
query as it is. -/
theorem eq_of_statement_wordy :
    wordy.isLegible = true
      ∧ (wordy.withLimit ⟨10, 3⟩).statement = wordy.statement
      ∧ wordy.withLimit ⟨10, 3⟩ = wordy :=
  ⟨rfl, rfl, eq_of_statement rfl rfl rfl⟩

end Query

end ContentSearch
