import ContentSearch.Proofs.Query.Lexeme

/-!
# Reading constraints

A reader for references, operands, fixed values and constraints. It decides by the name at the
front and the character behind it, so that names may be words of the language themselves; only `NOT`
behind a parenthesis needs a look further ahead. Nested parts are read with a number of levels that
the length of the text bounds.

Operands and constraints are read back from their statements (`readOperand_statement`,
`readConstraint_statement`), the latter if the literals and variables in them can be read back at
all (`Constraint.isLegible`).
-/

namespace ContentSearch

open Statement

/-! ## Queries that can be read back -/

/-- A literal of its own type, which is text, an integer or a truth value. -/
def Literal.isLegible (l : Literal) : Bool :=
  l.type == l.value.type && (l.type.isText || l.type == .long || l.type == .boolean)

/-- A legible literal, or a variable with a plain identifier as its name. -/
def StaticOperand.isLegible : StaticOperand → Bool
  | .literal l => l.isLegible
  | .variable name => isIdentifier name

/-- All values that the constraint compares with are legible. -/
def Constraint.isLegible : Constraint → Bool
  | .and left right | .or left right => left.isLegible && right.isLegible
  | .not c => c.isLegible
  | .compare _ _ right => right.isLegible
  | .child _ _ | .descendant _ _ | .same _ _ | .contains _ _ _ | .hasValue _ => true

/-- The constraint is legible, and the columns are not the single column that stands for all of
them, which is written as no columns are. -/
def Query.isLegible (q : Query) : Bool :=
  q.constraint?.all Constraint.isLegible && q.columns != [⟨none, none, none⟩]

/-! ## References -/

namespace Statement

/-- A property, whose first name has been read. -/
def readColumnOf (first : String) : Reader PropertyRef :=
  ifNext "." (do return ⟨some first, ← readName⟩) (return ⟨none, first⟩)

/-- A property with its selector. -/
def readPropertyRef : Reader PropertyRef := do
  readColumnOf (← readName)

/-- What stands in the parentheses of a function of a selector. -/
def readOptionalName : Reader (Option String) :=
  ifNext ")" (return none) do
    let s ← readName
    expect ")"
    return some s

/-- What stands in the parentheses of a function of a selector and a path. -/
def readPath : Reader (Option String × String) := do
  let first ← readName
  ifNext ", "
    (do
      let path ← readName
      expect ")"
      return (some first, path))
    (do
      expect ")"
      return (none, first))

/-- The arguments of a function of a selector and a path. -/
def pathArguments (s? : Option String) (path : String) : String :=
  (match s? with
    | some s => ident s ++ ", "
    | none => "") ++ ident path

/-- A property, or a star for all properties. -/
def readStarOr : Reader (Option String × Option String) :=
  ifNext "*" (return (none, none)) do
    let first ← readName
    ifNext ".*" (return (some first, none))
      (ifNext "." (do return (some first, some (← readName))) (return (none, some first)))

section
variable {rest : List Char}

theorem readColumnOf_qualifier (selector? : Option String) (property : String)
    (h : closes rest = true) :
    readPropertyRef.run ((qualifier selector? ++ ident property).toList ++ rest)
      = some (⟨selector?, property⟩, rest) := by
  cases selector? with
  | none =>
    rw [qualifier, String.empty_append, readPropertyRef,
      run_bind_of_run (readName_ident property (ends_of_closes h)), readColumnOf,
      ifNext_of_skip? (skip?_of_closes h).1]
    rfl
  | some s =>
    rw [qualifier, String.toList_append, String.toList_append, List.append_assoc,
      List.append_assoc, readPropertyRef, run_bind_of_run (readName_ident s rfl), readColumnOf,
      ifNext_append, run_bind_of_run (readName_ident property (ends_of_closes h))]
    rfl

/-- References are read back, with a selector or without. -/
theorem readPropertyRef_statement (ref : PropertyRef) (h : closes rest = true) :
    readPropertyRef.run (ref.statement.toList ++ rest) = some (ref, rest) :=
  readColumnOf_qualifier ref.selector? ref.property h

theorem readOptionalName_optionalName (s? : Option String) (rest : List Char) :
    readOptionalName.run ((optionalName s?).toList ++ (")".toList ++ rest)) = some (s?, rest) := by
  cases s? with
  | none => rfl
  | some s =>
    rw [optionalName, readOptionalName, ifNext_of_skip? (skip?_ident (fun _ => rfl) s rfl),
      run_bind_of_run (readName_ident s rfl), run_bind_of_run (expect_append _ _)]
    rfl

/-- Conditions on paths are written like calls. -/
theorem pathFunction_eq (word : String) (s? : Option String) (path : String) :
    pathFunction word s? path = word ++ "(" ++ pathArguments s? path ++ ")" := by
  cases s? with
  | none =>
    show word ++ "(" ++ "" ++ ident path ++ ")" = word ++ "(" ++ ("" ++ ident path) ++ ")"
    rw [String.empty_append, String.append_empty]
  | some s =>
    show word ++ "(" ++ (ident s ++ ", ") ++ ident path ++ ")"
      = word ++ "(" ++ (ident s ++ ", " ++ ident path) ++ ")"
    simp only [String.append_assoc]

/-- The selector and the path of such a condition are read back, up to the bracket. -/
theorem readPath_arguments (s? : Option String) (path : String) (rest : List Char) :
    readPath.run ((pathArguments s? path).toList ++ (")".toList ++ rest))
      = some ((s?, path), rest) := by
  cases s? with
  | none =>
    rw [pathArguments, String.empty_append, readPath, run_bind_of_run (readName_ident path rfl),
      ifNext_of_skip? rfl, run_bind_of_run (expect_append _ _)]
    rfl
  | some s =>
    rw [pathArguments, String.toList_append, String.toList_append, List.append_assoc,
      List.append_assoc, readPath, run_bind_of_run (readName_ident s rfl), ifNext_append,
      run_bind_of_run (readName_ident path rfl), run_bind_of_run (expect_append _ _)]
    rfl

/-- A star stands for all columns, and a column called by a star is in brackets. -/
theorem readStarOr_starOr (selector? property? : Option String) (h : closes rest = true) :
    readStarOr.run ((starOr selector? property?).toList ++ rest)
      = some ((selector?, property?), rest) := by
  have hends := ends_of_closes h
  obtain ⟨hpoint, -⟩ := skip?_of_closes h
  cases property? with
  | none =>
    cases selector? with
    | none =>
      rw [starOr, qualifier, String.empty_append, readStarOr, ifNext_append]
      rfl
    | some s =>
      have hword : ".".toList ++ ("*".toList ++ rest) = ".*".toList ++ rest := rfl
      rw [starOr, qualifier, String.toList_append, String.toList_append, List.append_assoc,
        List.append_assoc, readStarOr, ifNext_of_skip? (skip?_ident (fun _ => rfl) s rfl),
        run_bind_of_run (readName_ident s rfl), hword, ifNext_append]
      rfl
  | some property =>
    cases selector? with
    | none =>
      -- a part that ends is followed by no point, with or without a star behind it
      have hstar : skip? ".*" rest = none := by
        cases hskip : skip? ".*" rest with
        | none => rfl
        | some tail =>
          rw [skip?_eq_some_iff.mp hskip] at h
          cases h
      rw [starOr, qualifier, String.empty_append, readStarOr,
        ifNext_of_skip? (skip?_ident (fun _ => rfl) property hends),
        run_bind_of_run (readName_ident property hends), ifNext_of_skip? hstar,
        ifNext_of_skip? hpoint]
      rfl
    | some s =>
      -- no name begins with a star
      have hstar : skip? ".*" (".".toList ++ ((ident property).toList ++ rest)) = none := by
        have hname : skip? "*" ((ident property).toList ++ rest) = none :=
          skip?_ident (fun _ => rfl) property hends
        cases hskip : skip? ".*" (".".toList ++ ((ident property).toList ++ rest)) with
        | none => rfl
        | some tail =>
          have hlist := (List.cons.inj (skip?_eq_some_iff.mp hskip)).2
          have hfound : skip? "*" ((ident property).toList ++ rest) = some tail :=
            skip?_eq_some_iff.mpr hlist
          rw [hname] at hfound
          cases hfound
      rw [starOr, qualifier, String.toList_append, String.toList_append, List.append_assoc,
        List.append_assoc, readStarOr, ifNext_of_skip? (skip?_ident (fun _ => rfl) s rfl),
        run_bind_of_run (readName_ident s rfl), ifNext_of_skip? hstar, ifNext_append,
        run_bind_of_run (readName_ident property hends)]
      rfl

end

/-! ## Operands -/

/-- What stands in the parentheses of a function that is an operand, given how to read another
operand. -/
def readOperandFunction (inner : Reader Operand) : String → Reader Operand
  | "LENGTH" => do
    let ref ← readPropertyRef
    expect ")"
    return .length ref
  | "NAME" => .name <$> readOptionalName
  | "LOCALNAME" => .localName <$> readOptionalName
  | "DEPTH" => .depth <$> readOptionalName
  | "SCORE" => .score <$> readOptionalName
  | "UPPER" => do
    let o ← inner
    expect ")"
    return .upper o
  | "LOWER" => do
    let o ← inner
    expect ")"
    return .lower o
  | _ => failure

/-- An operand with at most so many levels. -/
def readOperand : Nat → Reader Operand
  | 0 => failure
  | levels + 1 =>
    readCall (readOperandFunction (readOperand levels)) fun first =>
      .property <$> readColumnOf first

theorem readOperand_property {levels : Nat} (ref : PropertyRef) {rest : List Char}
    (h : closes rest = true) :
    (readOperand (levels + 1)).run (ref.statement.toList ++ rest)
      = some (.property ref, rest) := by
  obtain ⟨selector?, property⟩ := ref
  have hread := readColumnOf_qualifier selector? property h
  obtain ⟨-, hopen⟩ := skip?_of_closes h
  show (readOperand (levels + 1)).run ((qualifier selector? ++ ident property).toList ++ rest) = _
  cases selector? with
  | none =>
    rw [qualifier, String.empty_append, readPropertyRef,
      run_bind_of_run (readName_ident property (ends_of_closes h))] at hread
    rw [qualifier, String.empty_append, readOperand,
      readCall_other _ _ property (ends_of_closes h) hopen, run_map_of_run hread]
  | some s =>
    rw [qualifier, String.toList_append, String.toList_append, List.append_assoc,
      List.append_assoc, readPropertyRef, run_bind_of_run (readName_ident s rfl)] at hread
    rw [qualifier, String.toList_append, String.toList_append, List.append_assoc,
      List.append_assoc, readOperand, readCall_other _ _ s rfl rfl, run_map_of_run hread]

/-- The word before a bracket decides how its arguments are read. -/
theorem readOperand_call {word : String} (hword : ident word = word) (levels : Nat) (args : String)
    (rest : List Char) :
    (readOperand (levels + 1)).run ((word ++ "(" ++ args ++ ")").toList ++ rest)
      = (readOperandFunction (readOperand levels) word).run
        (args.toList ++ (")".toList ++ rest)) := by
  rw [String.toList_append, String.toList_append, List.append_assoc, List.append_assoc,
    readOperand, readCall_function hword]

/-- The functions of a selector are read back. -/
theorem readOperand_ofSelector (word : String) {f : Option String → Operand}
    (hword : ident word = word)
    (hf : ∀ inner, readOperandFunction inner word = f <$> readOptionalName) (levels : Nat)
    (s? : Option String) (rest : List Char) :
    (readOperand (levels + 1)).run ((word ++ "(" ++ optionalName s? ++ ")").toList ++ rest)
      = some (f s?, rest) := by
  rw [readOperand_call hword, hf, run_map_of_run (readOptionalName_optionalName s? rest)]

/-- A case function is read back if its operand is. -/
theorem readOperand_ofOperand (word : String) {f : Operand → Operand} (hword : ident word = word)
    (hf : ∀ inner, readOperandFunction inner word = do
      let o ← inner
      expect ")"
      return f o)
    {levels : Nat} {o : Operand} {rest : List Char}
    (hread : (readOperand levels).run (o.statement.toList ++ (")".toList ++ rest))
      = some (o, ")".toList ++ rest)) :
    (readOperand (levels + 1)).run ((word ++ "(" ++ o.statement ++ ")").toList ++ rest)
      = some (f o, rest) := by
  rw [readOperand_call hword, hf, run_bind_of_run hread, run_bind_of_run (expect_append _ _)]
  rfl

/-- Operands are read back, the induction being on the case functions. -/
theorem readOperand_statement (o : Operand) {levels : Nat} (hlevels : o.statement.length < levels)
    {rest : List Char} (h : closes rest = true) :
    (readOperand levels).run (o.statement.toList ++ rest) = some (o, rest) := by
  obtain ⟨n, rfl⟩ : ∃ n, levels = n + 1 := ⟨levels - 1, by omega⟩
  induction o generalizing n rest with
  | property ref => exact readOperand_property ref h
  | length ref =>
    have hword : "LENGTH(" = "LENGTH" ++ "(" := rfl
    rw [Operand.statement, hword, readOperand_call rfl, readOperandFunction,
      run_bind_of_run (readPropertyRef_statement ref rfl), run_bind_of_run (expect_append _ _)]
    rfl
  | name s? => exact readOperand_ofSelector "NAME" rfl (fun _ => rfl) n s? rest
  | localName s? => exact readOperand_ofSelector "LOCALNAME" rfl (fun _ => rfl) n s? rest
  | depth s? => exact readOperand_ofSelector "DEPTH" rfl (fun _ => rfl) n s? rest
  | score s? => exact readOperand_ofSelector "SCORE" rfl (fun _ => rfl) n s? rest
  | upper o ih =>
    have hlength : (Operand.upper o).statement.length = 6 + o.statement.length + 1 := by
      rw [Operand.statement, String.length_append, String.length_append]
      rfl
    obtain ⟨m, rfl⟩ : ∃ m, n = m + 1 := ⟨n - 1, by omega⟩
    exact readOperand_ofOperand "UPPER" rfl (fun _ => rfl) (ih rfl m (by omega))
  | lower o ih =>
    have hlength : (Operand.lower o).statement.length = 6 + o.statement.length + 1 := by
      rw [Operand.statement, String.length_append, String.length_append]
      rfl
    obtain ⟨m, rfl⟩ : ∃ m, n = m + 1 := ⟨n - 1, by omega⟩
    exact readOperand_ofOperand "LOWER" rfl (fun _ => rfl) (ih rfl m (by omega))

/-! ## Fixed values -/

/-- A text with its type. Types of text alone are written in this way. -/
def readCast : Reader Literal := do
  let s ← readQuoted
  expect " AS "
  let label ← readName
  expect ")"
  match PropertyType.ofLabel? label with
  | some (.text kind) => return ⟨.text kind s, .text kind⟩
  | _ => failure

/-- A literal that is no number. -/
def readLiteral : Reader Literal :=
  ifNext "CAST(" readCast <|
    ifNext "true" (return Literal.ofValue (.boolean true)) <|
      ifNext "false" (return Literal.ofValue (.boolean false)) do
        return Literal.ofValue (Value.string (← readQuoted))

/-- A literal or a variable. -/
def readStatic : Reader StaticOperand :=
  ((fun n => .literal (Literal.ofValue (.long n))) <$> readLong) <|>
    ifNext "$" (.variable <$> readIdentifier) (.literal <$> readLiteral)

/-- Where no number stands, a variable or another literal stands. -/
theorem readStatic_of_readLong {cs : List Char} (h : readLong.run cs = none) :
    readStatic.run cs
      = (ifNext "$" (.variable <$> readIdentifier) (.literal <$> readLiteral)).run cs := by
  have hmap : ((fun n => StaticOperand.literal (Literal.ofValue (.long n))) <$> readLong).run cs
      = none := by
    rw [StateT.run_map, h]
    rfl
  rw [readStatic, run_orElse_of_none hmap]

/-- Types of text are read back from the cast that they are written in. -/
theorem readCast_quoted (kind : TextKind) (s : String) (rest : List Char) :
    readCast.run ((quoted s).toList ++ (" AS ".toList
        ++ ((PropertyType.text kind).label.toList ++ (")".toList ++ rest))))
      = some (⟨.text kind s, .text kind⟩, rest) := by
  have hident : ident (PropertyType.text kind).label = (PropertyType.text kind).label := by
    cases kind <;> rfl
  have hlabel := readName_ident (PropertyType.text kind).label
    (show ends (")".toList ++ rest) = true from rfl)
  rw [hident] at hlabel
  rw [readCast, run_bind_of_run (readQuoted_quoted s rfl), run_bind_of_run (expect_append _ _),
    run_bind_of_run hlabel, run_bind_of_run (expect_append _ _), PropertyType.ofLabel?_label]
  rfl

/-- A literal of another textual type is written as a cast of its text. -/
theorem readStatic_cast {kind : TextKind} (hkind : kind ≠ .string) (s : String)
    (rest : List Char) :
    readStatic.run ((Literal.statement ⟨.text kind s, .text kind⟩).toList ++ rest)
      = some (.literal ⟨.text kind s, .text kind⟩, rest) := by
  have hstatement : Literal.statement ⟨.text kind s, .text kind⟩
      = "CAST(" ++ quoted s ++ " AS " ++ (PropertyType.text kind).label ++ ")" := by
    cases kind with
    | string => exact absurd rfl hkind
    | _ => rfl
  rw [hstatement]
  simp only [String.toList_append, List.append_assoc]
  rw [readStatic_of_readLong rfl, ifNext_of_skip? rfl, readLiteral, StateT.run_map, ifNext_append,
    readCast_quoted kind s rest]
  rfl

theorem readStatic_quoted (s : String) {rest : List Char} (h : closes rest = true) :
    readStatic.run ((quoted s).toList ++ rest)
      = some (.literal (Literal.ofValue (Value.string s)), rest) := by
  have hread := readQuoted_quoted s (ends_of_closes h)
  have hquoted : quoted s
      = "\x27" ++ (String.ofList (doubling '\x27' s.toList) ++ "\x27") := by
    rw [quoted, String.append_assoc]
  rw [hquoted, String.toList_append, List.append_assoc] at hread ⊢
  -- the quote at the front begins no number, no variable and no word
  rw [readStatic_of_readLong rfl, ifNext_of_skip? rfl, readLiteral, StateT.run_map,
    ifNext_of_skip? rfl, ifNext_of_skip? rfl, ifNext_of_skip? rfl, run_bind_of_run hread]
  rfl

/-- Literals are read back if their value can be told from their text. -/
theorem readStatic_literal {l : Literal} (hl : l.isLegible = true) {rest : List Char}
    (h : closes rest = true) :
    readStatic.run (l.statement.toList ++ rest) = some (.literal l, rest) := by
  obtain ⟨v, type⟩ := l
  obtain ⟨htype, hkind⟩ : type = v.type
      ∧ ((type.isText = true ∨ type = .long) ∨ type = .boolean) := by
    simpa [Literal.isLegible, Bool.and_eq_true, Bool.or_eq_true] using hl
  subst htype
  cases v with
  | long n =>
    have hread := readLong_longText n (ends_of_closes h)
    show readStatic.run ((Value.longText n).toList ++ rest) = _
    rw [readStatic, run_orElse_of_run (run_map_of_run hread _)]
    rfl
  | boolean b => cases b <;> rfl
  | text kind s =>
    by_cases hstring : kind = .string
    · subst hstring
      exact readStatic_quoted s h
    · exact readStatic_cast hstring s rest
  | binary bytes => simp [Value.type, PropertyType.isText] at hkind
  | double x => simp [Value.type, PropertyType.isText] at hkind
  | decimal d => simp [Value.type, PropertyType.isText] at hkind
  | date t => simp [Value.type, PropertyType.isText] at hkind

/-- The right side of a comparison is read back, be it a literal or a variable. -/
theorem readStatic_statement {o : StaticOperand} (ho : o.isLegible = true) {rest : List Char}
    (h : closes rest = true) :
    readStatic.run (o.statement.toList ++ rest) = some (o, rest) := by
  rcases o with l | name
  · exact readStatic_literal ho h
  · have hread := readIdentifier_of_isIdentifier ho (ends_of_closes h)
    rw [StaticOperand.statement, String.toList_append, List.append_assoc,
      readStatic_of_readLong rfl, ifNext_append, run_map_of_run hread]

/-! ## Comparisons -/

/-- An operator and the blank behind it. -/
def readOperator : Reader Operator := fun cs =>
  Operator.all.findSome? fun operator =>
    (skip? (operator.symbol ++ " ") cs).map fun rest => (operator, rest)

/-- What is said of an operand, from the blank behind it. -/
def readTail (o : Operand) : Reader Constraint := do
  expect " "
  match o with
  | .property ref => ifNext "IS NOT NULL" (return .hasValue ref) readComparison
  | _ => readComparison
where
  /-- An operator and the value that the operand is compared with. -/
  readComparison : Reader Constraint := do
    let operator ← readOperator
    let right ← readStatic
    return .compare o operator right

theorem readOperator_symbol (operator : Operator) (rest : List Char) :
    readOperator.run (operator.symbol.toList ++ (" ".toList ++ rest))
      = some (operator, rest) := by
  cases operator <;> rfl

/-- What was read as an operator begins with its symbol and a blank. -/
theorem eq_symbol_of_readOperator {cs rest : List Char} {operator : Operator}
    (h : readOperator.run cs = some (operator, rest)) :
    cs = operator.symbol.toList ++ (" ".toList ++ rest) := by
  obtain ⟨found, -, hfound⟩ := List.exists_of_findSome?_eq_some h
  obtain ⟨tail, hskip, hpair⟩ := Option.map_eq_some_iff.mp hfound
  obtain ⟨rfl, rfl⟩ := Prod.mk.inj hpair
  rw [skip?_eq_some_iff.mp hskip, String.toList_append, List.append_assoc]

theorem readComparison_statement (o : Operand) (operator : Operator) {right : StaticOperand}
    (hright : right.isLegible = true) {rest : List Char} (h : closes rest = true) :
    (readTail.readComparison o).run (operator.symbol.toList ++ (" ".toList
        ++ (right.statement.toList ++ rest)))
      = some (.compare o operator right, rest) := by
  rw [readTail.readComparison, run_bind_of_run (readOperator_symbol operator _),
    run_bind_of_run (readStatic_statement hright h)]
  rfl

/-- Behind an operand and a blank, an operator makes a comparison. -/
theorem readTail_compare (o : Operand) (operator : Operator) {right : StaticOperand}
    (hright : right.isLegible = true) {rest : List Char} (h : closes rest = true) :
    (readTail o).run (" ".toList ++ (operator.symbol.toList ++ (" ".toList
        ++ (right.statement.toList ++ rest))))
      = some (.compare o operator right, rest) := by
  have hread := readComparison_statement o operator hright h
  unfold readTail
  rw [run_bind_of_run (expect_append _ _)]
  cases o with
  | property ref =>
    have hskip : skip? "IS NOT NULL" (operator.symbol.toList ++ (" ".toList
        ++ (right.statement.toList ++ rest))) = none := by
      cases operator <;> rfl
    rw [← hread]
    exact ifNext_of_skip? hskip _ _
  | _ => exact hread

/-- Behind a property, the words for existence are not read as an operator. -/
theorem readTail_hasValue (ref : PropertyRef) (rest : List Char) :
    (readTail (.property ref)).run (" IS NOT NULL".toList ++ rest)
      = some (.hasValue ref, rest) := by
  have hword : " IS NOT NULL".toList ++ rest = " ".toList ++ ("IS NOT NULL".toList ++ rest) := rfl
  rw [hword, readTail, run_bind_of_run (expect_append _ _)]
  exact ifNext_append _ _ _ _

/-! ## Constraints -/

/-- Behind an opening parenthesis, `NOT` is a negation unless it is a column, of which something is
said. -/
def opensNegation (cs : List Char) : Bool :=
  match skip? "NOT " cs with
  | some rest => ((readTail (.property ⟨none, "NOT"⟩)).run (" ".toList ++ rest)).isNone
  | none => false

/-- A condition that is written as a function, given how to read an operand that is none. -/
def readConditionFunction (operand : String → Reader Operand) : String → Reader Constraint
  | "ISCHILDNODE" => (fun p => .child p.1 p.2) <$> readPath
  | "ISDESCENDANTNODE" => (fun p => .descendant p.1 p.2) <$> readPath
  | "ISSAMENODE" => (fun p => .same p.1 p.2) <$> readPath
  | "CONTAINS" => do
    let (selector?, property?) ← readStarOr
    expect ", "
    let expression ← readQuoted
    expect ")"
    return .contains selector? property? expression
  | word => operand word >>= readTail

/-- A condition that is not in parentheses. -/
def readCondition (levels : Nat) : Reader Constraint :=
  readCall (readConditionFunction (readOperandFunction (readOperand levels))) fun first => do
    let ref ← readColumnOf first
    readTail (.property ref)

/-- The word between two constraints. -/
def readConnective : Reader (Constraint → Constraint → Constraint) :=
  ifNext " AND " (return .and) do
    expect " OR "
    return .or

/-- What stands in parentheses, given how to read its parts. -/
def readGroup (part : Reader Constraint) : Reader Constraint := fun cs =>
  if opensNegation cs then
    (do
      expect "NOT "
      let c ← part
      expect ")"
      return .not c : Reader Constraint) cs
  else
    (do
      let left ← part
      let make ← readConnective
      let right ← part
      expect ")"
      return make left right : Reader Constraint) cs

/-- A constraint with at most so many levels. -/
def readConstraint : Nat → Reader Constraint
  | 0 => failure
  | levels + 1 => ifNext "(" (readGroup (readConstraint levels)) (readCondition levels)

/-! ### What a constraint begins with -/

/-- An operand that is no property is written as a function, which is none of the functions that
are conditions. -/
theorem exists_call (o : Operand) :
    (∃ ref, o = .property ref)
      ∨ ∃ word args, ident word = word ∧ o.statement = word ++ "(" ++ args ++ ")"
        ∧ ∀ operand, readConditionFunction operand word = operand word >>= readTail := by
  cases o with
  | property ref => exact Or.inl ⟨ref, rfl⟩
  | length ref => exact Or.inr ⟨"LENGTH", ref.statement, rfl, rfl, fun _ => rfl⟩
  | name s? => exact Or.inr ⟨"NAME", optionalName s?, rfl, rfl, fun _ => rfl⟩
  | localName s? => exact Or.inr ⟨"LOCALNAME", optionalName s?, rfl, rfl, fun _ => rfl⟩
  | depth s? => exact Or.inr ⟨"DEPTH", optionalName s?, rfl, rfl, fun _ => rfl⟩
  | score s? => exact Or.inr ⟨"SCORE", optionalName s?, rfl, rfl, fun _ => rfl⟩
  | upper o => exact Or.inr ⟨"UPPER", o.statement, rfl, rfl, fun _ => rfl⟩
  | lower o => exact Or.inr ⟨"LOWER", o.statement, rfl, rfl, fun _ => rfl⟩

/-- What a text begins with: a parenthesis; a name with a point or a parenthesis behind it; or a
name with a blank behind it, and then `tail`, of which something is known. -/
inductive Front (known : String → List Char → Prop) : List Char → Prop
  | group (tail : List Char) : Front known ("(".toList ++ tail)
  | marked {mark : String} (hmark : mark = "(" ∨ mark = ".") (word : String) (tail : List Char) :
    Front known ((ident word).toList ++ (mark.toList ++ tail))
  | column {word : String} {tail : List Char} (h : known word tail) :
    Front known ((ident word).toList ++ (" ".toList ++ tail))

/-- What is said of a column, from behind the blank. -/
inductive Said (rest : List Char) : Constraint → String → List Char → Prop
  | compare (word : String) (operator : Operator) (right : StaticOperand) :
    Said rest (.compare (.property ⟨none, word⟩) operator right) word
      (operator.symbol.toList ++ (" ".toList ++ (right.statement.toList ++ rest)))
  | hasValue (word : String) :
    Said rest (.hasValue ⟨none, word⟩) word ("IS NOT NULL".toList ++ rest)

/-- A call is told from an operand by its bracket. -/
theorem Front.call {known : String → List Char → Prop} (word : String) (hword : ident word = word)
    (args : String) (rest : List Char) :
    Front known ((word ++ "(" ++ args ++ ")").toList ++ rest) := by
  have hlist : (word ++ "(" ++ args ++ ")").toList ++ rest
      = (ident word).toList ++ ("(".toList ++ (args.toList ++ (")".toList ++ rest))) := by
    simp only [hword, String.toList_append, List.append_assoc]
  rw [hlist]
  exact .marked (Or.inl rfl) word _

/-- A reference with a selector is told from a call by its point. -/
theorem Front.qualified {known : String → List Char → Prop} (s property : String)
    (rest : List Char) : Front known ((ident s ++ "." ++ ident property).toList ++ rest) := by
  have hlist : (ident s ++ "." ++ ident property).toList ++ rest
      = (ident s).toList ++ (".".toList ++ ((ident property).toList ++ rest)) := by
    simp only [String.toList_append, List.append_assoc]
  rw [hlist]
  exact .marked (Or.inr rfl) s _

/-- The statement of a constraint begins with a name and a blank only if something is said of a
column without a selector. -/
theorem front_statement (c : Constraint) (rest : List Char) :
    Front (Said rest c) (c.statement.toList ++ rest) := by
  cases c with
  | and left right =>
    rw [Constraint.statement]
    simp only [String.toList_append, List.append_assoc]
    exact .group _
  | or left right =>
    rw [Constraint.statement]
    simp only [String.toList_append, List.append_assoc]
    exact .group _
  | not c =>
    have hword : "(NOT " = "(" ++ "NOT " := rfl
    rw [Constraint.statement, hword]
    simp only [String.toList_append, List.append_assoc]
    exact .group _
  | child s? path =>
    rw [Constraint.statement, pathFunction_eq]
    exact .call "ISCHILDNODE" rfl _ _
  | descendant s? path =>
    rw [Constraint.statement, pathFunction_eq]
    exact .call "ISDESCENDANTNODE" rfl _ _
  | same s? path =>
    rw [Constraint.statement, pathFunction_eq]
    exact .call "ISSAMENODE" rfl _ _
  | contains s? property? expression =>
    have hstatement : (Constraint.contains s? property? expression).statement
        = "CONTAINS" ++ "(" ++ (starOr s? property? ++ ", " ++ quoted expression) ++ ")" := by
      simp only [Constraint.statement, String.append_assoc]
      rfl
    rw [hstatement]
    exact .call "CONTAINS" rfl _ _
  | compare left operator right =>
    have hlist : (Constraint.compare left operator right).statement.toList ++ rest
        = left.statement.toList ++ (" ".toList ++ (operator.symbol.toList
          ++ (" ".toList ++ (right.statement.toList ++ rest)))) := by
      simp only [Constraint.statement, String.toList_append, List.append_assoc]
    rw [hlist]
    rcases exists_call left with ⟨⟨s?, property⟩, rfl⟩ | ⟨word, args, hword, hstatement, -⟩
    · cases s? with
      | none =>
        show Front _ (("" ++ ident property).toList ++ _)
        rw [String.empty_append]
        exact .column (.compare property operator right)
      | some s => exact .qualified s property _
    · rw [hstatement]
      exact .call word hword args _
  | hasValue ref =>
    obtain ⟨s?, property⟩ := ref
    have hlist : (Constraint.hasValue ⟨s?, property⟩).statement.toList ++ rest
        = (qualifier s? ++ ident property).toList ++ (" ".toList
          ++ ("IS NOT NULL".toList ++ rest)) := by
      rw [Constraint.statement, PropertyRef.statement, String.toList_append, List.append_assoc]
      rfl
    rw [hlist]
    cases s? with
    | none =>
      rw [qualifier, String.empty_append]
      exact .column (.hasValue property)
    | some s => exact .qualified s property _

/-- A text does not begin in two of these ways at once. -/
theorem Front.of_column {known : String → List Char → Prop} {cs : List Char}
    (h : Front known cs) {word : String} {tail : List Char}
    (hcs : cs = (ident word).toList ++ (" ".toList ++ tail)) : known word tail := by
  have hread : readName.run cs = some (word, " ".toList ++ tail) := by
    rw [hcs]
    exact readName_ident word rfl
  cases h with
  | group tail' => cases hread
  | @marked mark hmark word' tail' =>
    rcases hmark with rfl | rfl
    all_goals
      rw [readName_ident word' rfl] at hread
      have hlist := (Prod.mk.inj (Option.some.inj hread)).2
      cases hlist
  | @column word' tail' h =>
    rw [readName_ident word' rfl] at hread
    obtain ⟨rfl, hlist⟩ := Prod.mk.inj (Option.some.inj hread)
    rwa [List.append_cancel_left hlist] at h

/-- An operator is written in front of a text only if it is `LIKE` and the text begins with a name
and a blank. -/
theorem Front.like_of_symbol {known : String → List Char → Prop} {cs : List Char}
    (h : Front known cs) {operator : Operator} {tail : List Char}
    (hcs : cs = operator.symbol.toList ++ (" ".toList ++ tail)) : known "LIKE" tail := by
  by_cases hlike : operator = .like
  · subst hlike
    exact h.of_column hcs
  · -- the other operators begin with characters that begin neither a group nor a name
    have hnone : readName.run cs = none ∧ skip? "(" cs = none := by
      rw [hcs]
      cases operator <;> first | exact absurd rfl hlike | exact ⟨rfl, rfl⟩
    obtain ⟨hname, hskip⟩ := hnone
    cases h with
    | group tail' => cases hskip
    | @marked mark hmark word' tail' =>
      rcases hmark with rfl | rfl <;> rw [readName_ident word' rfl] at hname <;> cases hname
    | @column word' tail' h =>
      rw [readName_ident word' rfl] at hname
      cases hname

/-! ### Negations -/

/-- What is written as a negation opens one. -/
theorem opensNegation_not (c : Constraint) (rest : List Char) :
    opensNegation ("NOT ".toList ++ (c.statement.toList ++ rest)) = true := by
  have hfront := front_statement c rest
  -- what is said of a column goes on neither with `IS NOT NULL` nor with an operator and a value
  have hnull : skip? "IS NOT NULL" (c.statement.toList ++ rest) = none := by
    cases hskip : skip? "IS NOT NULL" (c.statement.toList ++ rest) with
    | none => rfl
    | some tail =>
      have hlist := skip?_eq_some_iff.mp hskip
      have hsaid : Said rest c "IS" ("NOT NULL".toList ++ tail) :=
        hfront.of_column (hlist.trans rfl)
      generalize hmore : "NOT NULL".toList ++ tail = more at hsaid
      cases hsaid with
      | compare word operator right => cases operator <;> cases hmore
      | hasValue word => cases hmore
  have hcompare : (readTail.readComparison (.property ⟨none, "NOT"⟩)).run
      (c.statement.toList ++ rest) = none := by
    rw [readTail.readComparison, StateT.run_bind]
    cases hread : readOperator.run (c.statement.toList ++ rest) with
    | none => rfl
    | some found =>
      obtain ⟨operator, tail⟩ := found
      have hsaid := hfront.like_of_symbol (eq_symbol_of_readOperator hread)
      have hstatic : readStatic.run tail = none := by
        cases hsaid with
        | compare word operator right => cases operator <;> rfl
        | hasValue word => rfl
      show (readStatic >>= fun right => return Constraint.compare _ operator right).run tail = none
      rw [StateT.run_bind, hstatic]
      rfl
  rw [opensNegation, skip?_append]
  show ((readTail _).run (" ".toList ++ (c.statement.toList ++ rest))).isNone = true
  unfold readTail
  rw [run_bind_of_run (expect_append _ _)]
  show ((ifNext "IS NOT NULL" _ _).run _).isNone = true
  rw [ifNext_of_skip? hnull, hcompare]
  rfl

/-- Where a legible constraint stands, `NOT` is a column. -/
theorem opensNegation_statement {c : Constraint} (hc : c.isLegible = true) {rest : List Char}
    (h : closes rest = true) : opensNegation (c.statement.toList ++ rest) = false := by
  unfold opensNegation
  split
  · rename_i tail hskip
    have hlist := skip?_eq_some_iff.mp hskip
    have hsaid : Said rest c "NOT" tail := (front_statement c rest).of_column (hlist.trans rfl)
    generalize hword : "NOT" = word at hsaid
    cases hsaid with
    | compare word operator right =>
      subst hword
      rw [readTail_compare _ operator hc h]
      rfl
    | hasValue word =>
      subst hword
      exact congrArg Option.isNone (readTail_hasValue ⟨none, "NOT"⟩ rest)
  · rfl

/-! ### Reading back -/

/-- Each of the three conditions on paths is read back. -/
theorem readCondition_path {word : String} {f : Option String × String → Constraint}
    (hword : ident word = word)
    (hf : ∀ operand, readConditionFunction operand word = f <$> readPath) (levels : Nat)
    (s? : Option String) (path : String) (rest : List Char) :
    (readCondition levels).run ((pathFunction word s? path).toList ++ rest)
      = some (f (s?, path), rest) := by
  have hlist : (pathFunction word s? path).toList ++ rest
      = (word ++ "(").toList ++ ((pathArguments s? path).toList ++ (")".toList ++ rest)) := by
    rw [pathFunction_eq]
    simp only [String.toList_append, List.append_assoc]
  rw [hlist, readCondition, readCall_function hword, hf,
    run_map_of_run (readPath_arguments s? path rest)]

/-- Full-text conditions are read back, with and without a property. -/
theorem readCondition_contains (levels : Nat) (s? property? : Option String)
    (expression : String) (rest : List Char) :
    (readCondition levels).run
        ((Constraint.contains s? property? expression).statement.toList ++ rest)
      = some (.contains s? property? expression, rest) := by
  have hlist : (Constraint.contains s? property? expression).statement.toList ++ rest
      = ("CONTAINS" ++ "(").toList ++ ((starOr s? property?).toList ++ (", ".toList
        ++ ((quoted expression).toList ++ (")".toList ++ rest)))) := by
    simp only [Constraint.statement, String.toList_append, List.append_assoc]
    rfl
  rw [hlist, readCondition, readCall_function rfl, readConditionFunction,
    run_bind_of_run (readStarOr_starOr s? property? rfl), run_bind_of_run (expect_append _ _),
    run_bind_of_run (readQuoted_quoted expression rfl), run_bind_of_run (expect_append _ _)]
  rfl

/-- A condition on an operand is read on from what is said of the operand. -/
theorem readCondition_operand {o : Operand} {levels : Nat} (hlevels : o.statement.length ≤ levels)
    {rest : List Char} (h : closes rest = true) :
    (readCondition levels).run (o.statement.toList ++ rest) = (readTail o).run rest := by
  rcases exists_call o with ⟨ref, rfl⟩ | ⟨word, args, hword, hstatement, hf⟩
  · obtain ⟨s?, property⟩ := ref
    have hread := readColumnOf_qualifier s? property h
    obtain ⟨-, hopen⟩ := skip?_of_closes h
    show (readCondition levels).run ((qualifier s? ++ ident property).toList ++ rest) = _
    cases s? with
    | none =>
      rw [qualifier, String.empty_append, readPropertyRef,
        run_bind_of_run (readName_ident property (ends_of_closes h))] at hread
      rw [qualifier, String.empty_append, readCondition,
        readCall_other _ _ property (ends_of_closes h) hopen, run_bind_of_run hread]
    | some s =>
      rw [qualifier, String.toList_append, String.toList_append, List.append_assoc,
        List.append_assoc, readPropertyRef, run_bind_of_run (readName_ident s rfl)] at hread
      rw [qualifier, String.toList_append, String.toList_append, List.append_assoc,
        List.append_assoc, readCondition, readCall_other _ _ s rfl rfl, run_bind_of_run hread]
  · have hread := readOperand_statement o (Nat.lt_succ_of_le hlevels) h
    have hlist : o.statement.toList ++ rest
        = (word ++ "(").toList ++ (args.toList ++ (")".toList ++ rest)) := by
      rw [hstatement]
      simp only [String.toList_append, List.append_assoc]
    rw [hlist, readOperand, readCall_function hword] at hread
    rw [hlist, readCondition, readCall_function hword, hf, run_bind_of_run hread]

/-- Comparisons are read back, given levels for the functions on their left. -/
theorem readCondition_compare {left : Operand} {levels : Nat}
    (hlevels : left.statement.length ≤ levels) (operator : Operator) {right : StaticOperand}
    (hright : right.isLegible = true) {rest : List Char} (h : closes rest = true) :
    (readCondition levels).run
        ((Constraint.compare left operator right).statement.toList ++ rest)
      = some (.compare left operator right, rest) := by
  have hlist : (Constraint.compare left operator right).statement.toList ++ rest
      = left.statement.toList ++ (" ".toList ++ (operator.symbol.toList
        ++ (" ".toList ++ (right.statement.toList ++ rest)))) := by
    simp only [Constraint.statement, String.toList_append, List.append_assoc]
  rw [hlist, readCondition_operand hlevels rfl, readTail_compare left operator hright h]

/-- Conditions of existence are read back. -/
theorem readCondition_hasValue {ref : PropertyRef} {levels : Nat}
    (hlevels : ref.statement.length ≤ levels) (rest : List Char) :
    (readCondition levels).run ((Constraint.hasValue ref).statement.toList ++ rest)
      = some (.hasValue ref, rest) := by
  have hlist : (Constraint.hasValue ref).statement.toList ++ rest
      = (Operand.property ref).statement.toList ++ (" IS NOT NULL".toList ++ rest) := by
    rw [Constraint.statement, String.toList_append, List.append_assoc]
    rfl
  rw [hlist, readCondition_operand (o := .property ref) hlevels rfl, readTail_hasValue]

/-- What is read back as a condition is read back as a constraint: no condition begins with a
parenthesis. -/
theorem readConstraint_of_readCondition {c : Constraint} {levels : Nat} {cs rest : List Char}
    (hread : (readCondition levels).run cs = some (c, rest)) :
    (readConstraint (levels + 1)).run cs = some (c, rest) := by
  have hopen : skip? "(" cs = none := by
    cases hskip : skip? "(" cs with
    | none => rfl
    | some tail =>
      rw [skip?_eq_some_iff.mp hskip] at hread
      cases hread
  rw [readConstraint, ifNext_of_skip? hopen, hread]

section
variable {part : Reader Constraint} {rest : List Char}

/-- A negation is read back if its part is. -/
theorem readGroup_not {c : Constraint}
    (hread : part.run (c.statement.toList ++ (")".toList ++ rest)) = some (c, ")".toList ++ rest)) :
    (readGroup part).run ("NOT ".toList ++ (c.statement.toList ++ (")".toList ++ rest)))
      = some (.not c, rest) := by
  show readGroup part _ = _
  rw [readGroup, if_pos (opensNegation_not c _)]
  show (expect "NOT " >>= _ : Reader Constraint).run _ = _
  rw [run_bind_of_run (expect_append _ _), run_bind_of_run hread,
    run_bind_of_run (expect_append _ _)]
  rfl

/-- Two constraints with a word between them are read back if each of them is. -/
theorem readGroup_pair {word : String} {make : Constraint → Constraint → Constraint}
    (hword : ∀ tail, readConnective.run (word.toList ++ tail) = some (make, tail))
    (hcloses : ∀ tail, closes (word.toList ++ tail) = true)
    {left right : Constraint} (hlegible : left.isLegible = true)
    (hleft : ∀ {tail}, closes tail = true →
      part.run (left.statement.toList ++ tail) = some (left, tail))
    (hright : part.run (right.statement.toList ++ (")".toList ++ rest))
      = some (right, ")".toList ++ rest)) :
    (readGroup part).run (left.statement.toList ++ (word.toList
        ++ (right.statement.toList ++ (")".toList ++ rest))))
      = some (make left right, rest) := by
  have hnegation := opensNegation_statement hlegible
    (hcloses (right.statement.toList ++ (")".toList ++ rest)))
  show readGroup part _ = _
  rw [readGroup, if_neg (by rw [hnegation]; decide)]
  show (part >>= _ : Reader Constraint).run _ = _
  rw [run_bind_of_run (hleft (hcloses _)), run_bind_of_run (hword _), run_bind_of_run hright,
    run_bind_of_run (expect_append _ _)]
  rfl

end

/-- Constraints joined by a connective are read back if both of them are, one level further in. -/
theorem readConstraint_connective {word : String} {join : Constraint → Constraint → Constraint}
    (hword : ∀ tail, readConnective.run (word.toList ++ tail) = some (join, tail))
    (hcloses : ∀ tail, closes (word.toList ++ tail) = true) {left right : Constraint}
    (hstatement : (join left right).statement
      = "(" ++ left.statement ++ word ++ right.statement ++ ")")
    (hlegible : left.isLegible = true)
    (hleft : ∀ {tail}, closes tail = true → ∀ m, left.statement.length < m + 1 →
      (readConstraint (m + 1)).run (left.statement.toList ++ tail) = some (left, tail))
    (hright : ∀ {tail}, closes tail = true → ∀ m, right.statement.length < m + 1 →
      (readConstraint (m + 1)).run (right.statement.toList ++ tail) = some (right, tail))
    {n : Nat} (hlevels : (join left right).statement.length < n + 1) (rest : List Char) :
    (readConstraint (n + 1)).run ((join left right).statement.toList ++ rest)
      = some (join left right, rest) := by
  have hparen : "(".length = 1 := rfl
  rw [hstatement] at hlevels ⊢
  simp only [String.length_append] at hlevels
  obtain ⟨m, rfl⟩ : ∃ m, n = m + 1 := ⟨n - 1, by omega⟩
  simp only [String.toList_append, List.append_assoc]
  rw [readConstraint, ifNext_append]
  exact readGroup_pair hword hcloses hlegible (fun htail => hleft htail m (by omega))
    (hright rfl m (by omega))

/-- Legible constraints are read back, the induction being on the parts of a group. -/
theorem readConstraint_statement (c : Constraint) (hc : c.isLegible = true) {levels : Nat}
    (hlevels : c.statement.length < levels) {rest : List Char} (h : closes rest = true) :
    (readConstraint levels).run (c.statement.toList ++ rest) = some (c, rest) := by
  obtain ⟨n, rfl⟩ : ∃ n, levels = n + 1 := ⟨levels - 1, by omega⟩
  have hparen : "(".length = 1 := rfl
  induction c generalizing n rest with
  | and left right ihleft ihright =>
    obtain ⟨hleft, hright⟩ := Bool.and_eq_true_iff.mp hc
    exact readConstraint_connective (fun _ => rfl) (fun _ => rfl) (by rw [Constraint.statement])
      hleft (ihleft hleft) (ihright hright) hlevels rest
  | or left right ihleft ihright =>
    obtain ⟨hleft, hright⟩ := Bool.and_eq_true_iff.mp hc
    exact readConstraint_connective (fun _ => rfl) (fun _ => rfl) (by rw [Constraint.statement])
      hleft (ihleft hleft) (ihright hright) hlevels rest
  | not c ih =>
    have hword : "(NOT " = "(" ++ "NOT " := rfl
    rw [Constraint.statement, hword] at hlevels ⊢
    simp only [String.length_append] at hlevels
    obtain ⟨m, rfl⟩ : ∃ m, n = m + 1 := ⟨n - 1, by omega⟩
    simp only [String.toList_append, List.append_assoc]
    rw [readConstraint, ifNext_append]
    exact readGroup_not (ih hc rfl m (by omega))
  | child s? path =>
    exact readConstraint_of_readCondition (readCondition_path
      (f := fun p => .child p.1 p.2) (show ident "ISCHILDNODE" = _ from rfl) (fun _ => rfl)
      n s? path rest)
  | descendant s? path =>
    exact readConstraint_of_readCondition (readCondition_path
      (f := fun p => .descendant p.1 p.2) (show ident "ISDESCENDANTNODE" = _ from rfl)
      (fun _ => rfl) n s? path rest)
  | same s? path =>
    exact readConstraint_of_readCondition (readCondition_path
      (f := fun p => .same p.1 p.2) (show ident "ISSAMENODE" = _ from rfl) (fun _ => rfl)
      n s? path rest)
  | contains s? property? expression =>
    exact readConstraint_of_readCondition (readCondition_contains n s? property? expression rest)
  | compare left operator right =>
    have hleft : left.statement.length ≤ n := by
      simp only [Constraint.statement, String.length_append] at hlevels
      omega
    exact readConstraint_of_readCondition (readCondition_compare hleft operator hc h)
  | hasValue ref =>
    have href : ref.statement.length ≤ n := by
      simp only [Constraint.statement, String.length_append] at hlevels
      omega
    exact readConstraint_of_readCondition (readCondition_hasValue href rest)

end Statement

end ContentSearch
