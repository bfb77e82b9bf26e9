import ContentSearch.Document.Query
import ContentSearch.Proofs.Json.Access
import ContentSearch.Proofs.Json.Reading
import ContentSearch.Proofs.Number.Decimal

/-!
# Reading queries back from documents

A query without literals of floating-point numbers and dates is read back from its document as it
was, part by part: what is absent, empty or without effect is left out of the document and read back
as such. The text of the document is read back as well, as long as lists and objects do not stand
in each other deeper than the reader of documents allows (`Query.readsBack_document`).
-/

namespace ContentSearch

open Json (AllLeaves)

/-! ## Names -/

/-- The name of a type in documents is read back, also the one of weak references. -/
theorem PropertyType.ofJson?_documentName (t : PropertyType) :
    ofJson? (.text t.documentName) = some t := by
  cases t with
  | text kind => cases kind <;> rfl
  | _ => rfl

theorem Operator.ofJson?_label (op : Operator) : ofJson? (.text op.label) = some op := by
  cases op <;> rfl

theorem JoinKind.ofJson?_documentName (k : JoinKind) :
    ofJson? (.text k.documentName) = some k := by
  cases k <;> rfl

theorem Direction.ofJson?_documentName (d : Direction) :
    ofJson? (.text d.documentName) = some d := by
  cases d <;> rfl

/-- The type that a value is written with is found by its name. -/
theorem PropertyType.find?_label (t : PropertyType) :
    (PropertyType.all.find? fun t' => t'.label == t.label) = some t := by
  cases t with
  | text kind => cases kind <;> rfl
  | _ => rfl

/-- The name of a type with a value is its name as a declared type too, except for weak references,
which have two names. -/
theorem PropertyType.ofJson?_label (t : PropertyType) :
    ofJson? (.text t.label) = if t = .text .weakReference then none else some t := by
  cases t with
  | text kind => cases kind <;> rfl
  | _ => rfl

/-! ## Values -/

theorem Json.byte?_nat (b : UInt8) : Json.byte? (.nat b.toNat) = some b := by
  show (if b.toNat < 256 then some b.toNat else none).map UInt8.ofNat = some b
  rw [if_pos b.toNat_lt, Option.map_some, UInt8.ofNat_toNat]

theorem Json.uint64?_nat (n : UInt64) : Json.uint64? (.nat n.toNat) = some n := by
  show (if n.toNat < 0x10000000000000000 then some n.toNat else none).map UInt64.ofNat = some n
  rw [if_pos n.toNat_lt, Option.map_some, UInt64.ofNat_toNat]

/-- A value is read back by its type, unless it is a floating-point number or a date. -/
theorem Value.ofContent?_contentJson {v : Value} (hdouble : v.type ≠ .double)
    (hdate : v.type ≠ .date) : ofContent? v.type v.contentJson = some v := by
  cases v with
  | text kind s => rfl
  | binary bytes =>
    show (Json.listOf? Json.byte? (.list (bytes.map fun b => .nat b.toNat))).map Value.binary = _
    rw [Json.listOf?_map fun b _ => Json.byte?_nat b]
    rfl
  | long n =>
    show (Number.int64? n.toInt).map Value.long = _
    rw [Number.int64?_toInt]
    rfl
  | double x => exact absurd rfl hdouble
  | decimal d =>
    show (Number.Decimal.ofNotation? d.text).map Value.decimal = _
    rw [Number.Decimal.ofNotation?_text]
    rfl
  | date t => exact absurd rfl hdate
  | boolean b => rfl

/-- The tag of a value names its type, so that its content is read by the right one. -/
theorem Value.ofJson?_toJson {v : Value} (hdouble : v.type ≠ .double) (hdate : v.type ≠ .date) :
    ofJson? v.toJson = some v := by
  show ((PropertyType.all.find? fun t => t.label == v.type.label).bind
    fun t => ofContent? t v.contentJson) = some v
  rw [PropertyType.find?_label, Option.bind_some, ofContent?_contentJson hdouble hdate]

/-! ## Sources -/

theorem Selector.ofJson?_toJson (s : Selector) : ofJson? s.toJson = some s := by
  rcases s with ⟨table, _ | name⟩ <;> rfl

theorem JoinCondition.ofJson?_toJson (c : JoinCondition) : ofJson? c.toJson = some c := by
  cases c with
  | same s₁ s₂ path? => cases path? <;> rfl
  | _ => rfl

/-- Sources are read back, with all joins in them. -/
theorem Source.ofJson?_toJson (s : Source) : ofJson? s.toJson = some s := by
  induction s with
  | selector s =>
    rw [ofJson?, toJson]
    show (Selector.ofJson? s.toJson).map Source.selector = _
    rw [Selector.ofJson?_toJson]
    rfl
  | join kind left right condition ihleft ihright =>
    rw [ofJson?, toJson]
    show (do
      let left ← Source.ofJson? left.toJson
      let right ← Source.ofJson? right.toJson
      let kind ← JoinKind.ofJson? (.text kind.documentName)
      let condition ← JoinCondition.ofJson? condition.toJson
      some (Source.join kind left right condition)) = _
    rw [ihleft, ihright, JoinKind.ofJson?_documentName, JoinCondition.ofJson?_toJson]
    rfl

/-! ## Operands -/

theorem PropertyRef.ofJson?_toJson (r : PropertyRef) : ofJson? r.toJson = some r := by
  rcases r with ⟨_ | s, property⟩ <;> rfl

/-- Operands are read back, however deep the functions in them. -/
theorem Operand.ofJson?_toJson (o : Operand) : ofJson? o.toJson = some o := by
  induction o with
  | property ref =>
    rw [ofJson?, toJson]
    show (PropertyRef.ofJson? ref.toJson).map Operand.property = _
    rw [PropertyRef.ofJson?_toJson]
    rfl
  | length ref =>
    rw [ofJson?, toJson]
    show (PropertyRef.ofJson? ref.toJson).map Operand.length = _
    rw [PropertyRef.ofJson?_toJson]
    rfl
  | name s? | localName s? | depth s? | score s? =>
    rw [ofJson?, toJson]
    cases s? <;> rfl
  | upper o ih =>
    rw [ofJson?, toJson]
    show (Operand.ofJson? o.toJson).map Operand.upper = _
    rw [ih]
    rfl
  | lower o ih =>
    rw [ofJson?, toJson]
    show (Operand.ofJson? o.toJson).map Operand.lower = _
    rw [ih]
    rfl

/-- Whether documents keep a literal as it is: its value is no floating-point number and no date. -/
def Literal.IsKept (l : Literal) : Prop :=
  l.value.type ≠ .double ∧ l.value.type ≠ .date

/-- A literal is read back with the type it was given. -/
theorem Literal.ofJson?_toJson {l : Literal} (h : l.IsKept) : ofJson? l.toJson = some l := by
  show (do
    let value ← Value.ofJson? l.value.toJson
    let type ← PropertyType.ofJson? (.text l.type.documentName)
    some (Literal.mk value type)) = _
  rw [Value.ofJson?_toJson h.1 h.2, PropertyType.ofJson?_documentName]
  rfl

/-! ## Constraints -/

/-- The literals of a constraint. -/
def Constraint.literals : Constraint → List Literal
  | .and left right | .or left right => left.literals ++ right.literals
  | .not c => c.literals
  | .compare _ _ (.literal l) => [l]
  | _ => []

/-- Constraints joined by a connective are read back if both of them are. -/
theorem Constraint.ofJson?_connective {join : Constraint → Constraint → Constraint}
    (hjoin : join = .and ∨ join = .or) {left right : Constraint}
    (hleft : ofJson? left.toJson = some left) (hright : ofJson? right.toJson = some right) :
    ofJson? (join left right).toJson = some (join left right) := by
  have hread : ofJson? (join left right).toJson = (do
      let left ← ofJson? left.toJson
      let right ← ofJson? right.toJson
      some (join left right)) := by
    rcases hjoin with rfl | rfl
    all_goals
      rw [ofJson?, toJson]
      rfl
  rw [hread, hleft, hright]
  rfl

/-- A constraint is read back if its literals are kept. -/
theorem Constraint.ofJson?_toJson {c : Constraint} (h : ∀ l ∈ c.literals, l.IsKept) :
    ofJson? c.toJson = some c := by
  induction c with
  | and left right ihleft ihright =>
    obtain ⟨hleft, hright⟩ := List.forall_mem_append.mp h
    exact ofJson?_connective (.inl rfl) (ihleft hleft) (ihright hright)
  | or left right ihleft ihright =>
    obtain ⟨hleft, hright⟩ := List.forall_mem_append.mp h
    exact ofJson?_connective (.inr rfl) (ihleft hleft) (ihright hright)
  | not c ih =>
    rw [ofJson?, toJson]
    show (Constraint.ofJson? c.toJson).map Constraint.not = _
    rw [ih h]
    rfl
  | compare left operator right =>
    have hright : StaticOperand.ofJson? right.toJson = some right := by
      rcases right with l | name
      · show (Literal.ofJson? l.toJson).map StaticOperand.literal = _
        rw [Literal.ofJson?_toJson (h l List.mem_cons_self)]
        rfl
      · rfl
    rw [ofJson?, toJson]
    show (do
      let left ← Operand.ofJson? left.toJson
      let operator ← Operator.ofJson? (.text operator.label)
      let right ← StaticOperand.ofJson? right.toJson
      some (Constraint.compare left operator right)) = _
    rw [Operand.ofJson?_toJson, Operator.ofJson?_label, hright]
    rfl
  | child s? path | descendant s? path | same s? path =>
    rw [ofJson?, toJson]
    cases s? <;> rfl
  | contains s? property? expression =>
    rw [ofJson?, toJson]
    cases s? <;> cases property? <;> rfl
  | hasValue ref =>
    rw [ofJson?, toJson]
    show (PropertyRef.ofJson? ref.toJson).map Constraint.hasValue = _
    rw [PropertyRef.ofJson?_toJson]
    rfl

/-! ## Queries -/

theorem OrderBy.ofJson?_toJson (o : OrderBy) : ofJson? o.toJson = some o := by
  show (do
    let operand ← Operand.ofJson? o.operand.toJson
    let direction ← Direction.ofJson? (.text o.direction.documentName)
    some (OrderBy.mk operand direction)) = _
  rw [Operand.ofJson?_toJson, Direction.ofJson?_documentName]
  rfl

theorem ResultColumn.ofJson?_toJson (c : ResultColumn) : ofJson? c.toJson = some c := by
  rcases c with ⟨s?, property?, alias?⟩
  cases s? <;> cases property? <;> cases alias? <;> rfl

/-- A limit is read back, however large its numbers. -/
theorem Limit.ofJson?_toJson (l : Limit) : ofJson? l.toJson = some l := by
  show (do
    let rows ← Json.uint64? (.nat l.rows.toNat)
    let offset ← Json.uint64? (.nat l.offset.toNat)
    some (Limit.mk rows offset)) = _
  rw [Json.uint64?_nat, Json.uint64?_nat]
  rfl

/-- The literals of a query. -/
def Query.literals (q : Query) : List Literal :=
  q.constraint?.toList.flatMap Constraint.literals

/-- The parts of the document of a query. -/
def Query.documentParts (q : Query) : List (String × Option Json) :=
  [("source", some q.source.toJson), ("constraint", q.constraint?.map Constraint.toJson),
    listMember "orderings" (q.orderings.map OrderBy.toJson),
    listMember "columns" (q.columns.map ResultColumn.toJson),
    ("limit", if q.limit.isUnlimited then none else some q.limit.toJson)]

/-- The document of a query is a record of its parts. -/
theorem Query.toJson_eq_record (q : Query) : q.toJson = Json.record q.documentParts := rfl

/-- A list that is left out if it is empty is read back. -/
theorem defaulted?_listMember {α : Type} {j : Json} {fields : Json.Fields j} {name : String}
    {item? : Json → Option α} {toJson : α → Json} {as : List α}
    (h : Json.findMember name fields.members = (listMember name (as.map toJson)).2)
    (hread : ∀ a ∈ as, item? (toJson a) = some a) :
    fields.defaulted? name [] (Json.listOf? item?) = some as := by
  apply Json.Fields.defaulted?_of_findMember h
  · intro hempty
    exact List.map_eq_nil_iff.mp (List.isEmpty_iff.mp hempty)
  · exact Json.listOf?_map hread

/-- A query is read back from its document as long as its literals are kept. -/
theorem Query.ofJson?_toJson {q : Query} (h : ∀ l ∈ q.literals, l.IsKept) :
    ofJson? q.toJson = some q := by
  have hnames : (q.documentParts.map Prod.fst).Nodup := by
    show Query.memberNames.Nodup
    decide
  obtain ⟨fields, hfields, hpart⟩ := Json.fields?_record Query.memberNames hnames
  have hsource : fields.required? "source" Source.ofJson? = some q.source := by
    rw [Json.Fields.required?_of_findMember (hpart "source"), Source.ofJson?_toJson]
  have hconstraint : fields.optional? "constraint" Constraint.ofJson? = some q.constraint? := by
    apply Json.Fields.optional?_of_findMember (hpart "constraint")
    · intro c hc
      apply Constraint.ofJson?_toJson
      intro l hl
      exact h l (List.mem_flatMap.mpr ⟨c, Option.mem_toList.mpr hc, hl⟩)
    · intro c _ hnull
      cases c <;> cases hnull
  have horderings : fields.defaulted? "orderings" [] (Json.listOf? OrderBy.ofJson?)
      = some q.orderings :=
    defaulted?_listMember (hpart "orderings") fun o _ => OrderBy.ofJson?_toJson o
  have hcolumns : fields.defaulted? "columns" [] (Json.listOf? ResultColumn.ofJson?)
      = some q.columns :=
    defaulted?_listMember (hpart "columns") fun c _ => ResultColumn.ofJson?_toJson c
  have hlimit : fields.defaulted? "limit" .unlimited Limit.ofJson? = some q.limit := by
    apply Json.Fields.defaulted?_of_findMember (hpart "limit")
    · exact Limit.isUnlimited_iff.mp
    · exact Limit.ofJson?_toJson q.limit
  rw [toJson_eq_record, ofJson?, hfields]
  simp only [Option.bind_eq_bind, Option.bind_some, hsource, hconstraint, horderings, hcolumns,
    hlimit]

/-! ## Leaves of documents -/

/-- The leaves of documents: texts, truth values and integers of 64 bits, and never null. -/
def Json.IsDocumentLeaf (j : Json) : Prop :=
  j.IsExactLeaf ∧ j ≠ .null

namespace Json

variable {p : Json → Prop}

/-- The leaves of a list are those of its items. -/
@[simp] theorem allLeaves_list_iff {items : List Json} :
    (Json.list items).AllLeaves p ↔ ∀ j ∈ items, j.AllLeaves p := by
  constructor
  · intro h
    cases h
    assumption
  · exact .list

/-- The leaves of an object are those of its members. -/
@[simp] theorem allLeaves_object_iff {members : List (String × Json)} :
    (Json.object members).AllLeaves p ↔ ∀ m ∈ members, m.2.AllLeaves p := by
  constructor
  · intro h
    cases h
    assumption
  · exact .object

@[simp] theorem allLeaves_tagged_iff {tag : String} {v : Json} :
    (tagged tag v).AllLeaves p ↔ v.AllLeaves p := by
  rw [tagged, allLeaves_object_iff, List.forall_mem_singleton]

/-- The leaves of a record are those of the members that are written. -/
@[simp] theorem allLeaves_record_iff {parts : List (String × Option Json)} :
    (record parts).AllLeaves p ↔ ∀ part ∈ parts, ∀ v ∈ part.2, v.AllLeaves p := by
  rw [record, allLeaves_object_iff]
  constructor
  · intro h part hpart v hv
    have hv : part.2.map (fun v => (part.1, v)) = some (part.1, v) := by
      rw [hv, Option.map_some]
    exact h (part.1, v) (List.mem_filterMap.mpr ⟨part, hpart, hv⟩)
  · intro h m hm
    obtain ⟨part, hpart, hm⟩ := List.mem_filterMap.mp hm
    obtain ⟨v, hv, rfl⟩ := Option.map_eq_some_iff.mp hm
    exact h part hpart v hv

@[simp] theorem allLeaves_text (s : String) : (Json.text s).AllLeaves IsDocumentLeaf := by
  apply AllLeaves.text
  constructor
  · trivial
  · intro h
    cases h

/-- Integers of 64 bits are printed and read without loss, with a sign or without. -/
theorem allLeaves_int {n : Int} (hlow : -0x8000000000000000 ≤ n)
    (hhigh : n < 0x10000000000000000) : (Json.int n).AllLeaves IsDocumentLeaf := by
  apply AllLeaves.int
  constructor
  · exact ⟨hlow, hhigh⟩
  · intro h
    cases h

theorem allLeaves_nat {n : Nat} (h : n < 0x10000000000000000) :
    (Json.nat n).AllLeaves IsDocumentLeaf :=
  allLeaves_int (by omega) (by omega)

end Json

/-- All numbers in the document of a value are integers, if it is no double. -/
theorem Value.allLeaves_toJson {v : Value} (hdouble : v.type ≠ .double) :
    v.toJson.AllLeaves Json.IsDocumentLeaf := by
  have hcontent : v.contentJson.AllLeaves Json.IsDocumentLeaf := by
    cases v with
    | text | decimal | date => exact Json.allLeaves_text _
    | binary bytes =>
      simp only [contentJson, Json.allLeaves_list_iff, List.forall_mem_map]
      intro b _
      have := b.toNat_lt
      exact Json.allLeaves_nat (by omega)
    | long n =>
      have hlow := n.le_toInt
      have hhigh := n.toInt_lt
      exact Json.allLeaves_int (by omega) (by omega)
    | double x => exact absurd rfl hdouble
    | boolean b => exact .bool ⟨trivial, fun h => by cases h⟩
  simp [toJson, hcontent]

theorem JoinCondition.allLeaves_toJson (c : JoinCondition) :
    c.toJson.AllLeaves Json.IsDocumentLeaf := by
  cases c <;> simp [toJson, contentJson]

theorem Source.allLeaves_toJson (s : Source) : s.toJson.AllLeaves Json.IsDocumentLeaf := by
  induction s with
  | selector s => simp [toJson, Selector.toJson]
  | join kind left right condition ihleft ihright =>
    simp [toJson, ihleft, ihright, condition.allLeaves_toJson]

theorem PropertyRef.allLeaves_toJson (r : PropertyRef) :
    r.toJson.AllLeaves Json.IsDocumentLeaf := by
  simp [toJson, selectorMember]

theorem Operand.allLeaves_toJson (o : Operand) : o.toJson.AllLeaves Json.IsDocumentLeaf := by
  induction o with
  | property ref | length ref => simp [toJson, ref.allLeaves_toJson]
  | name s? | localName s? | depth s? | score s? => simp [toJson, selectorMember]
  | upper o ih | lower o ih => simp [toJson, ih]

theorem StaticOperand.allLeaves_toJson {o : StaticOperand}
    (h : ∀ l, o = .literal l → l.value.type ≠ .double) :
    o.toJson.AllLeaves Json.IsDocumentLeaf := by
  rcases o with l | name
  · simp [toJson, Literal.toJson, Value.allLeaves_toJson (h l rfl)]
  · simp [toJson]

/-- All numbers in the document of a constraint are integers, if its literals are kept. -/
theorem Constraint.allLeaves_toJson {c : Constraint} (h : ∀ l ∈ c.literals, l.IsKept) :
    c.toJson.AllLeaves Json.IsDocumentLeaf := by
  induction c with
  | and left right ihleft ihright | or left right ihleft ihright =>
    obtain ⟨hleft, hright⟩ := List.forall_mem_append.mp h
    simp [toJson, ihleft hleft, ihright hright]
  | not c ih => simp [toJson, ih h]
  | compare left operator right =>
    have hright : right.toJson.AllLeaves Json.IsDocumentLeaf := by
      apply StaticOperand.allLeaves_toJson
      rintro l rfl
      exact (h l List.mem_cons_self).1
    simp [toJson, left.allLeaves_toJson, hright]
  | child s? path | descendant s? path | same s? path => simp [toJson, placeJson, selectorMember]
  | contains s? property? expression => simp [toJson, selectorMember]
  | hasValue ref => simp [toJson, ref.allLeaves_toJson]

theorem OrderBy.allLeaves_toJson (o : OrderBy) : o.toJson.AllLeaves Json.IsDocumentLeaf := by
  simp [toJson, o.operand.allLeaves_toJson]

theorem ResultColumn.allLeaves_toJson (c : ResultColumn) :
    c.toJson.AllLeaves Json.IsDocumentLeaf := by
  simp [toJson, selectorMember]

theorem Limit.allLeaves_toJson (l : Limit) : l.toJson.AllLeaves Json.IsDocumentLeaf := by
  simp [toJson, Json.allLeaves_nat l.rows.toNat_lt, Json.allLeaves_nat l.offset.toNat_lt]

/-- All numbers in the document of a query are integers, if its literals are kept. -/
theorem Query.allLeaves_toJson {q : Query} (h : ∀ l ∈ q.literals, l.IsKept) :
    q.toJson.AllLeaves Json.IsDocumentLeaf := by
  have hconstraint : ∀ c ∈ q.constraint?, c.toJson.AllLeaves Json.IsDocumentLeaf := by
    intro c hc
    apply Constraint.allLeaves_toJson
    intro l hl
    exact h l (List.mem_flatMap.mpr ⟨c, Option.mem_toList.mpr hc, hl⟩)
  have hlist : ∀ {name : String} {items : List Json},
      (∀ j ∈ items, j.AllLeaves Json.IsDocumentLeaf) →
      ∀ v ∈ (listMember name items).2, v.AllLeaves Json.IsDocumentLeaf := by
    intro name items hitems v hv
    unfold listMember at hv
    split at hv
    · cases hv
    · obtain rfl := Option.some.inj hv
      exact Json.allLeaves_list_iff.mpr hitems
  rw [toJson_eq_record, Json.allLeaves_record_iff]
  simp only [documentParts, List.forall_mem_cons]
  refine ⟨?_, ?_, ?_, ?_, ?_, List.forall_mem_nil _⟩
  · intro v hv
    obtain rfl := Option.some.inj hv
    exact q.source.allLeaves_toJson
  · intro v hv
    obtain ⟨c, hc, rfl⟩ := Option.map_eq_some_iff.mp hv
    exact hconstraint c hc
  · exact hlist (List.forall_mem_map.mpr fun o _ => o.allLeaves_toJson)
  · exact hlist (List.forall_mem_map.mpr fun c _ => c.allLeaves_toJson)
  · intro v hv
    split at hv
    · cases hv
    · obtain rfl := Option.some.inj hv
      exact q.limit.allLeaves_toJson

/-! ## Texts of documents -/

/-- What stands under a name of the document of a query. -/
theorem Query.member?_toJson (q : Query) (name : String) :
    q.toJson.member? name = Json.partOf name q.documentParts := by
  have hnames : (q.documentParts.map Prod.fst).Nodup := by
    show Query.memberNames.Nodup
    decide
  rw [toJson_eq_record]
  exact Json.findMember_present hnames name

/-- A list is left out of a document exactly if it has no items. -/
theorem listMember_eq_none_iff {α : Type} {name : String} {toJson : α → Json} {as : List α} :
    (listMember name (as.map toJson)).2 = none ↔ as = [] := by
  cases as with
  | nil => simp [listMember]
  | cons a rest => simp [listMember]

/-- The text of a document is read back unless it is too deep. -/
theorem Query.ofText?_toJson {q : Query} (h : ∀ l ∈ q.literals, l.IsKept) :
    (Json.ofText? q.toJson.compact).bind ofJson?
      = if q.toJson.depth ≤ Json.maxDepth then some q else none := by
  have hexact : q.toJson.AllLeaves Json.IsExactLeaf :=
    (allLeaves_toJson h).mono fun _ hleaf => hleaf.1
  rw [Json.ofText?_compact hexact]
  split
  · exact ofJson?_toJson h
  · rfl

/-- A query without literals of floating-point numbers and dates is read back from its document, and
from the text of its document exactly if that is no deeper than documents may be. Nothing in the
document is null: absent parts, empty lists and an unlimited limit are left out, and a limit with an
offset alone is not. The type of a value is named as declared types are, except for weak references,
whose two names are not taken for each other. -/
theorem Query.readsBack_document {q : Query} (h : ∀ l ∈ q.literals, l.IsKept) :
    ofJson? q.toJson = some q
      ∧ (Json.ofText? q.toJson.compact).bind ofJson?
        = (if q.toJson.depth ≤ Json.maxDepth then some q else none)
      ∧ q.toJson.AllLeaves (· ≠ .null)
      ∧ (q.toJson.member? "constraint" = none ↔ q.constraint? = none)
      ∧ (q.toJson.member? "orderings" = none ↔ q.orderings = [])
      ∧ (q.toJson.member? "columns" = none ↔ q.columns = [])
      ∧ (q.toJson.member? "limit" = none ↔ q.limit = .unlimited)
      ∧ ∀ t : PropertyType, PropertyType.ofJson? (.text t.label)
        = if t = .text .weakReference then none else some t := by
  simp only [member?_toJson]
  refine ⟨ofJson?_toJson h, ofText?_toJson h, (allLeaves_toJson h).mono fun _ hleaf => hleaf.2, ?_,
    ?_, ?_, ?_, PropertyType.ofJson?_label⟩
  · exact Option.map_eq_none_iff
  · exact listMember_eq_none_iff
  · exact listMember_eq_none_iff
  · rw [← Limit.isUnlimited_iff]
    show (if q.limit.isUnlimited then none else some q.limit.toJson) = none ↔ _
    simp

/-! ## A query of weak references -/

/-- Pages after the first ten that refer to a place or have as many entries as a variable says. -/
def referringPages : Query :=
  ⟨.join .leftOuter (.selector ⟨"page", some "p"⟩) (.selector ⟨"place", none⟩)
      (.same "p" "place" none),
    some (.or
      (.compare (.upper (.property ⟨some "p", "target"⟩)) .equalTo
        (.literal ⟨.text .weakReference "a", .text .weakReference⟩))
      (.compare (.length ⟨none, "entries"⟩) .greaterOrEqual (.variable "n"))),
    [⟨.score none, .descending⟩], [⟨some "p", none, none⟩], ⟨18446744073709551615, 10⟩⟩

/-- The document of the query has few enough levels to be read back, with its weak reference and the
largest limit there is. -/
theorem Query.readsBack_document_referringPages :
    (∀ l ∈ referringPages.literals, l.IsKept)
      ∧ (Json.ofText? referringPages.toJson.compact).bind Query.ofJson? = some referringPages := by
  have hkept : ∀ l ∈ referringPages.literals, l.IsKept := by
    intro l hl
    obtain rfl := List.mem_singleton.mp hl
    constructor <;> decide
  have hdepth : referringPages.toJson.depth ≤ Json.maxDepth := by decide +kernel
  obtain ⟨-, htext, -⟩ := Query.readsBack_document hkept
  rw [if_pos hdepth] at htext
  exact ⟨hkept, htext⟩

/-- A constraint under as many negations. -/
def negated (c : Constraint) : Nat → Constraint
  | 0 => c
  | n + 1 => .not (negated c n)

/-- Sixty-three negations are more than the reader of documents follows. -/
theorem Query.not_ofText?_deep :
    ¬∀ q : Query, (∀ l ∈ q.literals, l.IsKept) →
      (Json.ofText? q.toJson.compact).bind Query.ofJson? = some q := by
  intro hall
  let q : Query := (Query.all (.selector ⟨"page", none⟩)).withConstraint
    (negated (.hasValue ⟨none, "title"⟩) 63)
  have hkept : ∀ l ∈ q.literals, l.IsKept := by
    have hnone : q.literals = [] := by decide +kernel
    rw [hnone]
    exact List.forall_mem_nil _
  have hdeep : ¬q.toJson.depth ≤ Json.maxDepth := by decide +kernel
  have hread := hall q hkept
  rw [ofText?_toJson hkept, if_neg hdeep] at hread
  cases hread

end ContentSearch
