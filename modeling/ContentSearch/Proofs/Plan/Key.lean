import ContentSearch.Plan.Memo

/-!
# What a key tells

A key is a statement and a list of variables, put together with zero characters. Where none of
these contains a zero character itself, two keys are the same exactly if they are made of one
statement and of the same names, bound to values of the same types and texts
(`PlanMemo.key_eq_iff`).
-/

namespace ContentSearch

/-- A text without zero characters. -/
def IsZeroFree (s : String) : Prop :=
  '\x00' ∉ s.toList

namespace PlanMemo

/-! ## Separators -/

/-- Parts without a separator are told apart from what begins with the separator. -/
theorem append_inj_of_notMem {c : Char} {a b x y : List Char} (ha : c ∉ a) (hb : c ∉ b)
    (hx : ∀ d ∈ x.head?, d = c) (hy : ∀ d ∈ y.head?, d = c) (h : a ++ x = b ++ y) :
    a = b ∧ x = y := by
  have hfront : ∀ {l rest : List Char}, c ∉ l → (∀ d ∈ rest.head?, d = c) →
      (l ++ rest).takeWhile (· != c) = l := by
    intro l rest hl hrest
    have hall : ∀ d ∈ l, (d != c) = true := by
      intro d hd
      rw [bne_iff_ne]
      rintro rfl
      exact hl hd
    rw [List.takeWhile_append_of_pos hall]
    cases rest with
    | nil => simp
    | cons d others => simp [hrest d rfl]
  have hab : a = b := by
    rw [← hfront ha hx, h, hfront hb hy]
  subst hab
  exact ⟨rfl, List.append_cancel_left h⟩

/-! ## Variables -/

/-- What a key tells of a variable: its name, and type and text of its value. -/
structure Tag where
  name : String
  type : PropertyType
  text : String

/-- What a key tells of the variables, in the order of their names. -/
def tags (bindings : Bindings) : List Tag :=
  (sortedBindings bindings).map fun b => ⟨b.1, b.2.type, b.2.display⟩

namespace Tag

/-- The characters of a key that stand for a variable. -/
def chars (t : Tag) : List Char :=
  '\x00' :: (t.name.toList ++ '\x00' :: (t.type.label.toList ++ ':' :: t.text.toList))

/-- Name and text are free of zero characters. -/
def ZeroFree (t : Tag) : Prop :=
  IsZeroFree t.name ∧ IsZeroFree t.text

/-- The characters of variables begin with a zero character, if there are any. -/
theorem head?_flatMap_chars {ts : List Tag} : ∀ c ∈ (ts.flatMap chars).head?, c = '\x00' := by
  intro c hc
  cases ts with
  | nil => cases hc
  | cons t rest => exact (Option.some.inj hc).symm

end Tag

theorem notMem_label (t : PropertyType) : ':' ∉ t.label.toList := by
  have hall : ∀ t ∈ PropertyType.all, ':' ∉ t.label.toList := by decide +kernel
  exact hall t (PropertyType.mem_all t)

/-- The name of a type tells the type. -/
theorem label_inj {t t' : PropertyType} (h : t.label = t'.label) : t = t' := by
  have hof := PropertyType.ofLabel?_label t
  rw [h, PropertyType.ofLabel?_label t'] at hof
  exact (Option.some.inj hof).symm

/-- Variables without zero characters are told apart by their characters. -/
theorem tags_eq_of_chars {ts ts' : List Tag} (hts : ∀ t ∈ ts, t.ZeroFree)
    (hts' : ∀ t ∈ ts', t.ZeroFree) (h : ts.flatMap Tag.chars = ts'.flatMap Tag.chars) :
    ts = ts' := by
  induction ts generalizing ts' with
  | nil =>
    cases ts' with
    | nil => rfl
    | cons t' rest' => cases h
  | cons t rest ih =>
    cases ts' with
    | nil => cases h
    | cons t' rest' =>
      obtain ⟨hname, htext⟩ := hts t List.mem_cons_self
      obtain ⟨hname', htext'⟩ := hts' t' List.mem_cons_self
      simp only [List.flatMap_cons, Tag.chars, List.cons_append, List.append_assoc,
        List.cons.injEq, true_and] at h
      -- the name ends at a zero character, the type at a colon, the text at the next variable
      obtain ⟨hnames, h⟩ := append_inj_of_notMem hname hname' (by simp) (by simp) h
      obtain ⟨hlabels, h⟩ := append_inj_of_notMem (notMem_label t.type) (notMem_label t'.type)
        (by simp) (by simp) (List.cons.inj h).2
      obtain ⟨htexts, h⟩ := append_inj_of_notMem htext htext' Tag.head?_flatMap_chars
        Tag.head?_flatMap_chars (List.cons.inj h).2
      have hsame : t = t' := by
        cases t
        cases t'
        simp only [Tag.mk.injEq]
        exact ⟨String.toList_inj.mp hnames, label_inj (String.toList_inj.mp hlabels),
          String.toList_inj.mp htexts⟩
      rw [hsame, ih (fun u hu => hts u (List.mem_cons_of_mem t hu))
        (fun u hu => hts' u (List.mem_cons_of_mem t' hu)) h]

/-! ## Keys -/

/-- A key consists of the statement and the characters of the variables. -/
theorem toList_key (statement : String) (bindings : Bindings) :
    (key statement bindings).toList
      = statement.toList ++ (tags bindings).flatMap Tag.chars := by
  rw [key, String.toList_append, String.toList_join, tags]
  simp [List.flatMap_map, bindingKey, Tag.chars]

/-- Without zero characters two keys are the same exactly if the statements are, and the same names
are bound to values of the same types and texts. -/
theorem key_eq_iff {statement statement' : String} {bindings bindings' : Bindings}
    (hstatement : IsZeroFree statement) (hstatement' : IsZeroFree statement')
    (hbindings : ∀ t ∈ tags bindings, t.ZeroFree)
    (hbindings' : ∀ t ∈ tags bindings', t.ZeroFree) :
    key statement bindings = key statement' bindings'
      ↔ statement = statement' ∧ tags bindings = tags bindings' := by
  rw [← String.toList_inj, toList_key, toList_key]
  constructor
  · intro h
    obtain ⟨hfront, hback⟩ := append_inj_of_notMem hstatement hstatement'
      Tag.head?_flatMap_chars Tag.head?_flatMap_chars h
    exact ⟨String.toList_inj.mp hfront, tags_eq_of_chars hbindings hbindings' hback⟩
  · rintro ⟨rfl, htags⟩
    rw [htags]

end PlanMemo

end ContentSearch
