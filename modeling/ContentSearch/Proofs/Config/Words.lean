import ContentSearch.Config.Loading
import Mathlib.Data.List.Basic

/-!
# Layers word by word

A layer of settings says one thing after another: that there is a table at the end of a path, or
that there is some other value. The layers are laid over each other as if all these words were said
in turn, so that the last word on a setting counts (`Settings.leaf?_ofLayers`). A word can also be
about all settings of a table: what gives the table another value hides the settings that it had.
-/

namespace ContentSearch

namespace Settings

/-! ## Words -/

/-- Whether a value is a table of settings. -/
def isTable : Json → Bool
  | .object _ => true
  | _ => false

/-- One thing that a layer says: a value that is no table, or that there is a table. -/
structure Word where
  path : List String
  value : Json

/-- The same word about a setting of a table. -/
def Word.under (name : String) (w : Word) : Word :=
  ⟨name :: w.path, w.value⟩

mutual

/-- What a value says at the end of a path. -/
def wordsAt (path : List String) : Json → List Word
  | .object members => ⟨path, .object []⟩ :: wordsOfMembers path members
  | v => [⟨path, v⟩]

/-- What the settings of a table say at the end of a path. -/
def wordsOfMembers (path : List String) : List (String × Json) → List Word
  | [] => []
  | (name, v) :: rest => wordsAt (path ++ [name]) v ++ wordsOfMembers path rest

end

/-- The path that a key stands for, with the name at its end. -/
def pathOf (key : String) : List String :=
  (place key).1 ++ [(place key).2]

/-- What a layer says. -/
def words : Json → List Word
  | .object members => members.flatMap fun m => wordsAt (pathOf m.1) m.2
  | _ => []

/-- Whether a word decides which value stands at the end of a path. A value that is no table does so
for its own path, for what was below it, and for what it is below. A table leaves open what is in
it, and does not replace what is there already. -/
def Word.settles (path : List String) (w : Word) : Bool :=
  if isTable w.value then path <+: w.path ∧ path ≠ w.path
  else path <+: w.path ∨ w.path <+: path

/-- The value that a word gives to the end of a path, if it is about this. -/
def Word.valueAt? (path : List String) (w : Word) : Option Json :=
  if w.path = path then some w.value else none

/-- The last word that decides which value stands at the end of a path. -/
def lastWord? (path : List String) (ws : List Word) : Option Word :=
  (ws.filter (·.settles path)).getLast?

theorem lastWord?_append (path : List String) (front back : List Word) :
    lastWord? path (front ++ back) = (lastWord? path back).or (lastWord? path front) := by
  rw [lastWord?, List.filter_append, List.getLast?_append]
  rfl

/-- What is known of a setting after some words, `known` being what was known before. -/
def heard (path : List String) (known : Option Json) (ws : List Word) : Option Json :=
  (lastWord? path ws).elim known (·.valueAt? path)

section
variable {path : List String} {known : Option Json} {name : String} {ws : List Word}

theorem heard_append (front back : List Word) :
    heard path known (front ++ back) = heard path (heard path known front) back := by
  rw [heard, lastWord?_append, heard]
  cases lastWord? path back <;> rfl

theorem heard_cons (w : Word) (rest : List Word) :
    heard path known (w :: rest)
      = heard path (if w.settles path then w.valueAt? path else known) rest := by
  have hfirst : heard path known [w] = if w.settles path then w.valueAt? path else known := by
    rw [heard, lastWord?, List.filter_singleton]
    cases w.settles path <;> rfl
  rw [← List.singleton_append, heard_append, hfirst]

/-- Words about other settings change nothing. -/
theorem heard_of_forall (h : ∀ w ∈ ws, w.settles path = false) : heard path known ws = known := by
  have hnone : ws.filter (·.settles path) = [] := by
    rw [List.filter_eq_nil_iff]
    intro w hw
    rw [h w hw]
    nofun
  rw [heard, lastWord?, hnone]
  rfl

/-- Words about the settings of a table are heard in the table. -/
theorem heard_under : heard (name :: path) known (ws.map (·.under name)) = heard path known ws := by
  have hsettles : ∀ w : Word, (w.under name).settles (name :: path) = w.settles path := by
    intro w
    simp [Word.settles, Word.under]
  have hvalue : ∀ w : Word, (w.under name).valueAt? (name :: path) = w.valueAt? path := by
    intro w
    simp [Word.valueAt?, Word.under]
  rw [heard, lastWord?, List.filter_map, List.getLast?_map]
  simp only [Function.comp_def, hsettles]
  rw [heard, lastWord?]
  cases (ws.filter (·.settles path)).getLast? with
  | none => rfl
  | some w => exact hvalue w

/-- They are not heard of settings outside of the table. -/
theorem heard_under_of_ne {other : String} (h : other ≠ name) :
    heard (other :: path) known (ws.map (·.under name)) = known := by
  apply heard_of_forall
  intro w hw
  obtain ⟨w, -, rfl⟩ := List.mem_map.mp hw
  simp [Word.settles, Word.under, h, Ne.symm h]

/-- After a word about a setting the whole is a table. -/
theorem heard_under_nil (h : ws ≠ []) : heard [] known (ws.map (·.under name)) = none := by
  have hall : ∀ w ∈ ws.map (·.under name), w.settles [] = true := by
    intro w hw
    obtain ⟨w, -, rfl⟩ := List.mem_map.mp hw
    simp [Word.settles, Word.under]
  rw [heard, lastWord?, List.filter_eq_self.mpr hall, List.getLast?_map]
  cases hlast : ws.getLast? with
  | none => exact absurd (List.getLast?_eq_none_iff.mp hlast) h
  | some w => simp [Word.valueAt?, Word.under]

end

/-! ## What stands at the end of a path -/

/-- The value at the end of a path, if there is one that is no table. -/
def leaf? : List String → Json → Option Json
  | [], .object _ => none
  | [], v => some v
  | name :: rest, j => (j.member? name).bind (leaf? rest)

theorem findMember_eq_findEntry (name : String) (members : List (String × Json)) :
    Json.findMember name members = OrderedMap.findEntry name members := by
  induction members with
  | nil => rfl
  | cons m rest ih => rw [Json.findMember, OrderedMap.findEntry, ih]

theorem member?_put (name other : String) (v root : Json) :
    (put name v root).member? other = if other = name then some v else root.member? other := by
  cases root with
  | object members =>
    show Json.findMember other (OrderedMap.setEntry name v members)
      = if other = name then some v else Json.findMember other members
    rw [findMember_eq_findEntry, findMember_eq_findEntry, OrderedMap.findEntry_setEntry]
  | null | bool | int | real | text | list =>
    show Json.findMember other [(name, v)] = if other = name then some v else none
    simp [Json.findMember, eq_comm]

/-- The words make the second tree of the first one. -/
def Tells (ws : List Word) (root root' : Json) : Prop :=
  ∀ path, leaf? path root' = heard path (leaf? path root) ws

theorem Tells.nil (root : Json) : Tells [] root root :=
  fun _ => rfl

theorem Tells.append {front back : List Word} {root middle root' : Json}
    (h : Tells front root middle) (h' : Tells back middle root') :
    Tells (front ++ back) root root' := by
  intro path
  rw [heard_append, ← h path, h' path]

/-- Words about the settings of one table make another table of it. -/
theorem Tells.under {ws : List Word} {name : String} {root v : Json} (hws : ws ≠ [])
    (h : ∀ path, leaf? path v = heard path (leaf? (name :: path) root) ws) :
    Tells (ws.map (·.under name)) root (put name v root) := by
  intro path
  cases path with
  | nil =>
    rw [heard_under_nil hws]
    cases root <;> rfl
  | cons other rest =>
    by_cases hother : other = name
    · subst hother
      rw [heard_under, ← h rest, leaf?, member?_put, if_pos rfl]
      rfl
    · rw [heard_under_of_ne hother, leaf?, leaf?, member?_put, if_neg hother]

/-! ## Laying values -/

mutual

theorem wordsAt_cons (name : String) (path : List String) (v : Json) :
    wordsAt (name :: path) v = (wordsAt path v).map (·.under name) := by
  cases v with
  | object members =>
    rw [wordsAt, wordsAt, List.map_cons, wordsOfMembers_cons]
    rfl
  | null | bool | int | real | text | list => rfl

theorem wordsOfMembers_cons (name : String) (path : List String)
    (members : List (String × Json)) :
    wordsOfMembers (name :: path) members = (wordsOfMembers path members).map (·.under name) := by
  cases members with
  | nil => rfl
  | cons m rest =>
    rw [wordsOfMembers, wordsOfMembers, List.map_append, List.cons_append, wordsAt_cons,
      wordsOfMembers_cons]

end

theorem wordsAt_ne_nil (path : List String) (v : Json) : wordsAt path v ≠ [] := by
  cases v <;> simp [wordsAt]

/-- A value that is no table is one word. -/
theorem leaf?_of_not_isTable {v : Json} (hv : isTable v = false) (path : List String)
    (known : Option Json) : leaf? path v = heard path known [⟨[], v⟩] := by
  rw [heard_cons]
  cases path with
  | nil => cases v <;> first | rfl | cases hv
  | cons name rest => cases v <;> first | rfl | cases hv

mutual

/-- Laying a value says what the value says under its name. -/
theorem tells_lay (name : String) (root v : Json) :
    Tells (wordsAt [name] v) root (lay name root v) := by
  cases v with
  | object members =>
    rw [wordsAt_cons, lay]
    apply Tells.under (wordsAt_ne_nil [] _)
    intro path
    -- the settings are laid over those that are there already
    have hthere :
        leaf? path ((root.member? name).getD (.object [])) = leaf? (name :: path) root := by
      rw [leaf?]
      cases root.member? name with
      | some v => rfl
      | none => cases path <;> rfl
    have htable : (⟨[], .object []⟩ : Word).settles path = false := by
      cases path <;> rfl
    rw [wordsAt, heard_cons, htable, ← hthere]
    exact tells_layAll _ members path
  | null | bool | int | real | text | list =>
    exact Tells.under (List.cons_ne_nil _ _) fun path => leaf?_of_not_isTable rfl path _

theorem tells_layAll (root : Json) (members : List (String × Json)) :
    Tells (wordsOfMembers [] members) root (layAll root members) := by
  cases members with
  | nil => exact .nil root
  | cons m rest => exact (tells_lay m.1 root m.2).append (tells_layAll _ rest)

end

theorem tells_layAt (path : List String) (name : String) (root v : Json) :
    Tells (wordsAt (path ++ [name]) v) root (layAt path name root v) := by
  induction path generalizing root with
  | nil => exact tells_lay name root v
  | cons step rest ih =>
    rw [List.cons_append, wordsAt_cons]
    apply Tells.under (wordsAt_ne_nil _ v)
    intro below
    rw [ih _ below, leaf?]
    cases root.member? step with
    | some v => rfl
    | none =>
      cases below with
      | cons => rfl
      | nil =>
        -- whatever stood there becomes a table
        obtain ⟨first, more, hpath⟩ : ∃ first more, rest ++ [name] = first :: more :=
          List.exists_cons_of_ne_nil (by simp)
        rw [hpath, wordsAt_cons, heard_under_nil (wordsAt_ne_nil _ v),
          heard_under_nil (wordsAt_ne_nil _ v)]

/-- Laying a layer over a tree says what the layer says. -/
theorem tells_overlay (root layer : Json) : Tells (words layer) root (overlay root layer) := by
  cases layer with
  | object members =>
    rw [words, overlay]
    induction members generalizing root with
    | nil => exact .nil root
    | cons m rest ih =>
      rw [List.flatMap_cons, List.foldl_cons]
      exact (tells_layAt (place m.1).1 (place m.1).2 root m.2).append (ih _)
  | null | bool | int | real | text | list => exact .nil root

/-- The last word of all layers on a setting counts. -/
theorem leaf?_ofLayers (layers : List Json) (path : List String) :
    leaf? path (ofLayers layers)
      = (lastWord? path (layers.flatMap words)).bind (·.valueAt? path) := by
  have htells : ∀ root, Tells (layers.flatMap words) root (layers.foldl overlay root) := by
    induction layers with
    | nil => exact .nil
    | cons layer rest ih => exact fun root => (tells_overlay root layer).append (ih _)
  have hempty : leaf? path (.object []) = none := by
    cases path <;> rfl
  rw [ofLayers, htells, hempty, heard]
  cases lastWord? path (layers.flatMap words) <;> rfl

end Settings

end ContentSearch
