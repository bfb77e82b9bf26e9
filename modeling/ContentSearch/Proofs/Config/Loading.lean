import ContentSearch.Proofs.Config.Words
import ContentSearch.Proofs.Outcome

/-!
# Where settings come from

A setting is given by a variable of the environment, by the file in its usual place or by the file
that a variable names, and otherwise has its standard value. The main statement,
`SearchConfig.heeds_of_load`, says that the first of these that has a word on a setting decides.
-/

namespace ContentSearch

open Settings

/-! ## Words on settings -/

/-- What the variables of the environment say. -/
def Environment.words (env : Environment) : List Word :=
  env.filterMap fun (name, s) =>
    (settingKey? name).map fun key => ⟨pathOf key, settingValue s⟩

/-- The names of the settings of the query planner, in their order. -/
def QuerySettings.names : List String :=
  ["case_sensitive", "validate_columns", "cache_capacity", "cache_idle_secs"]

/-- The names of the settings of the index. -/
def IndexSettings.names : List String :=
  ["max_batch_size"]

namespace Settings

/-- The value of a setting under the words that decide. A section may be given as a list of its
settings in the order of their names. -/
def given? (word? : List String → Option Word) (sectionName : String) (names : List String)
    (name : String) : Option Json :=
  match (word? [sectionName]).bind (·.valueAt? [sectionName]) with
  | some (.list items) => Json.findMember name (names.zip items)
  | _ => (word? [sectionName, name]).bind (·.valueAt? [sectionName, name])

end Settings

/-- Every setting of the configuration is read from the word that decides on it, and has its
standard value if there is none. -/
structure SearchConfig.Heeds (c : SearchConfig) (word? : List String → Option Word) : Prop where
  caseSensitive : (given? word? "query" QuerySettings.names "case_sensitive").elim
    (some QuerySettings.standard.caseSensitive) flag? = some c.query.caseSensitive
  validateColumns : (given? word? "query" QuerySettings.names "validate_columns").elim
    (some QuerySettings.standard.validateColumns) flag? = some c.query.validateColumns
  cacheCapacity : (given? word? "query" QuerySettings.names "cache_capacity").elim
    (some QuerySettings.standard.cacheCapacity) count? = some c.query.cacheCapacity
  cacheIdleSecs : (given? word? "query" QuerySettings.names "cache_idle_secs").elim
    (some QuerySettings.standard.cacheIdleSecs) count? = some c.query.cacheIdleSecs
  maxBatchSize : (given? word? "index" IndexSettings.names "max_batch_size").elim
    (some IndexSettings.standard.maxBatchSize) count? = some c.index.maxBatchSize

/-! ## The standard values -/

namespace Settings

variable {α : Type} {word? : List String → Option Word} {sectionName name : String}
  {names : List String} {standard a : α} {value? : Json → Option α}

/-- Words that say what holds without them can be left out at the bottom. -/
theorem elim_given?_or (lower? : List String → Option Word)
    (hsection : (lower? [sectionName]).bind (·.valueAt? [sectionName]) = none)
    (hstandard : ((lower? [sectionName, name]).bind (·.valueAt? [sectionName, name])).bind value?
      = some standard) :
    (given? (fun path => (word? path).or (lower? path)) sectionName names name).elim (some standard)
        value?
      = (given? word? sectionName names name).elim (some standard) value? := by
  have hwhole : ((word? [sectionName]).or (lower? [sectionName])).bind (·.valueAt? [sectionName])
      = (word? [sectionName]).bind (·.valueAt? [sectionName]) := by
    cases word? [sectionName] with
    | some w => rfl
    | none => exact hsection
  rw [given?, given?, hwhole]
  split
  · rfl
  · cases word? [sectionName, name] with
    | some w => rfl
    | none =>
      obtain ⟨v, hv, hvalue⟩ := Option.bind_eq_some_iff.mp hstandard
      rw [Option.none_or, hv]
      exact hvalue

end Settings

/-- The words of the standard configuration say what holds without them. -/
theorem SearchConfig.Heeds.of_or_standard {c : SearchConfig} {word? : List String → Option Word}
    (h : c.Heeds fun path => (word? path).or (lastWord? path (words standard.toJson))) :
    c.Heeds word? := by
  have hsection : ∀ sectionName ∈ ["query", "index"],
      (lastWord? [sectionName] (words standard.toJson)).bind (·.valueAt? [sectionName]) = none := by
    have hnone : ∀ sectionName ∈ ["query", "index"], ((lastWord? [sectionName]
        (words standard.toJson)).bind (·.valueAt? [sectionName])).isNone = true := by
      decide +kernel
    exact fun sectionName h => Option.isNone_iff_eq_none.mp (hnone sectionName h)
  have hquery := hsection "query" (by decide)
  have hindex := hsection "index" (by decide)
  let lower? := fun path => lastWord? path (words standard.toJson)
  exact
    ⟨(elim_given?_or lower? hquery (by decide +kernel)).symm.trans h.caseSensitive,
      (elim_given?_or lower? hquery (by decide +kernel)).symm.trans h.validateColumns,
      (elim_given?_or lower? hquery (by decide +kernel)).symm.trans h.cacheCapacity,
      (elim_given?_or lower? hquery (by decide +kernel)).symm.trans h.cacheIdleSecs,
      (elim_given?_or lower? hindex (by decide +kernel)).symm.trans h.maxBatchSize⟩

/-! ## Reading a tree -/

namespace Settings

section
variable {α : Type} {word? : List String → Option Word} {tree : Json} {sectionName name : String}
  {names : List String} {standard a : α} {value? : Json → Option α}

/-- A setting of a section that is there is read from the word that decides on it. -/
theorem elim_given?_of_setting?
    (hwords : ∀ path, (word? path).bind (·.valueAt? path) = leaf? path tree)
    (hrefuses : ∀ members, value? (.object members) = none) {v : Json}
    (hmember : tree.member? sectionName = some v) {settings : List (String × Json)}
    (hsection : section? names v = some settings)
    (hsetting : setting? settings name standard value? = some a) :
    (given? word? sectionName names name).elim (some standard) value? = some a := by
  rw [given?, hwords, hwords, leaf?, leaf?, hmember, Option.bind_some, Option.bind_some]
  cases v with
  | list items =>
    obtain rfl := Option.some.inj hsection
    show (Json.findMember name (names.zip items)).elim (some standard) value? = some a
    rw [← hsetting, setting?]
    cases Json.findMember name (names.zip items) <;> rfl
  | object members =>
    obtain rfl := Option.some.inj hsection
    show ((Json.findMember name members).bind (leaf? [])).elim (some standard) value? = some a
    rw [setting?] at hsetting
    cases hfound : Json.findMember name members with
    | none =>
      rw [hfound] at hsetting
      exact hsetting
    | some u =>
      rw [hfound] at hsetting
      -- a table is no value of a setting
      cases u with
      | object inner =>
        have hsetting : value? (.object inner) = some a := hsetting
        rw [hrefuses] at hsetting
        cases hsetting
      | null | bool | int | real | text | list => exact hsetting
  | null | bool | int | real | text => cases hsection

/-- Without its section a setting has its standard value. -/
theorem given?_of_member?_eq_none
    (hwords : ∀ path, (word? path).bind (·.valueAt? path) = leaf? path tree)
    (hmember : tree.member? sectionName = none) : given? word? sectionName names name = none := by
  rw [given?, hwords, hwords, leaf?, leaf?, hmember]
  rfl

/-- A setting is read from the word that decides on it, whether its section is there or not. -/
theorem elim_given?_of_section {β : Type} {members : List (String × Json)} {standardSection s : β}
    {ofSection? : Json → Option β}
    (hwords : ∀ path, (word? path).bind (·.valueAt? path) = leaf? path (.object members))
    (hrefuses : ∀ members, value? (.object members) = none)
    (hsection : setting? members sectionName standardSection ofSection? = some s) (field : β → α)
    (hfield : ∀ v, ofSection? v = some s → ∃ settings, section? names v = some settings
      ∧ setting? settings name (field standardSection) value? = some (field s)) :
    (given? word? sectionName names name).elim (some (field standardSection)) value?
      = some (field s) := by
  rw [setting?] at hsection
  cases hmember : Json.findMember sectionName members with
  | none =>
    rw [hmember] at hsection
    obtain rfl := Option.some.inj hsection
    rw [given?_of_member?_eq_none hwords hmember]
    rfl
  | some v =>
    rw [hmember] at hsection
    obtain ⟨settings, hsettings, hsetting⟩ := hfield v hsection
    exact elim_given?_of_setting? hwords hrefuses hmember hsettings hsetting

end

theorem isTable_put (name : String) (v root : Json) : isTable (put name v root) = true := by
  cases root <;> rfl

theorem isTable_layAt (path : List String) (name : String) (root v : Json) :
    isTable (layAt path name root v) = true := by
  cases path with
  | nil => cases v <;> exact isTable_put _ _ _
  | cons step rest => exact isTable_put _ _ _

theorem isTable_overlay {root : Json} (h : isTable root = true) (layer : Json) :
    isTable (overlay root layer) = true := by
  cases layer with
  | object members =>
    exact List.foldlRecOn (motive := fun root => isTable root = true) members _ h
      fun root _ m _ => isTable_layAt _ _ root m.2
  | null | bool | int | real | text | list => exact h

/-- All layers together are a table. -/
theorem exists_members_ofLayers (layers : List Json) :
    ∃ members, ofLayers layers = .object members := by
  have htable : isTable (ofLayers layers) = true :=
    List.foldlRecOn (motive := fun root => isTable root = true) layers overlay rfl
      fun _ h layer _ => isTable_overlay h layer
  cases htree : ofLayers layers with
  | object members => exact ⟨members, rfl⟩
  | null | bool | int | real | text | list =>
    rw [htree] at htable
    cases htable

end Settings

theorem QuerySettings.ofSettings?_eq_some {j : Json} {q : QuerySettings}
    (h : ofSettings? j = some q) :
    ∃ settings, section? names j = some settings
      ∧ setting? settings "case_sensitive" standard.caseSensitive flag? = some q.caseSensitive
      ∧ setting? settings "validate_columns" standard.validateColumns flag?
        = some q.validateColumns
      ∧ setting? settings "cache_capacity" standard.cacheCapacity count? = some q.cacheCapacity
      ∧ setting? settings "cache_idle_secs" standard.cacheIdleSecs count?
        = some q.cacheIdleSecs := by
  obtain ⟨settings, hsettings, h⟩ := Option.bind_eq_some_iff.mp h
  obtain ⟨caseSensitive, hcase, h⟩ := Option.bind_eq_some_iff.mp h
  obtain ⟨validateColumns, hvalidate, h⟩ := Option.bind_eq_some_iff.mp h
  obtain ⟨cacheCapacity, hcapacity, h⟩ := Option.bind_eq_some_iff.mp h
  obtain ⟨cacheIdleSecs, hidle, h⟩ := Option.bind_eq_some_iff.mp h
  obtain rfl := Option.some.inj h
  exact ⟨settings, hsettings, hcase, hvalidate, hcapacity, hidle⟩

theorem IndexSettings.ofSettings?_eq_some {j : Json} {i : IndexSettings}
    (h : ofSettings? j = some i) :
    ∃ settings, section? names j = some settings
      ∧ setting? settings "max_batch_size" standard.maxBatchSize count? = some i.maxBatchSize := by
  obtain ⟨settings, hsettings, h⟩ := Option.bind_eq_some_iff.mp h
  obtain ⟨maxBatchSize, hbatch, h⟩ := Option.bind_eq_some_iff.mp h
  obtain rfl := Option.some.inj h
  exact ⟨settings, hsettings, hbatch⟩

namespace SearchConfig

/-- A configuration heeds the words that its tree of settings is made of. -/
theorem heeds_of_ofSettings? {c : SearchConfig} {members : List (String × Json)}
    (h : ofSettings? (.object members) = some c) {word? : List String → Option Word}
    (hwords : ∀ path, (word? path).bind (·.valueAt? path) = leaf? path (.object members)) :
    c.Heeds word? := by
  have hflag : ∀ inner, flag? (.object inner) = none := fun _ => rfl
  have hcount : ∀ inner, count? (.object inner) = none := fun _ => rfl
  obtain ⟨query, hquery, h⟩ := Option.bind_eq_some_iff.mp h
  obtain ⟨index, hindex, h⟩ := Option.bind_eq_some_iff.mp h
  obtain rfl := Option.some.inj h
  constructor
  case caseSensitive =>
    refine elim_given?_of_section hwords hflag hquery (·.caseSensitive) fun v hv => ?_
    obtain ⟨settings, hsettings, hcase, -⟩ := QuerySettings.ofSettings?_eq_some hv
    exact ⟨settings, hsettings, hcase⟩
  case validateColumns =>
    refine elim_given?_of_section hwords hflag hquery (·.validateColumns) fun v hv => ?_
    obtain ⟨settings, hsettings, -, hvalidate, -⟩ := QuerySettings.ofSettings?_eq_some hv
    exact ⟨settings, hsettings, hvalidate⟩
  case cacheCapacity =>
    refine elim_given?_of_section hwords hcount hquery (·.cacheCapacity) fun v hv => ?_
    obtain ⟨settings, hsettings, -, -, hcapacity, -⟩ := QuerySettings.ofSettings?_eq_some hv
    exact ⟨settings, hsettings, hcapacity⟩
  case cacheIdleSecs =>
    refine elim_given?_of_section hwords hcount hquery (·.cacheIdleSecs) fun v hv => ?_
    obtain ⟨settings, hsettings, -, -, -, hidle⟩ := QuerySettings.ofSettings?_eq_some hv
    exact ⟨settings, hsettings, hidle⟩
  case maxBatchSize =>
    exact elim_given?_of_section hwords hcount hindex (·.maxBatchSize) fun v hv =>
      IndexSettings.ofSettings?_eq_some hv

/-! ## Loading -/

theorem layers?_eq (files : Files) (env : Environment) :
    layers? files env
      = ((env.text? Environment.fileVariable).elim (some (.object []))
          files.optionalSettings?).bind fun own =>
        (files.optionalSettings? usualFile).map fun usual =>
          [standard.toJson, own, usual, env.settings] := by
  unfold layers?
  cases env.text? Environment.fileVariable <;> cases files.optionalSettings? usualFile <;> rfl

/-- A configuration that is loaded comes from the settings of four layers. -/
theorem ofSettings?_of_load {files : Files} {env : Environment} {c : SearchConfig}
    (h : load files env = .ok c) :
    ∃ own usual, (env.text? Environment.fileVariable).elim (some (.object []))
          files.optionalSettings? = some own
      ∧ files.optionalSettings? usualFile = some usual
      ∧ ofSettings? (ofLayers [standard.toJson, own, usual, env.settings]) = some c := by
  unfold load at h
  split at h
  · rename_i layers hlayers
    rw [layers?_eq] at hlayers
    obtain ⟨own, hown, hlayers⟩ := Option.bind_eq_some_iff.mp hlayers
    obtain ⟨usual, husual, rfl⟩ := Option.map_eq_some_iff.mp hlayers
    refine ⟨own, usual, hown, husual, ?_⟩
    unfold ofTree at h
    split at h
    · rename_i c' hc'
      -- checking a configuration does not change it
      have hsame : c' = c := by
        unfold validate at h
        split at h
        · cases h
        · split at h
          · cases h
          · exact Except.ok.inj h
      rw [hc', hsame]
    · cases h
  · cases h

theorem isTable_settingValue (s : String) : isTable (Environment.settingValue s) = false := by
  unfold Environment.settingValue
  dsimp only
  split
  · rfl
  · split
    · rfl
    · split
      · rfl
      · split <;> rfl

/-- Every variable with a setting is one word. -/
theorem words_settings (env : Environment) : words env.settings = env.words := by
  have hword : ∀ key s, wordsAt (pathOf key) (Environment.settingValue s)
      = [⟨pathOf key, Environment.settingValue s⟩] := by
    intro key s
    have htable := isTable_settingValue s
    cases hv : Environment.settingValue s with
    | object members =>
      rw [hv] at htable
      cases htable
    | null | bool | int | real | text | list => rfl
  rw [Environment.settings, words, Environment.words]
  induction env with
  | nil => rfl
  | cons v rest ih =>
    obtain ⟨name, s⟩ := v
    cases hkey : Environment.settingKey? name with
    | none =>
      simp only [List.filterMap_cons, hkey, Option.map_none]
      exact ih
    | some key =>
      simp only [List.filterMap_cons, hkey, Option.map_some, List.flatMap_cons, hword, ih,
        List.singleton_append]

/-- Every setting of a configuration that is loaded is read from the last word on it in the
environment. If there is none there, it is read from the file in the usual place, and if there is
none in this either, from the file that a variable names; otherwise it has its standard value. The
variables with settings are those whose names begin with two underscores after the mark. -/
theorem heeds_of_load {files : Files} {env : Environment} {c : SearchConfig}
    (h : load files env = .ok c) :
    ∃ own usual, (env.text? Environment.fileVariable).elim (some (.object []))
          files.optionalSettings? = some own
      ∧ files.optionalSettings? usualFile = some usual
      ∧ c.Heeds fun path => (lastWord? path env.words).or
        ((lastWord? path (words usual)).or (lastWord? path (words own))) := by
  obtain ⟨own, usual, hown, husual, hsettings⟩ := ofSettings?_of_load h
  refine ⟨own, usual, hown, husual, ?_⟩
  obtain ⟨members, hmembers⟩ :=
    exists_members_ofLayers [standard.toJson, own, usual, env.settings]
  rw [hmembers] at hsettings
  apply Heeds.of_or_standard
  apply heeds_of_ofSettings? hsettings
  intro path
  rw [← hmembers, leaf?_ofLayers]
  simp only [List.flatMap_cons, List.flatMap_nil, List.append_nil, lastWord?_append,
    words_settings, Option.or_assoc]

/-! ## Two files -/

/-- One file that a variable may name, and one in the usual place. -/
def twoFiles : Files
  | "mine.json" => some ("\x7b\x22query\x22: \x7b\x22cache_capacity\x22: 7\x7d, "
    ++ "\x22index\x22: \x7b\x22max_batch_size\x22: 5\x7d\x7d")
  | "config/reposearch.json" => some "\x7b\x22query\x22: \x7b\x22cache_capacity\x22: 8\x7d\x7d"
  | _ => none

/-- The capacity is that of the usual file, although the other one gives it, too. -/
theorem heeds_of_load_twoFiles :
    let env : Environment := [("REPOSEARCH_CONFIG", "mine.json"),
      ("Reposearch__Query__Case_Sensitive", "Off")]
    load twoFiles env = .ok ⟨⟨false, true, 8, 300⟩, ⟨5⟩⟩
      ∧ ∃ own usual, twoFiles.optionalSettings? "mine.json" = some own
        ∧ twoFiles.optionalSettings? usualFile = some usual
        ∧ Heeds ⟨⟨false, true, 8, 300⟩, ⟨5⟩⟩ fun path => (lastWord? path env.words).or
          ((lastWord? path (words usual)).or (lastWord? path (words own))) := by
  intro env
  have hload : load twoFiles env = .ok ⟨⟨false, true, 8, 300⟩, ⟨5⟩⟩ := by decide +kernel
  have hnamed : env.text? Environment.fileVariable = some "mine.json" := by decide +kernel
  obtain ⟨own, usual, hown, husual, hheeds⟩ := heeds_of_load hload
  rw [hnamed, Option.elim_some] at hown
  exact ⟨hload, own, usual, hown, husual, hheeds⟩

/-! ## The promised names and order -/

/-- The word of a variable that is called like the setting in capitals, with one underscore after
the mark and two in front of the name. -/
def promisedWord? (env : Environment) : List String → Option Word
  | [sectionName, name] =>
    (env.text? ("REPOSEARCH_" ++ Text.upper sectionName ++ "__" ++ Text.upper name)).map fun s =>
      ⟨[sectionName, name], Environment.settingValue s⟩
  | _ => none

/-- Every setting is read from the variable of this name. If there is none, it is read from the file
that a variable names, and if this has none either, from the file in the usual place. -/
def HeedsPromise (files : Files) (env : Environment) (c : SearchConfig) : Prop :=
  ∃ own usual, (env.text? Environment.fileVariable).elim (some (.object []))
        files.optionalSettings? = some own
    ∧ files.optionalSettings? usualFile = some usual
    ∧ c.Heeds fun path => (promisedWord? env path).or
      ((lastWord? path (words own)).or (lastWord? path (words usual)))

/-- A variable of the promised name is passed over, and so is the capacity in the file that a
variable names. -/
theorem not_heedsPromise :
    (load (fun _ => none) [("REPOSEARCH_QUERY__CASE_SENSITIVE", "false")] = .ok standard
        ∧ ¬ HeedsPromise (fun _ => none) [("REPOSEARCH_QUERY__CASE_SENSITIVE", "false")] standard)
      ∧ load twoFiles [("REPOSEARCH_CONFIG", "mine.json")] = .ok ⟨⟨true, true, 8, 300⟩, ⟨5⟩⟩
        ∧ ¬ HeedsPromise twoFiles [("REPOSEARCH_CONFIG", "mine.json")]
          ⟨⟨true, true, 8, 300⟩, ⟨5⟩⟩ := by
  refine ⟨⟨by decide +kernel, ?_⟩, by decide +kernel, ?_⟩
  · intro ⟨own, usual, hown, husual, hheeds⟩
    obtain rfl : Json.object [] = own := Option.some.inj hown
    obtain rfl : Json.object [] = usual := Option.some.inj husual
    have hpromised : (given? (fun path =>
        (promisedWord? [("REPOSEARCH_QUERY__CASE_SENSITIVE", "false")] path).or
          ((lastWord? path (words (.object []))).or (lastWord? path (words (.object [])))))
        "query" QuerySettings.names "case_sensitive").elim
          (some QuerySettings.standard.caseSensitive) flag? = some false := by
      decide +kernel
    have hread := hpromised.symm.trans hheeds.caseSensitive
    revert hread
    decide
  · intro ⟨own, usual, hown, husual, hheeds⟩
    have hnamed : Environment.text? [("REPOSEARCH_CONFIG", "mine.json")] Environment.fileVariable
        = some "mine.json" := by
      decide +kernel
    rw [hnamed, Option.elim_some] at hown
    have hpromised : (twoFiles.optionalSettings? "mine.json").bind (fun own =>
        (twoFiles.optionalSettings? usualFile).bind fun usual =>
          (given? (fun path => (promisedWord? [("REPOSEARCH_CONFIG", "mine.json")] path).or
              ((lastWord? path (words own)).or (lastWord? path (words usual))))
            "query" QuerySettings.names "cache_capacity").elim
              (some QuerySettings.standard.cacheCapacity) count?) = some 7 := by
      decide +kernel
    rw [hown, husual, Option.bind_some, Option.bind_some] at hpromised
    have hread := hpromised.symm.trans hheeds.cacheCapacity
    revert hread
    decide

end SearchConfig

end ContentSearch
