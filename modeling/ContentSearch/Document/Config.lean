import ContentSearch.Config
import ContentSearch.Json.Access

/-!
# Configurations in documents

All settings have defaults, so that any of them can be left out.
-/

namespace ContentSearch

/-- Settings of the query planner. -/
def QuerySettings.toJson (q : QuerySettings) : Json :=
  .object [("case_sensitive", .bool q.caseSensitive),
    ("validate_columns", .bool q.validateColumns),
    ("cache_capacity", .nat q.cacheCapacity.toNat),
    ("cache_idle_secs", .nat q.cacheIdleSecs.toNat)]

/-- Reads settings of the query planner. -/
def QuerySettings.ofJson? (j : Json) : Option QuerySettings := do
  let fields ← j.fields?
    ["case_sensitive", "validate_columns", "cache_capacity", "cache_idle_secs"]
  let caseSensitive ← fields.defaulted? "case_sensitive" standard.caseSensitive Json.bool?
  let validateColumns ← fields.defaulted? "validate_columns" standard.validateColumns Json.bool?
  let cacheCapacity ← fields.defaulted? "cache_capacity" standard.cacheCapacity Json.uint64?
  let cacheIdleSecs ← fields.defaulted? "cache_idle_secs" standard.cacheIdleSecs Json.uint64?
  some ⟨caseSensitive, validateColumns, cacheCapacity, cacheIdleSecs⟩

/-- Settings of the index. -/
def IndexSettings.toJson (i : IndexSettings) : Json :=
  .object [("max_batch_size", .nat i.maxBatchSize.toNat)]

/-- Reads settings of the index. -/
def IndexSettings.ofJson? (j : Json) : Option IndexSettings := do
  let fields ← j.fields? ["max_batch_size"]
  let maxBatchSize ← fields.defaulted? "max_batch_size" standard.maxBatchSize Json.uint64?
  some ⟨maxBatchSize⟩

/-- All settings. -/
def SearchConfig.toJson (c : SearchConfig) : Json :=
  .object [("query", c.query.toJson), ("index", c.index.toJson)]

/-- Reads all settings. -/
def SearchConfig.ofJson? (j : Json) : Option SearchConfig := do
  let fields ← j.fields? ["query", "index"]
  let query ← fields.defaulted? "query" .standard QuerySettings.ofJson?
  let index ← fields.defaulted? "index" .standard IndexSettings.ofJson?
  some ⟨query, index⟩

end ContentSearch
