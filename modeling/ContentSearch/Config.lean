/-!
# Configuration

The settings of the query planner and of the index, with their defaults and limits.
-/

namespace ContentSearch

/-- Settings of the query planner. -/
structure QuerySettings where
  caseSensitive : Bool
  validateColumns : Bool
  cacheCapacity : UInt64
  cacheIdleSecs : UInt64
  deriving DecidableEq

/-- Settings of the index. -/
structure IndexSettings where
  maxBatchSize : UInt64
  deriving DecidableEq

/-- All settings. -/
structure SearchConfig where
  query : QuerySettings
  index : IndexSettings
  deriving DecidableEq

/-- The settings of a planner that is not told otherwise. -/
def QuerySettings.standard : QuerySettings :=
  { caseSensitive := true, validateColumns := true, cacheCapacity := 1024, cacheIdleSecs := 300 }

/-- The settings of an index that is not told otherwise. -/
def IndexSettings.standard : IndexSettings :=
  { maxBatchSize := 10000 }

/-- What is wrong with a configuration. -/
inductive ConfigError
  | emptyCache
  | emptyBatches
  | unreadable
  deriving DecidableEq

/-- The wording of an error. -/
def ConfigError.message : ConfigError → String
  | .emptyCache => "query.cache_capacity must be > 0"
  | .emptyBatches => "index.max_batch_size must be > 0"
  | .unreadable => "configuration cannot be read"

namespace SearchConfig

/-- The configuration when nothing is told. -/
def standard : SearchConfig :=
  ⟨.standard, .standard⟩

/-- Refuses a cache without room and batches without entries. -/
def validate (c : SearchConfig) : Except ConfigError SearchConfig :=
  if c.query.cacheCapacity = 0 then .error .emptyCache
  else if c.index.maxBatchSize = 0 then .error .emptyBatches
  else .ok c

end SearchConfig

end ContentSearch
