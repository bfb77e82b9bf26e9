/-!
# Tokens

The marks and scalars of a text in YAML. Where blocks begin and end is told by tokens too, so that
what follows has no need to look at places.
-/

namespace ContentSearch.Yaml

/-- A token. A tag consists of the handle, for which a directive can give another beginning, and of
what follows it. -/
inductive Token
  | versionDirective
  | tagDirective (handle beginning : String)
  | documentStart | documentEnd | textEnd
  | blockListStart | blockMappingStart | blockEnd
  | flowListStart | flowListEnd | flowMappingStart | flowMappingEnd
  | item | comma | key | value
  | anchor (name : String)
  | alias (name : String)
  | tag (handle suffix : String)
  | scalar (isPlain : Bool) (text : String)
  deriving DecidableEq, Inhabited

end ContentSearch.Yaml
