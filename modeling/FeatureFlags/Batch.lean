import FeatureFlags.Flag.Record
import FeatureFlags.Snapshot

namespace FeatureFlags

structure BatchEntity where
  entityId : String
  entityType : String
  attributes : Attributes
deriving BEq

structure BatchRequest where
  entities : List BatchEntity
  flagIds : List Id
  flagKeys : List String
  tags : List String
  tagOperator : TagOperator
  debug : Bool
deriving BEq

namespace BatchRequest

/-- The flags that are asked for: by number, by key, and then by tags. -/
def references (r : BatchRequest) (s : Snapshot) : List FlagRef :=
  r.flagIds.map .id ++ r.flagKeys.map .key ++
    (s.getByTags r.tags r.tagOperator).map fun f => .id f.flag.id

def context (r : BatchRequest) (e : BatchEntity) (ref : FlagRef) : Context where
  entityId := e.entityId
  entityType := e.entityType
  attributes := e.attributes
  debug := r.debug
  flagId := match ref with
    | .id id => some id
    | .key _ => none
  flagKey := match ref with
    | .id _ => none
    | .key key => some key

def contexts (r : BatchRequest) (s : Snapshot) : List Context :=
  r.entities.flatMap fun e => (r.references s).map (r.context e)

end BatchRequest

namespace Snapshot

variable [PatternEngine]

def evaluateBatch (s : Snapshot) (r : BatchRequest) : List (Except EvalError EvalResult) :=
  (r.contexts s).map s.evaluate

end Snapshot

open Document (Reader)

namespace TagOperator

def name : TagOperator → String
  | any => "ANY"
  | all => "ALL"

def ofName? : String → Option TagOperator
  | "ANY" => some any
  | "ALL" => some all
  | _ => none

end TagOperator

namespace BatchEntity

def fields : List String :=
  ["entity_id", "entity_type", "entity_context"]

def read : Reader BatchEntity :=
  .record fields fun f => do
    let entityId ← f.required "entity_id" .text
    let entityType ← f.withDefault "entity_type" .text ""
    let attributes ← f.withDefault "entity_context" .attributes []
    some { entityId, entityType, attributes }

def toJson (e : BatchEntity) : Json :=
  .record [
    ("entity_id", some (.string e.entityId)),
    ("entity_type", some (.string e.entityType)),
    ("entity_context", some (.object e.attributes))]

end BatchEntity

namespace BatchRequest

def fields : List String :=
  ["entities", "flag_ids", "flag_keys", "flag_tags", "flag_tags_operator", "enable_debug"]

def read : Reader BatchRequest :=
  .record fields fun f => do
    let entities ← f.required "entities" (.list BatchEntity.read)
    let flagIds ← f.withDefault "flag_ids" (.list .uint64) []
    let flagKeys ← f.withDefault "flag_keys" (.list .text) []
    let tags ← f.withDefault "flag_tags" (.list .text) []
    let tagOperator ← f.withDefault "flag_tags_operator" (.named TagOperator.ofName?) .any
    let debug ← f.withDefault "enable_debug" .bool false
    some { entities, flagIds, flagKeys, tags, tagOperator, debug }

def toJson (r : BatchRequest) : Json :=
  .record [
    ("entities", some (.array (r.entities.map BatchEntity.toJson))),
    ("flag_ids", some (.array (r.flagIds.map fun id => .nat id.toNat))),
    ("flag_keys", some (.array (r.flagKeys.map .string))),
    ("flag_tags", some (.array (r.tags.map .string))),
    ("flag_tags_operator", some (.string r.tagOperator.name)),
    ("enable_debug", some (.bool r.debug))]

end BatchRequest

end FeatureFlags
