import FeatureFlags.Flag.Prepared
import FeatureFlags.Json.Record
import FeatureFlags.Timestamp.Reading

namespace FeatureFlags

open Document (Reader)

namespace Constraint

def fields : List String :=
  ["id", "segment_id", "property", "operator", "value"]

def read : Reader Constraint :=
  .record fields fun f => do
    let id ← f.withDefault "id" .uint64 0
    let segmentId ← f.withDefault "segment_id" .uint64 0
    let property ← f.required "property" .text
    let operator ← f.required "operator" .text
    let value ← f.required "value" .text
    some { id, segmentId, property, operator, value }

def toJson (c : Constraint) : Json :=
  .record [
    ("id", some (.nat c.id.toNat)),
    ("segment_id", some (.nat c.segmentId.toNat)),
    ("property", some (.string c.property)),
    ("operator", some (.string c.operator)),
    ("value", some (.string c.value))]

end Constraint

namespace Distribution

def fields : List String :=
  ["id", "segment_id", "variant_id", "variant_key", "percent"]

def read : Reader Distribution :=
  .record fields fun f => do
    let id ← f.withDefault "id" .uint64 0
    let segmentId ← f.withDefault "segment_id" .uint64 0
    let variantId ← f.required "variant_id" .uint64
    let variantKey ← f.withDefault "variant_key" .text ""
    let percent ← f.required "percent" .uint32
    some { id, segmentId, variantId, variantKey, percent }

def toJson (d : Distribution) : Json :=
  .record [
    ("id", some (.nat d.id.toNat)),
    ("segment_id", some (.nat d.segmentId.toNat)),
    ("variant_id", some (.nat d.variantId.toNat)),
    ("variant_key", some (.string d.variantKey)),
    ("percent", some (.nat d.percent.toNat))]

end Distribution

namespace Segment

def fields : List String :=
  ["id", "flag_id", "description", "rank", "rollout_percent", "constraints", "distributions"]

def read : Reader Segment :=
  .record fields fun f => do
    let id ← f.required "id" .uint64
    let flagId ← f.withDefault "flag_id" .uint64 0
    let description ← f.withDefault "description" .text ""
    let rank ← f.withDefault "rank" .uint32 0
    let rolloutPercent ← f.withDefault "rollout_percent" .uint32 0
    let constraints ← f.withDefault "constraints" (.list Constraint.read) []
    let distributions ← f.withDefault "distributions" (.list Distribution.read) []
    some { id, flagId, description, rank, rolloutPercent, constraints, distributions }

def toJson (s : Segment) : Json :=
  .record [
    ("id", some (.nat s.id.toNat)),
    ("flag_id", some (.nat s.flagId.toNat)),
    ("description", some (.string s.description)),
    ("rank", some (.nat s.rank.toNat)),
    ("rollout_percent", some (.nat s.rolloutPercent.toNat)),
    ("constraints", some (.array (s.constraints.map Constraint.toJson))),
    ("distributions", some (.array (s.distributions.map Distribution.toJson)))]

end Segment

namespace Variant

def fields : List String :=
  ["id", "flag_id", "key", "attachment"]

def read : Reader Variant :=
  .record fields fun f => do
    let id ← f.required "id" .uint64
    let flagId ← f.withDefault "flag_id" .uint64 0
    let key ← f.required "key" .text
    let attachment ← f.withDefault "attachment" (.optional .attributes) none
    some { id, flagId, key, attachment }

def toJson (v : Variant) : Json :=
  .record [
    ("id", some (.nat v.id.toNat)),
    ("flag_id", some (.nat v.flagId.toNat)),
    ("key", some (.string v.key)),
    ("attachment", v.attachment.map .object)]

end Variant

namespace Tag

def fields : List String :=
  ["id", "value"]

def read : Reader Tag :=
  .record fields fun f => do
    let id ← f.withDefault "id" .uint64 0
    let value ← f.required "value" .text
    some { id, value }

def toJson (t : Tag) : Json :=
  .record [("id", some (.nat t.id.toNat)), ("value", some (.string t.value))]

end Tag

namespace Flag

def fields : List String :=
  ["id", "key", "description", "enabled", "entity_type", "segments", "variants", "tags"]

def read : Reader Flag :=
  .record fields fun f => do
    let id ← f.required "id" .uint64
    let key ← f.required "key" .text
    let description ← f.withDefault "description" .text ""
    let enabled ← f.withDefault "enabled" .bool false
    let entityType ← f.withDefault "entity_type" (.optional .text) none
    let segments ← f.withDefault "segments" (.list Segment.read) []
    let variants ← f.withDefault "variants" (.list Variant.read) []
    let tags ← f.withDefault "tags" (.list Tag.read) []
    some { id, key, description, enabled, entityType, segments, variants, tags }

def toJson (f : Flag) : Json :=
  .record [
    ("id", some (.nat f.id.toNat)),
    ("key", some (.string f.key)),
    ("description", some (.string f.description)),
    ("enabled", some (.bool f.enabled)),
    ("entity_type", f.entityType.map .string),
    ("segments", some (.array (f.segments.map Segment.toJson))),
    ("variants", some (.array (f.variants.map Variant.toJson))),
    ("tags", some (.array (f.tags.map Tag.toJson)))]

end Flag

structure Export where
  timestamp : Option Timestamp
  flags : List Flag
deriving BEq

namespace Export

def fields : List String :=
  ["timestamp", "flags"]

def readTimestamp : Reader Timestamp :=
  fun room d => (Reader.text room d).bind Timestamp.read?

def read : Reader Export :=
  .record fields fun f => do
    let timestamp ← f.withDefault "timestamp" (.optional readTimestamp) none
    let flags ← f.required "flags" (.list Flag.read)
    some { timestamp, flags }

def toJson (e : Export) : Json :=
  .record [
    ("timestamp", e.timestamp.map fun t => .string t.text),
    ("flags", some (.array (e.flags.map Flag.toJson)))]

end Export

namespace Context

def fields : List String :=
  ["entity_id", "entity_type", "entity_context", "enable_debug", "flag_id", "flag_key"]

def read : Reader Context :=
  .record fields fun f => do
    let entityId ← f.withDefault "entity_id" .text ""
    let entityType ← f.withDefault "entity_type" .text ""
    let attributes ← f.withDefault "entity_context" .attributes []
    let debug ← f.withDefault "enable_debug" .bool false
    let flagId ← f.withDefault "flag_id" (.optional .uint64) none
    let flagKey ← f.withDefault "flag_key" (.optional .text) none
    some { entityId, entityType, attributes, debug, flagId, flagKey }

def toJson (c : Context) : Json :=
  .record [
    ("entity_id", some (.string c.entityId)),
    ("entity_type", some (.string c.entityType)),
    ("entity_context", some (.object c.attributes)),
    ("enable_debug", some (.bool c.debug)),
    ("flag_id", c.flagId.map fun id => .nat id.toNat),
    ("flag_key", c.flagKey.map .string)]

end Context

namespace SegmentLog

def toJson (l : SegmentLog) : Json :=
  .record [("segment_id", some (.nat l.segmentId.toNat)), ("msg", some (.string l.message))]

end SegmentLog

namespace EvalLog

def toJson (l : EvalLog) : Json :=
  .record [
    ("msg", some (.string l.message)),
    ("segment_debug_logs", some (.array (l.segments.map SegmentLog.toJson)))]

end EvalLog

namespace EvalResult

/-- A result that was found at a point in time. -/
def toJson (r : EvalResult) (timestamp : Option Timestamp) : Json :=
  .record [
    ("flag_id", some (.nat r.flagId.toNat)),
    ("flag_key", some (.string r.flagKey)),
    ("segment_id", some (.ofOption (fun id => .nat id.toNat) r.segmentId)),
    ("variant_id", some (.ofOption (fun id => .nat id.toNat) r.variantId)),
    ("variant_key", some (.ofOption .string r.variantKey)),
    ("variant_attachment", r.variantAttachment.map .object),
    ("eval_context", some r.context.toJson),
    ("timestamp", timestamp.map fun t => .string t.text),
    ("eval_debug_log", r.log.map EvalLog.toJson)]

end EvalResult

end FeatureFlags
