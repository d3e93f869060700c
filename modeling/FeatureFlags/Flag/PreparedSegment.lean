import FeatureFlags.Condition.Evaluation
import FeatureFlags.Json.Printer
import FeatureFlags.Rollout

namespace FeatureFlags

inductive PrepareError where
  | constraint (e : ConstraintError)
  | distribution (segmentId : Id) (e : Rollout.Error)

def PrepareError.message : PrepareError → String
  | constraint e => e.message
  | distribution segmentId e => "segment " ++ toString segmentId ++ ": " ++ e.message

structure PreparedSegment where
  segmentId : Id
  rank : UInt32
  rolloutPercent : UInt32
  conditions : List Condition
  shares : Shares
  /-- Goes before the entity's name when its bucket is computed. -/
  salt : String

structure SegmentError where
  segmentId : Id
  cause : EvaluationError
deriving DecidableEq

def SegmentError.message (e : SegmentError) : String :=
  "segment " ++ toString e.segmentId ++ ": " ++ e.cause.message

inductive Verdict where
  | unmatched
  | rollout (d : Rollout.Decision)
deriving DecidableEq

def Verdict.variantId? : Verdict → Option Id
  | unmatched => none
  | rollout d => d.variantId?

structure SegmentLog where
  segmentId : Id
  message : String
deriving DecidableEq

namespace PreparedSegment

variable [PatternEngine]

/-- Prepares a segment of a flag. All segments of a flag have the flag's number as
salt, so an entity falls into the same bucket in each. -/
def prepare (flagId : Id) (s : Segment) : Except PrepareError PreparedSegment :=
  match Shares.ofDistributions s.distributions with
  | .error e => .error (.distribution s.id e)
  | .ok shares =>
    match Condition.compileAll s.constraints with
    | .error e => .error (.constraint e)
    | .ok conditions =>
      .ok ⟨s.id, s.rank, s.rolloutPercent, conditions, shares, toString flagId⟩

def evaluate (s : PreparedSegment) (c : Context) : Except SegmentError Verdict :=
  if c.entityId.isEmpty then .error ⟨s.segmentId, .emptyEntityId⟩
  else
    match Condition.evaluateAll s.conditions c with
    | .error e => .error ⟨s.segmentId, e⟩
    | .ok false => .ok .unmatched
    | .ok true => .ok (.rollout (s.shares.decideEntity c.entityId s.salt s.rolloutPercent))

def log (s : PreparedSegment) (c : Context) (outcome : Except SegmentError Verdict) :
    SegmentLog :=
  ⟨s.segmentId,
    match outcome with
    | .error e => "error evaluating segment: " ++ e.cause.message
    | .ok .unmatched =>
      "constraints not matched. constraints: " ++ Condition.allText s.conditions ++
        ", entity_context: " ++ (Json.object c.attributes).compact
    | .ok (.rollout d) => "matched all constraints. " ++ d.message⟩

end PreparedSegment

end FeatureFlags
