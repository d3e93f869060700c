import FeatureFlags.Flag.Basic
import FeatureFlags.Flag.PreparedSegment

/-!
Flags ready for evaluation, and the evaluation of one flag: the first segment that
gives the entity a variant wins.
-/

namespace FeatureFlags

inductive EvalError where
  | flagNotFound (flag : FlagRef)
  | emptyContext (missing : String)
deriving DecidableEq

def EvalError.message : EvalError → String
  | flagNotFound flag => "flag " ++ flag.text ++ " not found"
  | emptyContext missing => "evaluation context is missing " ++ missing

structure EvalLog where
  message : String
  segments : List SegmentLog
deriving DecidableEq

/-- The result of an evaluation. Without an assignment there is no segment and no
variant. -/
structure EvalResult where
  flagId : Id
  flagKey : String
  segmentId : Option Id
  variantId : Option Id
  variantKey : Option String
  variantAttachment : Option Attributes
  /-- The context with the entity type that the segments saw. -/
  context : Context
  log : Option EvalLog
deriving BEq

structure PreparedFlag where
  flag : Flag
  segments : List PreparedSegment

namespace Segment

/-- Whether a segment is tried before another: by rank, then by number. -/
def before (a b : Segment) : Bool :=
  a.rank < b.rank || (a.rank == b.rank && a.id ≤ b.id)

end Segment

namespace Flag

/-- The flag with its segments, and the distributions of each, in order. -/
def sorted (f : Flag) : Flag :=
  { f with
    segments := (f.segments.mergeSort Segment.before).map fun s =>
      { s with distributions := Distribution.sorted s.distributions } }

def variant? (f : Flag) (id : Id) : Option Variant :=
  f.variants.reverse.find? (·.id == id)

/-- The context as the flag's segments see it. -/
def override (f : Flag) (c : Context) : Context :=
  match f.entityType with
  | some entityType => if entityType.isEmpty then c else { c with entityType }
  | none => c

end Flag

namespace PreparedFlag

variable [PatternEngine]

def prepareSegments (flagId : Id) : List Segment → Except PrepareError (List PreparedSegment)
  | [] => .ok []
  | s :: rest =>
    match PreparedSegment.prepare flagId s with
    | .error e => .error e
    | .ok first =>
      match prepareSegments flagId rest with
      | .error e => .error e
      | .ok prepared => .ok (first :: prepared)

def prepare (f : Flag) : Except PrepareError PreparedFlag :=
  match prepareSegments f.id f.sorted.segments with
  | .error e => .error e
  | .ok segments => .ok ⟨f.sorted, segments⟩

structure Visit where
  segment : PreparedSegment
  outcome : Except SegmentError Verdict

def Visit.variantId? (v : Visit) : Option Id :=
  match v.outcome with
  | .ok verdict => verdict.variantId?
  | .error _ => none

/-- Tries segments up to the first that gives a variant. -/
def visits (c : Context) : List PreparedSegment → List Visit
  | [] => []
  | s :: rest =>
    let visit : Visit := ⟨s, s.evaluate c⟩
    match visit.variantId? with
    | some _ => [visit]
    | none => visit :: visits c rest

/-- The segment and the variant that the last visit gave. -/
def assignment? (vs : List Visit) : Option (Id × Id) :=
  vs.getLast?.bind fun v => v.variantId?.map (v.segment.segmentId, ·)

/-- A result without assignment; its reason is always told. -/
def blank (f : PreparedFlag) (c : Context) (reason : String) : EvalResult :=
  ⟨f.flag.id, f.flag.key, none, none, none, none, c,
    some ⟨"flag " ++ toString f.flag.id ++ reason, []⟩⟩

def evaluate (f : PreparedFlag) (c : Context) : Except EvalError EvalResult :=
  let seen := f.flag.override c
  if !f.flag.enabled then .ok (f.blank seen " is not enabled")
  else if f.segments.isEmpty then .ok (f.blank seen " has no segments")
  else if c.entityId.isEmpty then .error (.emptyContext "entity id")
  else
    let visited := visits seen f.segments
    let assigned := assignment? visited
    let variant := assigned.bind fun (_, variantId) => f.flag.variant? variantId
    .ok {
      flagId := f.flag.id
      flagKey := f.flag.key
      segmentId := assigned.map Prod.fst
      variantId := assigned.map Prod.snd
      variantKey := variant.map Variant.key
      variantAttachment := variant.bind Variant.attachment
      context := seen
      log :=
        if seen.debug then some ⟨"", visited.map fun v => v.segment.log seen v.outcome⟩
        else none }

end PreparedFlag

end FeatureFlags
