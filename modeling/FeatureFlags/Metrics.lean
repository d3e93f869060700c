import FeatureFlags.Flag.Prepared

namespace FeatureFlags

inductive MetricKind where
  | counter
  | gauge
  | histogram
deriving DecidableEq

def MetricKind.name : MetricKind → String
  | counter => "Counter"
  | gauge => "Gauge"
  | histogram => "Histogram"

inductive Metric where
  | refreshSuccess
  | refreshFailure
  | refreshDuration
  | flags
  | evaluations
  | evaluationErrors
  | validationFailures
deriving DecidableEq

namespace Metric

def all : List Metric :=
  [refreshSuccess, refreshFailure, refreshDuration, flags, evaluations, evaluationErrors,
    validationFailures]

def name : Metric → String
  | refreshSuccess => "eval_cache.refresh.success"
  | refreshFailure => "eval_cache.refresh.failure"
  | refreshDuration => "eval_cache.refresh.duration"
  | flags => "eval_cache.flags"
  | evaluations => "evaluation.count"
  | evaluationErrors => "evaluation.error"
  | validationFailures => "enabled_flag_validation.failed"

def kind : Metric → MetricKind
  | refreshDuration => .histogram
  | flags => .gauge
  | _ => .counter

def description : Metric → String
  | refreshSuccess => "Number of evaluation cache refreshes that swapped in a new snapshot"
  | refreshFailure => "Number of evaluation cache refreshes that kept the previous snapshot"
  | refreshDuration => "Time to fetch and prepare all flags in seconds"
  | flags => "Number of flags in the current snapshot"
  | evaluations => "Number of flag evaluations, by flag and assigned variant"
  | evaluationErrors => "Number of evaluations that returned an error"
  | validationFailures => "Number of enabled flags violating the validation rules at load time"

end Metric

structure Outcome where
  flagId : Id
  variantId : Option Id
deriving DecidableEq

abbrev Tally := List (Outcome × Nat)

namespace Tally

def add (o : Outcome) : Tally → Tally
  | [] => [(o, 1)]
  | (seen, n) :: rest => if seen = o then (seen, n + 1) :: rest else (seen, n) :: add o rest

def count (t : Tally) (o : Outcome) : Nat :=
  match t.find? (·.1 == o) with
  | some (_, n) => n
  | none => 0

end Tally

structure Metrics where
  refreshSuccess : Nat
  refreshFailure : Nat
  refreshDurations : Nat
  /-- Not set before the first refresh succeeded. -/
  flags : Option Nat
  evaluations : Tally
  evaluationErrors : Nat
  validationFailures : Nat
deriving DecidableEq

namespace Metrics

def zero : Metrics :=
  ⟨0, 0, 0, none, [], 0, 0⟩

def recordEvaluation (m : Metrics) : Except EvalError EvalResult → Metrics
  | .ok r => { m with evaluations := m.evaluations.add ⟨r.flagId, r.variantId⟩ }
  | .error _ => { m with evaluationErrors := m.evaluationErrors + 1 }

def recordSuccess (m : Metrics) (flags : Nat) : Metrics :=
  { m with
    refreshSuccess := m.refreshSuccess + 1
    refreshDurations := m.refreshDurations + 1
    flags := some flags }

def recordFailure (m : Metrics) : Metrics :=
  { m with
    refreshFailure := m.refreshFailure + 1
    refreshDurations := m.refreshDurations + 1 }

def recordInvalidFlag (m : Metrics) : Metrics :=
  { m with validationFailures := m.validationFailures + 1 }

end Metrics

end FeatureFlags
