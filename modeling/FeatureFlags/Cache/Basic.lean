import FeatureFlags.Batch
import FeatureFlags.Metrics
import FeatureFlags.Source
import FeatureFlags.Text.Class
import FeatureFlags.Timestamp.Basic
import FeatureFlags.Validation

/-!
The cache that serves flags. A refresh takes the only permit, fetches flags, builds a
snapshot aside and puts it in the place of the current one; if it fails, the current
snapshot stays. A refresh is given step by step, so that others may come in between.
-/

namespace FeatureFlags

inductive CacheError where
  | fetch (e : FetchError)
  | timeout (after : Duration)
  | compile (e : CompileError)
  | concurrentRefresh
  | shutDown

def CacheError.message : CacheError → String
  | fetch e => "failed to fetch flags: " ++ e.message
  | timeout after => "fetching flags timed out after " ++ after.text
  | compile e => e.message
  | concurrentRefresh => "another refresh is in progress"
  | shutDown => "the refresh loop has shut down"

structure RefreshStats where
  flags : Nat
  generation : Nat
deriving DecidableEq

inductive CacheEvent where
  | keyTaken (k : KeyTaken)
  | invalidFlag (flagId : Id) (e : Validation.Error)
  | unsafeFlagKey (flagId : Id) (flagKey : String)
  | unsafeVariantKey (flagId variantId : Id) (variantKey : String)
  | refreshFailed (e : CacheError)
  | requestedRefreshFailed (e : CacheError)

namespace CacheEvent

/-- Failed refreshes are errors, all else is a warning. -/
def isError : CacheEvent → Bool
  | refreshFailed _ | requestedRefreshFailed _ => true
  | _ => false

def message : CacheEvent → String
  | keyTaken _ => "duplicate flag key, the later flag wins"
  | invalidFlag .. => "enabled flag validation failed"
  | unsafeFlagKey .. => "unsafe flag key"
  | unsafeVariantKey .. => "unsafe variant key"
  | refreshFailed _ => "evaluation cache refresh failed, keeping previous snapshot"
  | requestedRefreshFailed _ => "requested evaluation cache refresh failed"

def fields : CacheEvent → List (String × Json)
  | keyTaken k => [("flag_key", .string k.flagKey), ("flag_id", .nat k.flagId.toNat),
      ("previous_flag_id", .nat k.previousFlagId.toNat)]
  | invalidFlag flagId e => [("flag_id", .nat flagId.toNat), ("error", .string e.message)]
  | unsafeFlagKey flagId flagKey =>
    [("flag_id", .nat flagId.toNat), ("flag_key", .string flagKey)]
  | unsafeVariantKey flagId variantId variantKey => [("flag_id", .nat flagId.toNat),
      ("variant_id", .nat variantId.toNat), ("variant_key", .string variantKey)]
  | refreshFailed e | requestedRefreshFailed e => [("error", .string e.message)]

end CacheEvent

/-- The state that all users of a cache share. -/
structure Cache where
  snapshot : Snapshot
  /-- Refreshes so far whose fetch succeeded, which a counter of 64 bits tells as long as
  there are fewer than `2 ^ 64`. -/
  generation : Nat
  refreshing : Bool
  ready : Bool
  validator : Option Validator
  metrics : Metrics
  events : List CacheEvent

abbrev Fetched := Except CacheError (List Flag)

/-- How far a refresh that holds the permit has come. -/
inductive Refresh where
  | fetching
  | preparing (flags : List Flag) (generation : Nat)
  | publishing (s : Snapshot)
  | finishing (result : Except CacheError RefreshStats)

namespace Cache

variable [PatternEngine]

def create (validator : Option Validator) : Cache :=
  ⟨.empty 0, 0, false, false, validator, .zero, []⟩

/-- Takes the permit, if no other refresh holds it. -/
def acquire (c : Cache) : Option Cache :=
  if c.refreshing then none else some { c with refreshing := true }

def draw (c : Cache) : Cache :=
  { c with generation := c.generation + 1 }

/-- The rules that a flag breaks under the validator of the cache. -/
def validationError? (c : Cache) (f : Flag) : Option Validation.Error :=
  match c.validator with
  | none => none
  | some v =>
    match v.validate f with
    | .ok () => none
    | .error e => some e

/-- The events of a flag that is about to be served. -/
def flagEvents (c : Cache) (f : Flag) : List CacheEvent :=
  ((c.validationError? f).map (.invalidFlag f.id)).toList ++
    (if Key.isSafe f.key then [] else [.unsafeFlagKey f.id f.key]) ++
    (f.variants.filter fun v => !Key.isSafe v.key).map fun v =>
      .unsafeVariantKey f.id v.id v.key

/-- Reports the flags of a snapshot that break rules or have unsafe keys. -/
def checkFlags (c : Cache) (s : Snapshot) : Cache :=
  s.flags.foldl (fun c f =>
    { c with
      metrics := if (c.validationError? f).isSome then c.metrics.recordInvalidFlag else c.metrics
      events := c.events ++ c.flagEvents f }) c

def prepare (c : Cache) (flags : List Flag) (generation : Nat) :
    Cache × Except CacheError Snapshot :=
  let (taken, built) := Snapshot.build flags generation
  let c := { c with events := c.events ++ taken.map .keyTaken }
  match built with
  | .error e => (c, .error (.compile e))
  | .ok s => (c.checkFlags s, .ok s)

def publish (c : Cache) (s : Snapshot) : Cache :=
  { c with snapshot := s }

/-- Counts a refresh that ended and gives its permit back. -/
def finish (c : Cache) (result : Except CacheError RefreshStats) : Cache :=
  { c with
    refreshing := false
    metrics := match result with
      | .ok stats => c.metrics.recordSuccess stats.flags
      | .error _ => c.metrics.recordFailure }

/-- A refresh that its caller gave up during the fetch only gives its permit back. -/
def abandon (c : Cache) : Cache :=
  { c with refreshing := false }

def markReady (c : Cache) : Cache :=
  { c with ready := true }

def evaluateOn (c : Cache) (s : Snapshot) (context : Context) :
    Cache × Except EvalError EvalResult :=
  let result := s.evaluate context
  ({ c with metrics := c.metrics.recordEvaluation result }, result)

def evaluate (c : Cache) (context : Context) : Cache × Except EvalError EvalResult :=
  c.evaluateOn c.snapshot context

def evaluateBatch (c : Cache) (r : BatchRequest) :
    Cache × List (Except EvalError EvalResult) :=
  let results := c.snapshot.evaluateBatch r
  ({ c with metrics := results.foldl Metrics.recordEvaluation c.metrics }, results)

def exported (c : Cache) (now : Option Timestamp) : Export :=
  ⟨now, c.snapshot.flags⟩

end Cache

namespace Snapshot

def stats (s : Snapshot) : RefreshStats :=
  ⟨s.size, s.generation⟩

end Snapshot

namespace Refresh

variable [PatternEngine]

/-- The next step of a refresh. The first one waits for the fetch, the last one gives
the permit back and leaves a result. -/
def step (c : Cache) (fetched : Fetched) :
    Refresh → Cache × (Refresh ⊕ Except CacheError RefreshStats)
  | .fetching =>
    match fetched with
    | .error e => (c, .inl (.finishing (.error e)))
    | .ok flags => (c.draw, .inl (.preparing flags c.draw.generation))
  | .preparing flags generation =>
    match c.prepare flags generation with
    | (c, .error e) => (c, .inl (.finishing (.error e)))
    | (c, .ok s) => (c, .inl (.publishing s))
  | .publishing s => (c.publish s, .inl (.finishing (.ok s.stats)))
  | .finishing result => (c.finish result, .inr result)

def stepsLeft : Refresh → Nat
  | .fetching => 3
  | .preparing .. => 2
  | .publishing _ => 1
  | .finishing _ => 0

theorem stepsLeft_step {c c' : Cache} {fetched : Fetched} {r r' : Refresh}
    (h : r.step c fetched = (c', .inl r')) : r'.stepsLeft < r.stepsLeft := by
  cases r with
  | fetching =>
    cases fetched <;> simp only [step, Prod.mk.injEq, Sum.inl.injEq] at h <;>
      simp [← h.2, stepsLeft]
  | preparing flags generation =>
    simp only [step] at h
    split at h <;> simp only [Prod.mk.injEq, Sum.inl.injEq] at h <;> simp [← h.2, stepsLeft]
  | publishing s =>
    simp only [step, Prod.mk.injEq, Sum.inl.injEq] at h
    simp [← h.2, stepsLeft]
  | finishing result => simp [step] at h

/-- The rest of a refresh with nothing in between. -/
def run (c : Cache) (fetched : Fetched) (r : Refresh) :
    Cache × Except CacheError RefreshStats :=
  match _h : r.step c fetched with
  | (c, .inr result) => (c, result)
  | (c, .inl next) => next.run c fetched
termination_by r.stepsLeft
decreasing_by exact stepsLeft_step _h

end Refresh

namespace Cache

variable [PatternEngine]

def refresh (c : Cache) (fetched : Fetched) : Cache × Except CacheError RefreshStats :=
  match c.acquire with
  | none => (c, .error .concurrentRefresh)
  | some c => Refresh.fetching.run c fetched

def load (validator : Option Validator) (fetched : Fetched) :
    Cache × Except CacheError RefreshStats :=
  match (create validator).refresh fetched with
  | (c, .ok stats) => (c.markReady, .ok stats)
  | (c, .error e) => (c, .error e)

end Cache

end FeatureFlags
