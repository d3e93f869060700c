import FeatureFlags.Cache.Basic

namespace FeatureFlags

inductive Command where
  | refresh (requester : Nat)
  | shutdown
deriving DecidableEq

inductive Job where
  | tick
  | request (requester : Nat)
deriving DecidableEq

def Job.failure : Job → CacheError → CacheEvent
  | tick => .refreshFailed
  | request _ => .requestedRefreshFailed

structure RefreshLoop where
  /-- Messages that were sent and not yet taken, the oldest first. -/
  inbox : List Command
  closed : Bool
  current : Option (Job × Refresh)
  ended : Bool
  replies : List (Nat × Except CacheError RefreshStats)

structure Serving where
  cache : Cache
  loop : RefreshLoop

namespace RefreshLoop

def start : RefreshLoop :=
  ⟨[], false, none, false, []⟩

def send (l : RefreshLoop) (cmd : Command) : Except CacheError RefreshLoop :=
  if l.ended then .error .shutDown else .ok { l with inbox := l.inbox ++ [cmd] }

def close (l : RefreshLoop) : RefreshLoop :=
  { l with closed := true }

def isIdle (l : RefreshLoop) : Bool :=
  !l.ended && l.current.isNone

def answer (l : RefreshLoop) (job : Job) (result : Except CacheError RefreshStats) :
    RefreshLoop :=
  { l with
    current := none
    replies := match job with
      | .tick => l.replies
      | .request requester => l.replies ++ [(requester, result)] }

end RefreshLoop

namespace Serving

variable [PatternEngine]

/-- The end of a refresh of the loop: a failure is reported, a request answered. -/
def settle (s : Serving) (job : Job) (result : Except CacheError RefreshStats) : Serving where
  cache := match result with
    | .ok _ => s.cache
    | .error e => { s.cache with events := s.cache.events ++ [job.failure e] }
  loop := s.loop.answer job result

/-- Begins a refresh. It fails at once when another one holds the permit. -/
def begin (s : Serving) (job : Job) : Serving :=
  match s.cache.acquire with
  | none => s.settle job (.error .concurrentRefresh)
  | some cache => ⟨cache, { s.loop with current := some (job, .fetching) }⟩

def tick (s : Serving) : Serving :=
  if s.loop.isIdle then s.begin .tick else s

/-- The end of the loop, after which its cache is not ready any more. -/
def stop (s : Serving) : Serving :=
  ⟨{ s.cache with ready := false }, { s.loop with inbox := [], ended := true }⟩

/-- Takes the oldest message. Without any and with nobody to send one the loop ends. -/
def take (s : Serving) : Serving :=
  if s.loop.isIdle then
    match s.loop.inbox with
    | [] => if s.loop.closed then s.stop else s
    | .refresh requester :: rest =>
      ({ s with loop := { s.loop with inbox := rest } } : Serving).begin (.request requester)
    | .shutdown :: _ => s.stop
  else s

def resume (s : Serving) (fetched : Fetched) : Serving :=
  match s.loop.current with
  | none => s
  | some (job, refresh) =>
    match refresh.step s.cache fetched with
    | (cache, .inl next) => ⟨cache, { s.loop with current := some (job, next) }⟩
    | (cache, .inr result) => ({ s with cache } : Serving).settle job result

def finish (s : Serving) (fetched : Fetched) : Serving :=
  match s.loop.current with
  | none => s
  | some (job, refresh) =>
    let (cache, result) := refresh.run s.cache fetched
    ({ s with cache } : Serving).settle job result

end Serving

end FeatureFlags
