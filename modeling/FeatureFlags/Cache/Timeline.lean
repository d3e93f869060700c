import FeatureFlags.Cache.Loop

/-!
A cache with its source on a clock that moves only when it is told to, or while a
refresh waits for the source.
-/

namespace FeatureFlags

/-- What a source does when it is asked for flags. -/
structure SourceBehavior where
  delay : Nat
  flags : Except FetchError (List Flag)

structure Timeline where
  now : Nat
  interval : Nat
  timeout : Duration
  source : SourceBehavior
  cache : Cache
  loop : Option (RefreshLoop × Nat)

namespace Timeline

variable [PatternEngine]

/-- What a fetch comes to: the flags of the source, unless it takes longer than the
timeout. -/
def fetched (t : Timeline) : Fetched :=
  if t.timeout.milliseconds < t.source.delay then .error (.timeout t.timeout)
  else
    match t.source.flags with
    | .ok flags => .ok flags
    | .error e => .error (.fetch e)

def afterFetch (t : Timeline) : Nat :=
  t.now + min t.source.delay t.timeout.milliseconds

def load (interval : Nat) (timeout : Duration) (source : SourceBehavior)
    (validator : Option Validator) : Timeline × Except CacheError RefreshStats :=
  let t : Timeline := ⟨0, interval, timeout, source, .create validator, none⟩
  let (cache, result) := Cache.load validator t.fetched
  ({ t with now := t.afterFetch, cache }, result)

/-- The ticks of the loop while somebody waits for a fetch that begins now. Whoever waits
holds the permit. -/
def tickWhileWaiting (t : Timeline) : Timeline :=
  match t.loop with
  | none => t
  | some (loop, due) =>
    if t.source.delay = 0 || t.afterFetch < due then t
    else
      let ticks := (t.afterFetch - due) / t.interval + 1
      let served := Nat.repeat Serving.tick ticks ⟨t.cache, loop⟩
      { t with cache := served.cache, loop := some (served.loop, due + ticks * t.interval) }

/-- The rest of a refresh that holds the permit and begins to fetch now. -/
def finishRefresh (t : Timeline) : Timeline × Except CacheError RefreshStats :=
  let waited := t.tickWhileWaiting
  let (cache, result) := Refresh.fetching.run waited.cache t.fetched
  ({ waited with now := t.afterFetch, cache }, result)

def refresh (t : Timeline) : Timeline × Except CacheError RefreshStats :=
  match t.cache.acquire with
  | none => (t, .error .concurrentRefresh)
  | some cache => finishRefresh { t with cache }

/-- Two refreshes at once. If the source takes time, the second begins while the first
holds the permit. -/
def refreshTwice (t : Timeline) :
    Timeline × Except CacheError RefreshStats × Except CacheError RefreshStats :=
  if t.source.delay = 0 then
    let (t, first) := t.refresh
    let (t, second) := t.refresh
    (t, first, second)
  else
    match t.cache.acquire with
    | none => (t, .error .concurrentRefresh, .error .concurrentRefresh)
    | some cache =>
      let (t, second) := refresh { t with cache }
      let (t, first) := t.finishRefresh
      (t, first, second)

/-- The first tick after the present: ticks that were missed are skipped. -/
def nextTick (t : Timeline) (due : Nat) : Nat :=
  due + ((t.now - due) / t.interval + 1) * t.interval

def runLoop (t : Timeline) (loop : RefreshLoop) (due : Nat) (ask : Serving → Serving) :
    Timeline :=
  let asked := ask ⟨t.cache, loop⟩
  let served := asked.finish t.fetched
  { t with
    now := if asked.loop.current.isSome then t.afterFetch else t.now
    cache := served.cache
    loop := if served.loop.ended then none else some (served.loop, due) }

/-- Moves the clock. If ticks are due by then, the loop refreshes once. -/
def advance (t : Timeline) (milliseconds : Nat) : Timeline :=
  let t := { t with now := t.now + milliseconds }
  match t.loop with
  | none => t
  | some (loop, due) =>
    if due ≤ t.now then t.runLoop loop (t.nextTick due) Serving.tick else t

def command (t : Timeline) (cmd : Command) : Except CacheError Timeline :=
  match t.loop with
  | none => .error .shutDown
  | some (loop, due) =>
    match loop.send cmd with
    | .error e => .error e
    | .ok loop => .ok (t.runLoop loop due Serving.take)

def replies (t : Timeline) : List (Nat × Except CacheError RefreshStats) :=
  match t.loop with
  | none => []
  | some (loop, _) => loop.replies

def loopRefresh (t : Timeline) : Timeline × Except CacheError RefreshStats :=
  match t.command (.refresh t.replies.length) with
  | .error e => (t, .error e)
  | .ok t =>
    match t.replies.getLast? with
    | some (_, result) => (t, result)
    | none => (t, .error .shutDown)

def stop (t : Timeline) : Timeline :=
  match t.command .shutdown with
  | .error _ => t
  | .ok t => t

def dropLoop (t : Timeline) : Timeline :=
  match t.loop with
  | none => t
  | some (loop, due) => t.runLoop loop.close due Serving.take

/-- Starts a loop whose ticks come after each interval. One that runs is given up. -/
def start (t : Timeline) : Timeline :=
  { t.dropLoop with loop := some (.start, t.now + t.interval) }

def evaluate (t : Timeline) (context : Context) :
    Timeline × Except EvalError EvalResult :=
  let (cache, result) := t.cache.evaluate context
  ({ t with cache }, result)

def evaluateOn (t : Timeline) (s : Snapshot) (context : Context) :
    Timeline × Except EvalError EvalResult :=
  let (cache, result) := t.cache.evaluateOn s context
  ({ t with cache }, result)

def evaluateBatch (t : Timeline) (r : BatchRequest) :
    Timeline × List (Except EvalError EvalResult) :=
  let (cache, results) := t.cache.evaluateBatch r
  ({ t with cache }, results)

end Timeline

end FeatureFlags
