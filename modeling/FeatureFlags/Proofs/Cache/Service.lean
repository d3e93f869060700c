import FeatureFlags.Cache.Loop
import FeatureFlags.Proofs.Cache.Ledger

namespace FeatureFlags

inductive Refresher (Task Loop : Type) where
  | caller (t : Task)
  | loop (l : Loop)
deriving DecidableEq

def RefreshLoop.underway (l : RefreshLoop) : Option Refresh :=
  l.current.map Prod.snd

/-- A cache, the refreshes that were asked of it directly, and its loops. -/
structure Service (Task Loop : Type) where
  cache : Cache
  refreshes : Task → Option Refresh
  loops : Loop → Option RefreshLoop

namespace Service

variable [PatternEngine] {Task Loop : Type}

def unloaded (validator : Option Validator) : Service Task Loop :=
  ⟨.create validator, fun _ => none, fun _ => none⟩

def underway (s : Service Task Loop) : Refresher Task Loop → Option Refresh
  | .caller t => s.refreshes t
  | .loop l => (s.loops l).bind RefreshLoop.underway

def ledger (s : Service Task Loop) : Ledger (Refresher Task Loop) :=
  s.cache.ledger s.underway

def beginning (s : Service Task Loop) (p : Refresher Task Loop) : Event (Refresher Task Loop) :=
  if s.cache.refreshing then .rejected p else .began p

variable [DecidableEq Task] [DecidableEq Loop]

def setRefresh (s : Service Task Loop) (t : Task) (c : Cache) (r : Option Refresh) :
    Service Task Loop :=
  { s with cache := c, refreshes := Function.update s.refreshes t r }

def setLoop (s : Service Task Loop) (l : Loop) (c : Cache) (loop : Option RefreshLoop) :
    Service Task Loop :=
  { s with cache := c, loops := Function.update s.loops l loop }

def setServing (s : Service Task Loop) (l : Loop) (serving : Serving) : Service Task Loop :=
  s.setLoop l serving.cache (some serving.loop)

/-- One step of anybody. A first load is a refresh by a caller who marks the cache as ready
after it. -/
inductive Step :
    Service Task Loop → Event (Refresher Task Loop) → Service Task Loop → Prop
  | reject {s t} (hfree : s.refreshes t = none) (htaken : s.cache.acquire = none) :
      Step s (.rejected (.caller t)) s
  | begin {s t c} (hfree : s.refreshes t = none) (hacquire : s.cache.acquire = some c) :
      Step s (.began (.caller t)) (s.setRefresh t c (some .fetching))
  | proceed {s t r c next} (fetched : Fetched) (hrefresh : s.refreshes t = some r)
      (hstep : r.step s.cache fetched = (c, next)) :
      Step s (r.event (.caller t) fetched) (s.setRefresh t c next.getLeft?)
  | abandon {s t} (hrefresh : s.refreshes t = some .fetching) :
      Step s (.abandoned (.caller t)) (s.setRefresh t s.cache.abandon none)
  | start {s l} (hnew : s.loops l = none) : Step s .aside (s.setLoop l s.cache (some .start))
  | send {s l loop loop'} (cmd : Command) (hloop : s.loops l = some loop)
      (hsend : loop.send cmd = .ok loop') : Step s .aside (s.setLoop l s.cache (some loop'))
  | close {s l loop} (hloop : s.loops l = some loop) :
      Step s .aside (s.setLoop l s.cache (some loop.close))
  | tick {s l loop} (hloop : s.loops l = some loop) (hidle : loop.isIdle = true) :
      Step s (s.beginning (.loop l)) (s.setServing l (Serving.tick ⟨s.cache, loop⟩))
  | takeRequest {s l loop requester rest} (hloop : s.loops l = some loop)
      (hidle : loop.isIdle = true) (hinbox : loop.inbox = .refresh requester :: rest) :
      Step s (s.beginning (.loop l)) (s.setServing l (Serving.take ⟨s.cache, loop⟩))
  | takeOther {s l loop} (hloop : s.loops l = some loop) (hidle : loop.isIdle = true)
      (hinbox : ∀ requester rest, loop.inbox ≠ .refresh requester :: rest) :
      Step s .aside (s.setServing l (Serving.take ⟨s.cache, loop⟩))
  | resume {s l loop job r} (fetched : Fetched) (hloop : s.loops l = some loop)
      (hcurrent : loop.current = some (job, r)) :
      Step s (r.event (.loop l) fetched)
        (s.setServing l (Serving.resume ⟨s.cache, loop⟩ fetched))
  /-- A loop is dropped as a whole, as it is when its runtime shuts down. -/
  | drop {s l loop job} (hloop : s.loops l = some loop)
      (hcurrent : loop.current = some (job, .fetching)) :
      Step s (.abandoned (.loop l)) (s.setLoop l s.cache.abandon none)
  | markReady {s} : Step s .aside { s with cache := s.cache.markReady }
  | read {s} : Step s (.read s.cache.snapshot) s
  | evaluate {s} (held : Snapshot) (context : Context) :
      Step s .aside { s with cache := (s.cache.evaluateOn held context).1 }

inductive Run (s : Service Task Loop) :
    List (Event (Refresher Task Loop)) → Service Task Loop → Prop
  | nil : Run s [] s
  | snoc {history m e s'} (hrun : Run s history m) (hstep : Step m e s') :
      Run s (history ++ [e]) s'

end Service

namespace Serving

variable (s : Serving) (job : Job)

theorem begin_of_refreshing (h : s.cache.refreshing = true) :
    s.begin job = s.settle job (.error .concurrentRefresh) := by
  simp [begin, Cache.acquire, h]

theorem begin_of_free (h : s.cache.refreshing = false) :
    s.begin job = ⟨{ s.cache with refreshing := true },
      { s.loop with current := some (job, .fetching) }⟩ := by
  simp [begin, Cache.acquire, h]

theorem settle_underway (result : Except CacheError RefreshStats) :
    (s.settle job result).loop.underway = none := rfl

theorem settle_ledger {Party : Type} (result : Except CacheError RefreshStats)
    (u : Party → Option Refresh) : (s.settle job result).cache.ledger u = s.cache.ledger u := by
  cases result <;> rfl

variable {s job}

variable [PatternEngine]

theorem resume_eq {Party : Type} {u : Party → Option Refresh} {r : Refresh} {fetched : Fetched}
    {c : Cache} {next : Refresh ⊕ Except CacheError RefreshStats}
    (hcurrent : s.loop.current = some (job, r)) (hstep : r.step s.cache fetched = (c, next)) :
    (s.resume fetched).loop.underway = next.getLeft? ∧
      (s.resume fetched).cache.ledger u = c.ledger u := by
  cases next with
  | inl next => constructor <;> simp [resume, hcurrent, hstep, RefreshLoop.underway]
  | inr result =>
      simp only [resume, hcurrent, hstep]
      exact ⟨settle_underway _ _ _, settle_ledger _ _ _ _⟩

omit [PatternEngine] in
theorem take_eq (hinbox : ∀ requester rest, s.loop.inbox ≠ .refresh requester :: rest) :
    s.take = s ∨ s.take = s.stop := by
  unfold take
  split
  · split
    · split
      · exact .inr rfl
      · exact .inl rfl
    · next hrequest => exact absurd hrequest (hinbox _ _)
    · exact .inr rfl
  · exact .inl rfl

end Serving

namespace Service

variable {Task Loop : Type} [DecidableEq Task] [DecidableEq Loop]

section Ledger

variable (s : Service Task Loop) (t : Task) (l : Loop) (c : Cache)

theorem underway_setRefresh (r : Option Refresh) :
    (s.setRefresh t c r).underway = Function.update s.underway (.caller t) r := by
  funext p
  cases p with
  | caller t' => by_cases h : t' = t <;> simp [underway, setRefresh, Function.update, h]
  | loop l' => simp [underway, setRefresh, Function.update]

theorem underway_setLoop (loop : Option RefreshLoop) :
    (s.setLoop l c loop).underway =
      Function.update s.underway (.loop l) (loop.bind RefreshLoop.underway) := by
  funext p
  cases p with
  | caller t' => simp [underway, setLoop, Function.update]
  | loop l' => by_cases h : l' = l <;> simp [underway, setLoop, Function.update, h]

theorem ledger_setRefresh (r : Option Refresh) :
    (s.setRefresh t c r).ledger = (c.ledger s.underway).set (.caller t) r := by
  rw [ledger, underway_setRefresh]
  rfl

theorem ledger_setLoop (loop : Option RefreshLoop) :
    (s.setLoop l c loop).ledger =
      (c.ledger s.underway).set (.loop l) (loop.bind RefreshLoop.underway) := by
  rw [ledger, underway_setLoop]
  rfl

theorem ledger_setServing (serving : Serving) :
    (s.setServing l serving).ledger =
      (serving.cache.ledger s.underway).set (.loop l) serving.loop.underway :=
  s.ledger_setLoop l serving.cache (some serving.loop)

end Ledger

section Simulation

variable {s s' : Service Task Loop} {l : Loop} {loop : RefreshLoop}
  {e : Event (Refresher Task Loop)}

theorem ledger_setLoop_eq_self {c : Cache} {loop' : RefreshLoop} (hloop : s.loops l = some loop)
    (hsame : loop'.underway = loop.underway) (hcache : c.ledger s.underway = s.ledger) :
    (s.setLoop l c (some loop')).ledger = s.ledger := by
  rw [ledger_setLoop, hcache]
  apply Ledger.set_self
  simp [ledger, Cache.ledger, underway, hloop, hsame]

variable [PatternEngine]

theorem step_begin (job : Job) (hloop : s.loops l = some loop) {loop' : RefreshLoop}
    (hidle : loop.underway = none) :
    Ledger.Step s.ledger (s.beginning (.loop l))
      (s.setServing l (Serving.begin ⟨s.cache, loop'⟩ job)).ledger := by
  have hfree : s.underway (.loop l) = none := by simp [underway, hloop, hidle]
  rw [ledger_setServing, beginning]
  cases hpermit : s.cache.refreshing with
  | true =>
      rw [Serving.begin_of_refreshing _ _ hpermit, Serving.settle_ledger, Serving.settle_underway,
        Ledger.set_self (by simpa [Cache.ledger] using hfree)]
      exact .rejected hfree hpermit
  | false =>
      rw [Serving.begin_of_free _ _ hpermit]
      exact .began hfree hpermit

omit [PatternEngine] in
theorem underway_of_isIdle (h : loop.isIdle = true) : loop.underway = none := by
  simp only [RefreshLoop.isIdle, Bool.and_eq_true, Option.isNone_iff_eq_none] at h
  simp [RefreshLoop.underway, h.2]

theorem Step.ledger (hstep : Step s e s') : Ledger.Step s.ledger e s'.ledger := by
  cases hstep with
  | reject hfree htaken => exact .rejected hfree (Cache.acquire_eq_none_iff.mp htaken)
  | begin hfree hacquire =>
      obtain ⟨hpermit, rfl⟩ := Cache.acquire_eq_some_iff.mp hacquire
      rw [ledger_setRefresh]
      exact .began hfree hpermit
  | proceed fetched hrefresh hstep =>
      rw [ledger_setRefresh]
      exact Refresh.step_ledger hrefresh hstep
  | abandon hrefresh =>
      rw [ledger_setRefresh]
      exact .abandoned hrefresh
  | start hnew =>
      rw [ledger_setLoop, Ledger.set_self (by simp [Cache.ledger, underway, hnew]; rfl)]
      exact .aside
  | send cmd hloop hsend =>
      rw [ledger_setLoop_eq_self hloop ?_ rfl]
      · exact .aside
      · unfold RefreshLoop.send at hsend
        split at hsend <;> cases hsend
        rfl
  | @close l loop hloop =>
      have hsame : loop.close.underway = loop.underway := rfl
      rw [ledger_setLoop_eq_self hloop hsame rfl]
      exact .aside
  | tick hloop hidle =>
      rw [Serving.tick, if_pos hidle]
      exact step_begin .tick hloop (underway_of_isIdle hidle)
  | takeRequest hloop hidle hinbox =>
      simp only [Serving.take, hidle, if_true, hinbox]
      exact step_begin _ hloop (underway_of_isIdle hidle)
  | @takeOther l loop hloop hidle hinbox =>
      have hledger : (s.setServing l (Serving.take ⟨s.cache, loop⟩)).ledger = s.ledger := by
        rcases Serving.take_eq (s := ⟨s.cache, loop⟩) hinbox with htake | htake <;>
          rw [htake] <;> exact ledger_setLoop_eq_self hloop rfl rfl
      rw [hledger]
      exact .aside
  | @resume l loop job r fetched hloop hcurrent =>
      have hrefresh : s.underway (.loop l) = some r := by
        simp [underway, hloop, RefreshLoop.underway, hcurrent]
      rcases hstep : r.step s.cache fetched with ⟨c, next⟩
      obtain ⟨hnext, hcache⟩ := Serving.resume_eq (s := ⟨s.cache, loop⟩) hcurrent hstep
      rw [ledger_setServing, hnext, hcache]
      exact Refresh.step_ledger hrefresh hstep
  | drop hloop hcurrent =>
      rw [ledger_setLoop]
      refine .abandoned ?_
      simp [underway, hloop, RefreshLoop.underway, hcurrent, Cache.ledger, ledger]
  | markReady => exact .aside
  | read => exact .read
  | evaluate held context => exact .aside

end Simulation

end Service

end FeatureFlags
