import FeatureFlags.Proofs.Cache.Service
import FeatureFlags.Proofs.Cache.Unwatched
import Mathlib.Algebra.Order.Ring.Nat

namespace FeatureFlags

namespace Tally

def total (t : Tally) : Nat :=
  (t.map Prod.snd).sum

theorem count_cons (seen o : Outcome) (n : Nat) (rest : Tally) :
    count ((seen, n) :: rest) o = if seen = o then n else count rest o := by
  by_cases h : seen = o
  · simp [count, h]
  · simp [count, h]

theorem count_add (t : Tally) (o o' : Outcome) :
    (t.add o).count o' = t.count o' + if o = o' then 1 else 0 := by
  induction t with
  | nil => rw [add, count_cons]; simp [count]
  | cons entry rest ih =>
      obtain ⟨seen, n⟩ := entry
      by_cases hseen : seen = o
      · subst hseen
        by_cases ho : seen = o' <;> simp [add, count_cons, ho]
      · rw [add, if_neg hseen, count_cons, count_cons, ih]
        by_cases ho : seen = o'
        · simp [ho, show o ≠ o' from fun h => hseen (ho.trans h.symm)]
        · simp [ho]

theorem total_add (t : Tally) (o : Outcome) : (t.add o).total = t.total + 1 := by
  induction t with
  | nil => rfl
  | cons entry rest ih =>
      obtain ⟨seen, n⟩ := entry
      by_cases hseen : seen = o
      · simp [add, total, hseen]
        omega
      · simp only [add, total, hseen, if_false, List.map_cons, List.sum_cons] at ih ⊢
        rw [ih, Nat.add_assoc]

end Tally

def EvalResult.outcome (r : EvalResult) : Outcome :=
  ⟨r.flagId, r.variantId⟩

def Outcome.isOf (o : Outcome) : Except EvalError EvalResult → Bool
  | .ok r => r.outcome = o
  | .error _ => false

def RefreshStats.isFailure : Except CacheError RefreshStats → Bool
  | .ok _ | .error .concurrentRefresh => false
  | .error _ => true

namespace Event

variable {Party : Type}

def returned? : Event Party → Option (Except CacheError RefreshStats)
  | .rejected _ => some (.error .concurrentRefresh)
  | .ended _ result => some result
  | _ => none

def gauge (shown : Option Nat) : Event Party → Option Nat
  | .ended _ (.ok stats) => some stats.flags
  | _ => shown

/-- A fetch only fails with an error of its source or by running into the timeout. -/
def Genuine : Event Party → Prop
  | .fetched _ (.error e) => (∃ cause, e = .fetch cause) ∨ ∃ limit, e = .timeout limit
  | _ => True

end Event

namespace Metrics

variable {Party : Type}

def recordEvent (m : Metrics) : Event Party → Metrics
  | .ended _ (.ok stats) => m.recordSuccess stats.flags
  | .ended _ (.error _) => m.recordFailure
  | _ => m

def ofTraffic (m : Metrics) : Metrics :=
  { m with validationFailures := 0 }

/-- The metrics count what refreshes returned. -/
structure OfRefreshes (returned : List (Except CacheError RefreshStats)) (m : Metrics) : Prop where
  succeeded : m.refreshSuccess = returned.countP (·.isOk)
  failed : m.refreshFailure = returned.countP RefreshStats.isFailure
  timed : m.refreshDurations = m.refreshSuccess + m.refreshFailure
  set : m.flags.isSome ↔ 0 < m.refreshSuccess

structure OfEvaluations (results : List (Except EvalError EvalResult)) (m : Metrics) : Prop where
  evaluations : ∀ o, m.evaluations.count o = results.countP o.isOf
  total : m.evaluations.total = results.countP (·.isOk)
  errors : m.evaluationErrors = results.countP (!·.isOk)

section Refreshes

variable {returned : List (Except CacheError RefreshStats)} {m m' : Metrics}

theorem ofRefreshes_zero : OfRefreshes [] zero :=
  ⟨rfl, rfl, rfl, by simp [zero]⟩

theorem OfRefreshes.congr (h : OfRefreshes returned m) (hm : m'.ofTraffic = m.ofTraffic) :
    OfRefreshes returned m' := by
  obtain ⟨success, failure, durations, flags, evaluations, errors, validation⟩ := m
  obtain ⟨success', failure', durations', flags', evaluations', errors', validation'⟩ := m'
  cases hm
  exact ⟨h.succeeded, h.failed, h.timed, h.set⟩

theorem OfRefreshes.recordSuccess (h : OfRefreshes returned m) (stats : RefreshStats) :
    OfRefreshes (returned ++ [.ok stats]) (m.recordSuccess stats.flags) := by
  have htimed := h.timed
  refine ⟨?_, ?_, ?_, ?_⟩
  · simp [Metrics.recordSuccess, h.succeeded, Except.isOk, Except.toBool]
  · simp [Metrics.recordSuccess, h.failed, RefreshStats.isFailure]
  · simp only [Metrics.recordSuccess]
    omega
  · simp [Metrics.recordSuccess]

theorem OfRefreshes.recordFailure (h : OfRefreshes returned m) {e : CacheError}
    (he : RefreshStats.isFailure (.error e)) :
    OfRefreshes (returned ++ [.error e]) m.recordFailure := by
  have htimed := h.timed
  refine ⟨?_, ?_, ?_, h.set⟩
  · simp [Metrics.recordFailure, h.succeeded, Except.isOk, Except.toBool]
  · simp [Metrics.recordFailure, h.failed, he]
  · simp only [Metrics.recordFailure]
    omega

theorem OfRefreshes.turnAway (h : OfRefreshes returned m) :
    OfRefreshes (returned ++ [.error .concurrentRefresh]) m := by
  refine ⟨?_, ?_, h.timed, h.set⟩
  · simp [h.succeeded, Except.isOk, Except.toBool]
  · simp [h.failed, RefreshStats.isFailure]

theorem OfRefreshes.recordEvent (h : OfRefreshes returned m) {e : Event Party}
    (he : ∀ p, e ≠ .ended p (.error .concurrentRefresh)) :
    OfRefreshes (returned ++ e.returned?.toList) (m.recordEvent e) := by
  cases e with
  | rejected p => exact h.turnAway
  | ended p result =>
      cases result with
      | ok stats => exact h.recordSuccess stats
      | error e =>
          refine h.recordFailure ?_
          cases e with
          | concurrentRefresh => exact absurd rfl (he p)
          | _ => rfl
  | _ => simpa [Event.returned?, Metrics.recordEvent] using h

theorem OfRefreshes.recordEvaluations (h : OfRefreshes returned m)
    (results : List (Except EvalError EvalResult)) :
    OfRefreshes returned (results.foldl recordEvaluation m) := by
  rw [foldl_recordEvaluation_eq]
  exact ⟨h.succeeded, h.failed, h.timed, h.set⟩

end Refreshes

section Evaluations

variable {results : List (Except EvalError EvalResult)} {m m' : Metrics}

theorem ofEvaluations_zero : OfEvaluations [] zero :=
  ⟨fun _ => rfl, rfl, rfl⟩

theorem OfEvaluations.congr (h : OfEvaluations results m) (hm : m'.ofTraffic = m.ofTraffic) :
    OfEvaluations results m' := by
  obtain ⟨success, failure, durations, flags, evaluations, errors, validation⟩ := m
  obtain ⟨success', failure', durations', flags', evaluations', errors', validation'⟩ := m'
  cases hm
  exact ⟨h.evaluations, h.total, h.errors⟩

theorem OfEvaluations.perm (h : OfEvaluations results m)
    {results' : List (Except EvalError EvalResult)} (hperm : results.Perm results') :
    OfEvaluations results' m where
  evaluations o := by rw [h.evaluations, hperm.countP_eq]
  total := by rw [h.total, hperm.countP_eq]
  errors := by rw [h.errors, hperm.countP_eq]

theorem OfEvaluations.recordEvent (h : OfEvaluations results m) (e : Event Party) :
    OfEvaluations results (m.recordEvent e) := by
  cases e with
  | ended p result => cases result <;> exact ⟨h.evaluations, h.total, h.errors⟩
  | _ => exact h

theorem OfEvaluations.recordEvaluation (h : OfEvaluations results m)
    (result : Except EvalError EvalResult) :
    OfEvaluations (results ++ [result]) (m.recordEvaluation result) := by
  refine ⟨fun o => ?_, ?_, ?_⟩
  · rw [List.countP_append, List.countP_singleton, ← h.evaluations]
    cases result with
    | ok r =>
        simp only [Outcome.isOf, decide_eq_true_eq]
        exact Tally.count_add _ _ _
    | error e => rfl
  · rw [List.countP_append, ← h.total]
    cases result with
    | ok r => exact Tally.total_add _ _
    | error e => rfl
  · rw [List.countP_append, ← h.errors]
    cases result <;> rfl

theorem OfEvaluations.recordEvaluations (h : OfEvaluations results m)
    (added : List (Except EvalError EvalResult)) :
    OfEvaluations (results ++ added) (added.foldl Metrics.recordEvaluation m) := by
  induction added generalizing results m with
  | nil => rwa [List.append_nil]
  | cons result rest ih =>
      rw [List.append_cons]
      exact ih (h.recordEvaluation result)

end Evaluations

end Metrics

namespace Ledger

variable {Party : Type}

/-- What the gauge shows while a refresh is under way: the size of the snapshot that is served,
until another one is put up. From then on, what the refresh is about to tell. -/
def Gauges (k : Ledger Party) (shown : Option Nat) : Refresh → Prop
  | .finishing (.ok stats) => stats = k.snapshot.stats
  | .finishing (.error e) =>
      RefreshStats.isFailure (.error e) ∧ ∀ n ∈ shown, n = k.snapshot.flags.length
  | _ => ∀ n ∈ shown, n = k.snapshot.flags.length

structure Gauged (k : Ledger Party) (shown : Option Nat) : Prop where
  idle : (∀ p, k.underway p = none) → ∀ n ∈ shown, n = k.snapshot.flags.length
  underway : ∀ p r, k.underway p = some r → Gauges k shown r

section Gauged

variable {history : List (Event Party)} {k k' : Ledger Party} {shown : Option Nat} {p : Party}
  {r next : Refresh} {e : Event Party}

theorem Gauged.of_idle (hidle : ∀ p, k.underway p = none)
    (hshown : ∀ n ∈ shown, n = k.snapshot.flags.length) : Gauged k shown where
  idle _ := hshown
  underway p r hr := by simp [hidle p] at hr

theorem Gauges.shown_eq (h : Gauges k shown r) (hr : ∀ stats, r ≠ .finishing (.ok stats)) :
    ∀ n ∈ shown, n = k.snapshot.flags.length := by
  cases r with
  | finishing result =>
      cases result with
      | ok stats => exact absurd rfl (hr stats)
      | error e => exact h.2
  | _ => exact h

variable [DecidableEq Party]

variable [PatternEngine]

theorem Gauged.of_underway (hholding : Holding history k) (hnext : k.underway p = some next)
    (hgauges : Gauges k shown next) : Gauged k shown where
  idle hidle := by simp [hidle p] at hnext
  underway q r hr := by
    obtain rfl : p = q := hholding.eq_of_underway (by simp [hnext]) (by simp [hr])
    obtain rfl : next = r := Option.some.inj (hnext.symm.trans hr)
    exact hgauges

theorem Gauged.step (h : Gauged k shown) (hbalanced : Balanced history k)
    (hgenuine : e.Genuine) (hstep : Step k e k') : Gauged k' (e.gauge shown) := by
  have hholding := (hbalanced.step hstep).holding
  cases hstep with
  | rejected => exact h
  | read => exact h
  | aside => exact h
  | began hfree hpermit =>
      have hshown := h.idle (hbalanced.holding.eq_none_of_free hpermit)
      exact .of_underway hholding (Function.update_self ..) hshown
  | failed hrefresh =>
      have hshown := (h.underway _ _ hrefresh).shown_eq (by simp)
      refine .of_underway hholding (Function.update_self ..) ⟨?_, hshown⟩
      rcases hgenuine with ⟨cause, rfl⟩ | ⟨limit, rfl⟩ <;> rfl
  | drew hrefresh =>
      have hshown := (h.underway _ _ hrefresh).shown_eq (by simp)
      exact .of_underway hholding (Function.update_self ..) hshown
  | @prepared p flags generation hrefresh =>
      have hshown := (h.underway _ _ hrefresh).shown_eq (by simp)
      refine .of_underway hholding (Function.update_self ..) ?_
      cases (Snapshot.build flags generation).2 with
      | ok s => exact hshown
      | error e => exact ⟨rfl, hshown⟩
  | published hrefresh => exact .of_underway hholding (Function.update_self ..) rfl
  | @ended p result hrefresh =>
      have hidle := hholding.eq_none_of_free rfl
      have hgauges := h.underway _ _ hrefresh
      cases result with
      | ok stats =>
          refine .of_idle hidle ?_
          rintro n ⟨⟩
          exact congrArg RefreshStats.flags (Eq.trans hgauges k.snapshot.stats_eq)
      | error e => exact .of_idle hidle hgauges.2
  | abandoned hrefresh =>
      have hshown := (h.underway _ _ hrefresh).shown_eq (by simp)
      exact .of_idle (hholding.eq_none_of_free rfl) hshown

theorem Gauged.not_turnedAway (h : Gauged k shown) (hstep : Step k e k') (p : Party) :
    e ≠ .ended p (.error .concurrentRefresh) := by
  rintro rfl
  cases hstep with
  | ended hrefresh => exact absurd (h.underway _ _ hrefresh).1 (by simp [RefreshStats.isFailure])

end Gauged

end Ledger

section Operations

variable [PatternEngine]

namespace Cache

theorem checkFlags_ofTraffic (c : Cache) (s : Snapshot) :
    (c.checkFlags s).metrics.ofTraffic = c.metrics.ofTraffic := by
  rw [checkFlags_eq_foldl]
  induction s.flags generalizing c with
  | nil => rfl
  | cons f rest ih =>
      rw [List.foldl_cons, ih, checkFlag]
      dsimp only
      split <;> rfl

theorem prepare_ofTraffic (c : Cache) (flags : List Flag) (generation : Nat) :
    (c.prepare flags generation).1.metrics.ofTraffic = c.metrics.ofTraffic := by
  rw [prepare]
  rcases Snapshot.build flags generation with ⟨taken, e | s⟩
  · rfl
  · exact checkFlags_ofTraffic _ s

end Cache

theorem Refresh.step_ofTraffic {Party : Type} {p : Party} {c c' : Cache} {r : Refresh}
    {fetched : Fetched} {next : Refresh ⊕ Except CacheError RefreshStats}
    (hstep : r.step c fetched = (c', next)) :
    c'.metrics.ofTraffic = (c.metrics.recordEvent (r.event p fetched)).ofTraffic := by
  cases r with
  | fetching => cases fetched <;> cases hstep <;> rfl
  | preparing flags generation =>
      rw [step_preparing] at hstep
      cases hstep
      exact c.prepare_ofTraffic flags generation
  | publishing s =>
      cases hstep
      rfl
  | finishing result =>
      cases hstep
      cases result <;> rfl

namespace Serving

omit [PatternEngine] in
theorem settle_metrics (s : Serving) (job : Job) (result : Except CacheError RefreshStats) :
    (s.settle job result).cache.metrics = s.cache.metrics := by
  cases result <;> rfl

omit [PatternEngine] in
theorem begin_metrics (s : Serving) (job : Job) :
    (s.begin job).cache.metrics = s.cache.metrics := by
  cases hpermit : s.cache.refreshing with
  | true => rw [begin_of_refreshing _ _ hpermit, settle_metrics]
  | false => rw [begin_of_free _ _ hpermit]

theorem resume_ofTraffic {Party : Type} {p : Party} {s : Serving} {job : Job} {r : Refresh}
    (fetched : Fetched) (hcurrent : s.loop.current = some (job, r)) :
    (s.resume fetched).cache.metrics.ofTraffic =
      (s.cache.metrics.recordEvent (r.event p fetched)).ofTraffic := by
  rcases hstep : r.step s.cache fetched with ⟨c, next | result⟩
  · simp only [resume, hcurrent, hstep]
    exact Refresh.step_ofTraffic hstep
  · simp only [resume, hcurrent, hstep, settle_metrics]
    exact Refresh.step_ofTraffic hstep

end Serving

end Operations

end FeatureFlags
