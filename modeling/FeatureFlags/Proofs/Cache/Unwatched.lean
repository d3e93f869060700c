import FeatureFlags.Proofs.Cache.Operation

namespace FeatureFlags

namespace CacheEvent

def report? : CacheEvent → Option (Id × Validation.Error)
  | invalidFlag flagId e => some (flagId, e)
  | _ => none

end CacheEvent

namespace Cache

variable [PatternEngine] (c : Cache)

def reports : List (Id × Validation.Error) :=
  c.events.filterMap CacheEvent.report?

def unwatched : Cache :=
  { c with
    validator := none
    metrics := { c.metrics with validationFailures := 0 }
    events := c.events.filter fun e => e.report?.isNone }

def checkFlag (f : Flag) : Cache :=
  { c with
    metrics := if (c.validationError? f).isSome then c.metrics.recordInvalidFlag else c.metrics
    events := c.events ++ c.flagEvents f }

theorem checkFlags_eq_foldl (s : Snapshot) : c.checkFlags s = s.flags.foldl checkFlag c := rfl

section Operations

omit [PatternEngine] in
theorem acquire_unwatched : c.unwatched.acquire = c.acquire.map unwatched := by
  rw [acquire, acquire]
  split <;> simp_all [unwatched]

omit [PatternEngine] in
theorem finish_unwatched (result : Except CacheError RefreshStats) :
    c.unwatched.finish result = (c.finish result).unwatched := by
  cases result <;> rfl

theorem evaluateOn_unwatched (s : Snapshot) (context : Context) :
    c.unwatched.evaluateOn s context = (c.evaluateOn s context).map unwatched id := by
  rw [evaluateOn, evaluateOn]
  cases s.evaluate context <;> rfl

theorem filter_flagEvents (f : Flag) :
    (c.flagEvents f).filter (fun e => e.report?.isNone) = c.unwatched.flagEvents f := by
  have hreport : ∀ e : Option Validation.Error,
      (e.map (CacheEvent.invalidFlag f.id)).toList.filter (fun e => e.report?.isNone) = [] := by
    intro e
    cases e <;> rfl
  have hkey : (if Key.isSafe f.key then [] else [.unsafeFlagKey f.id f.key]).filter
        (fun e => e.report?.isNone) =
      if Key.isSafe f.key then [] else [CacheEvent.unsafeFlagKey f.id f.key] := by
    split <;> rfl
  rw [flagEvents, flagEvents, List.filter_append, List.filter_append, hreport, hkey,
    List.filter_map, List.filter_eq_self.mpr]
  · rfl
  · exact fun _ _ => rfl

theorem checkFlag_unwatched (f : Flag) : c.unwatched.checkFlag f = (c.checkFlag f).unwatched := by
  have hevents := c.filter_flagEvents f
  simp only [unwatched, checkFlag, List.filter_append] at hevents ⊢
  rw [hevents]
  cases c.validationError? f <;> rfl

theorem checkFlags_unwatched (s : Snapshot) :
    c.unwatched.checkFlags s = (c.checkFlags s).unwatched := by
  rw [checkFlags_eq_foldl, checkFlags_eq_foldl]
  exact List.foldl_hom unwatched checkFlag_unwatched

theorem prepare_unwatched (flags : List Flag) (generation : Nat) :
    c.unwatched.prepare flags generation = (c.prepare flags generation).map unwatched id := by
  rw [prepare, prepare]
  rcases Snapshot.build flags generation with ⟨taken, built⟩
  have htaken : ({ c.unwatched with
      events := c.unwatched.events ++ taken.map .keyTaken } : Cache) =
        ({ c with events := c.events ++ taken.map .keyTaken } : Cache).unwatched := by
    have hkept : (taken.map CacheEvent.keyTaken).filter (fun e => e.report?.isNone) =
        taken.map .keyTaken := by
      apply List.filter_eq_self.mpr
      intro e he
      obtain ⟨k, -, rfl⟩ := List.mem_map.mp he
      rfl
    simp only [unwatched, List.filter_append, hkept]
  dsimp only
  rw [htaken]
  cases built with
  | error e => rfl
  | ok s => simp only [checkFlags_unwatched, Prod.map_apply, id_eq]

omit [PatternEngine] in
theorem recordEvaluation_foldl (results : List (Except EvalError EvalResult)) (m : Metrics) :
    results.foldl Metrics.recordEvaluation { m with validationFailures := 0 } =
      { results.foldl Metrics.recordEvaluation m with validationFailures := 0 } :=
  List.foldl_hom (fun m : Metrics => { m with validationFailures := 0 }) fun m result => by
    cases result <;> rfl

theorem ask_unwatched (q : Query) : c.unwatched.ask q = (c.ask q).map unwatched id := by
  cases q with
  | evaluation context =>
      simp only [ask, evaluate, evaluateOn_unwatched]
      rfl
  | batch request =>
      simp only [ask, evaluateBatch, unwatched, recordEvaluation_foldl]
      rfl
  | _ => rfl

end Operations

end Cache

theorem Refresh.step_unwatched [PatternEngine] (r : Refresh) (c : Cache) (fetched : Fetched) :
    r.step c.unwatched fetched = (r.step c fetched).map Cache.unwatched id := by
  cases r with
  | fetching => cases fetched <;> rfl
  | preparing flags generation =>
      rw [step_preparing, step_preparing, Cache.prepare_unwatched]
      rfl
  | publishing s => rfl
  | finishing result =>
      simp only [step, Cache.finish_unwatched]
      rfl

theorem Refresh.run_unwatched [PatternEngine] (r : Refresh) (c : Cache) (fetched : Fetched) :
    r.run c.unwatched fetched = (r.run c fetched).map Cache.unwatched id := by
  induction hleft : r.stepsLeft using Nat.strongRecOn generalizing r c with
  | ind n ih =>
      have hunwatched := r.step_unwatched c fetched
      rcases hstep : r.step c fetched with ⟨c', next | result⟩ <;> rw [hstep] at hunwatched
      · have hrun : r.run c fetched = next.run c' fetched := by rw [run, hstep]
        have hrun' : r.run c.unwatched fetched = next.run c'.unwatched fetched := by
          rw [run, hunwatched]
          rfl
        rw [hrun, hrun']
        exact ih next.stepsLeft (hleft ▸ stepsLeft_step hstep) next c' rfl
      · have hrun : r.run c fetched = (c', result) := by rw [run, hstep]
        rw [hrun, run, hunwatched]
        rfl

namespace Cache

variable [PatternEngine]

theorem refresh_unwatched (c : Cache) (fetched : Fetched) :
    c.unwatched.refresh fetched = (c.refresh fetched).map unwatched id := by
  rw [refresh, refresh, acquire_unwatched]
  cases c.acquire with
  | none => rfl
  | some held => exact Refresh.run_unwatched .fetching held fetched

theorem load_unwatched (validator : Option Validator) (fetched : Fetched) :
    (load validator fetched).map unwatched id = (load none fetched).map unwatched id := by
  have hsame : ((create validator).refresh fetched).map unwatched id =
      ((create none).refresh fetched).map unwatched id := by
    rw [← refresh_unwatched, ← refresh_unwatched]
    rfl
  rw [load, load]
  generalize (create validator).refresh fetched = watched at hsame
  generalize (create none).refresh fetched = plain at hsame
  obtain ⟨c, result⟩ := watched
  obtain ⟨c', result'⟩ := plain
  obtain ⟨hc, rfl⟩ : c.unwatched = c'.unwatched ∧ result = result' := by simpa using hsame
  cases result with
  | error e => exact congrArg (Prod.mk · (Except.error e)) hc
  | ok stats => exact congrArg (fun c : Cache => (c.markReady, Except.ok stats)) hc

end Cache

namespace Serving

variable (s : Serving)

def unwatched : Serving :=
  { s with cache := s.cache.unwatched }

theorem settle_unwatched (job : Job) (result : Except CacheError RefreshStats) :
    s.unwatched.settle job result = (s.settle job result).unwatched := by
  cases result with
  | ok stats => rfl
  | error e =>
      cases job <;>
        simp [settle, unwatched, Cache.unwatched, Job.failure, CacheEvent.report?]

theorem begin_unwatched (job : Job) : s.unwatched.begin job = (s.begin job).unwatched := by
  cases hpermit : s.cache.refreshing with
  | true =>
      rw [begin_of_refreshing _ _ hpermit, ← settle_unwatched, begin_of_refreshing]
      exact hpermit
  | false =>
      rw [begin_of_free _ _ hpermit, begin_of_free]
      · rfl
      · exact hpermit

@[simp]
theorem unwatched_loop : s.unwatched.loop = s.loop := rfl

theorem tick_unwatched : s.unwatched.tick = s.tick.unwatched := by
  rw [tick, tick, unwatched_loop]
  split
  · exact s.begin_unwatched .tick
  · rfl

theorem take_unwatched : s.unwatched.take = s.take.unwatched := by
  rw [take, take, unwatched_loop]
  split
  · split
    · split <;> rfl
    · next requester rest hinbox =>
        exact begin_unwatched ⟨s.cache, { s.loop with inbox := rest }⟩ (.request requester)
    · rfl
  · rfl

variable [PatternEngine]

theorem resume_unwatched (fetched : Fetched) :
    s.unwatched.resume fetched = (s.resume fetched).unwatched := by
  rw [resume, resume, unwatched_loop]
  split
  · rfl
  · next job r hcurrent =>
      have hstep : r.step s.unwatched.cache fetched =
          (r.step s.cache fetched).map Cache.unwatched id := r.step_unwatched s.cache fetched
      rw [hstep]
      rcases r.step s.cache fetched with ⟨c, next | result⟩
      · rfl
      · exact settle_unwatched ⟨c, s.loop⟩ job result

end Serving

namespace Desk

variable [PatternEngine]

def unwatched (k : Desk) : Desk :=
  { k with cache := k.cache.unwatched }

theorem perform_unwatched (k : Desk) (op : DeskOperation) :
    k.unwatched.perform op = (k.perform op).map (Prod.map id unwatched) := by
  cases op with
  | request n =>
      simp only [perform, unwatched]
      split
      · rw [apply_ite (Option.map _)]
        rfl
      · rfl
      · rfl
  | collect n =>
      simp only [perform, unwatched]
      split
      · rfl
      · rw [apply_ite (Option.map _)]
        rfl
      · rfl
  | leave n =>
      simp only [perform, unwatched]
      split <;> rfl
  | stop =>
      simp only [perform, unwatched]
      split
      · rw [apply_ite (Option.map _)]
        rfl
      · rfl
  | drop => rfl
  | tick =>
      have htick : k.unwatched.toServing.tick = k.toServing.tick.unwatched :=
        k.toServing.tick_unwatched
      rw [perform, perform, htick, apply_ite (Option.map _)]
      rfl
  | take =>
      have htake : k.unwatched.toServing.take = k.toServing.take.unwatched :=
        k.toServing.take_unwatched
      simp only [perform, htake]
      simp only [unwatched]
      split <;> rfl
  | resume fetched =>
      have hresume : k.unwatched.toServing.resume fetched =
          (k.toServing.resume fetched).unwatched :=
        k.toServing.resume_unwatched fetched
      rw [perform, perform, hresume, Option.map_map]
      rfl

end Desk

namespace Deployment

variable [PatternEngine] {Task Loop : Type} [DecidableEq Task] [DecidableEq Loop]

def unwatched (d : Deployment Task Loop) : Deployment Task Loop :=
  d.setCache d.cache.unwatched

theorem perform_unwatched (d : Deployment Task Loop) (op : Operation Task Loop) :
    d.unwatched.perform op = (d.perform op).map (Prod.map id unwatched) := by
  cases op with
  | refresh t =>
      simp only [perform, unwatched, setCache, Cache.acquire_unwatched]
      cases d.refreshes t <;> cases d.cache.acquire <;> rfl
  | proceed t fetched =>
      simp only [perform, unwatched, setCache, Refresh.step_unwatched]
      cases d.refreshes t <;> rfl
  | abandon t =>
      simp only [perform, unwatched, setCache]
      split <;> rfl
  | start l =>
      simp only [perform, unwatched, setCache]
      split <;> rfl
  | desk l op =>
      have hdesk : d.unwatched.desk? l = (d.desk? l).map Desk.unwatched := by
        rw [desk?, desk?, Option.map_map]
        rfl
      rw [perform, perform, hdesk]
      rcases d.desk? l with _ | k
      · rfl
      · simp only [Option.map_some, Option.bind_some, Desk.perform_unwatched, Option.map_map]
        rfl
  | poll => rfl
  | ask q =>
      simp only [perform, unwatched, setCache, Cache.ask_unwatched]
      rfl
  | hand now => rfl
  | evaluate held context =>
      simp only [perform, unwatched, setCache, Cache.evaluateOn_unwatched]
      rfl

theorem performAll_unwatched (d : Deployment Task Loop) (ops : List (Operation Task Loop)) :
    d.unwatched.performAll ops = (d.performAll ops).map (Prod.map id unwatched) := by
  induction ops generalizing d with
  | nil => rfl
  | cons op ops ih =>
      rw [performAll, performAll, perform_unwatched]
      cases d.perform op with
      | none => rfl
      | some next =>
          obtain ⟨x, m⟩ := next
          simp only [Option.map_some, Option.bind_some, Prod.map_apply, id_eq, ih, Option.map_map]
          rfl

end Deployment

end FeatureFlags
