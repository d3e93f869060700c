import FeatureFlags.Proofs.Cache.Delivery
import FeatureFlags.Proofs.Cache.Unwatched
import FeatureFlags.Proofs.Snapshot.RoundTrip
import FeatureFlags.Proofs.Validation

namespace FeatureFlags

open Ledger

/-- The flags of a snapshot that a validator complains of. -/
def Snapshot.breaches [PatternEngine] (s : Snapshot) (validator : Option Validator) :
    List (Id × Validation.Error) :=
  s.flags.filterMap fun f => (validator.bind (·.complaint? f)).map (f.id, ·)

def Refresh.built? [PatternEngine] : Refresh → Option Snapshot
  | .preparing flags generation => (Snapshot.build flags generation).2.toOption
  | _ => none

/-- What a refresh has reported on and not put up yet. -/
def Refresh.awaited : Refresh → List Snapshot
  | .publishing s => [s]
  | _ => []

namespace Snapshot

variable [PatternEngine] {s : Snapshot} {id : Id} {e : Validation.Error}

theorem breaches_none (s : Snapshot) : s.breaches none = [] := by
  simp [breaches]

theorem mem_breaches_iff {validator : Option Validator} : (id, e) ∈ s.breaches validator ↔
    ∃ v ∈ validator, ∃ f ∈ s.flags, f.id = id ∧ f.enabled = true ∧ v.Breaks f ∧
      e = .failed f.key (v.broken f) := by
  cases validator with
  | none => simp [breaches_none]
  | some v =>
      simp only [Option.mem_some_iff, exists_eq_left']
      rw [breaches, List.mem_filterMap]
      refine exists_congr fun f => and_congr_right fun _ => ?_
      rw [Option.bind_some, ← Validator.complaint?_eq_some_iff]
      cases v.complaint? f <;> simp

theorem breaches_pairwise {flags : List Flag} {generation : Nat}
    (hbuild : (build flags generation).2 = .ok s) (validator : Option Validator) :
    (s.breaches validator).Pairwise fun a b => a.1 < b.1 := by
  rw [breaches, List.pairwise_filterMap]
  refine (flags_pairwise hbuild).imp fun hlt a ha b hb => ?_
  obtain ⟨_, -, rfl⟩ := Option.map_eq_some_iff.mp ha
  obtain ⟨_, -, rfl⟩ := Option.map_eq_some_iff.mp hb
  exact hlt

end Snapshot

/-- Between two moments of a cache, these have been reported and counted. -/
structure Cache.Reported (c : Cache) (added : List (Id × Validation.Error)) (c' : Cache) :
    Prop where
  reports : c'.reports = c.reports ++ added
  counted : c'.metrics.validationFailures = c.metrics.validationFailures + added.length
  validator : c'.validator = c.validator

namespace Cache

variable {c c' c'' : Cache} {added added' : List (Id × Validation.Error)}

theorem Reported.nothing (hreports : c'.reports = c.reports)
    (hcounted : c'.metrics.validationFailures = c.metrics.validationFailures)
    (hvalidator : c'.validator = c.validator) : c.Reported [] c' :=
  ⟨by simp [hreports], by simp [hcounted], hvalidator⟩

theorem Reported.refl (c : Cache) : c.Reported [] c :=
  .nothing rfl rfl rfl

theorem Reported.trans (h : c.Reported added c') (h' : c'.Reported added' c'') :
    c.Reported (added ++ added') c'' where
  reports := by rw [h'.reports, h.reports, List.append_assoc]
  counted := by rw [h'.counted, h.counted, List.length_append, Nat.add_assoc]
  validator := h'.validator.trans h.validator

variable [PatternEngine]

theorem validationError?_eq (c : Cache) (f : Flag) :
    c.validationError? f = c.validator.bind (·.complaint? f) := by
  rw [validationError?]
  cases c.validator <;> rfl

theorem reports_flagEvents (c : Cache) (f : Flag) :
    (c.flagEvents f).filterMap CacheEvent.report? =
      ((c.validator.bind (·.complaint? f)).map (f.id, ·)).toList := by
  have hkey : (if Key.isSafe f.key then [] else [CacheEvent.unsafeFlagKey f.id f.key]).filterMap
      CacheEvent.report? = [] := by
    split <;> rfl
  have hvariants : ((f.variants.filter fun v => !Key.isSafe v.key).map fun v =>
      CacheEvent.unsafeVariantKey f.id v.id v.key).filterMap CacheEvent.report? = [] := by
    rw [List.filterMap_map, List.filterMap_eq_nil_iff]
    exact fun _ _ => rfl
  rw [flagEvents, List.filterMap_append, List.filterMap_append, hkey, hvariants, List.append_nil,
    List.append_nil, validationError?_eq]
  cases c.validator.bind (·.complaint? f) <;> rfl

theorem checkFlag_reported (c : Cache) (f : Flag) :
    c.Reported ((c.validator.bind (·.complaint? f)).map (f.id, ·)).toList (c.checkFlag f) where
  reports := by rw [reports, checkFlag, List.filterMap_append, reports_flagEvents, reports]
  counted := by
    rw [checkFlag, validationError?_eq]
    cases c.validator.bind (·.complaint? f) <;> rfl
  validator := rfl

theorem checkFlags_reported (c : Cache) (s : Snapshot) :
    c.Reported (s.breaches c.validator) (c.checkFlags s) := by
  rw [checkFlags_eq_foldl, Snapshot.breaches]
  induction s.flags generalizing c with
  | nil => exact .refl c
  | cons f rest ih =>
      have hrest := ih (c.checkFlag f)
      rw [show (c.checkFlag f).validator = c.validator from rfl] at hrest
      have hboth := (c.checkFlag_reported f).trans hrest
      rw [List.foldl_cons, List.filterMap_cons]
      cases hf : (c.validator.bind (·.complaint? f)).map (f.id, ·) <;> rw [hf] at hboth <;>
        exact hboth

theorem prepare_reported (c : Cache) (flags : List Flag) (generation : Nat) :
    c.Reported ((Refresh.preparing flags generation).built?.toList.flatMap (·.breaches c.validator))
      (c.prepare flags generation).1 := by
  rw [prepare, Refresh.built?]
  rcases Snapshot.build flags generation with ⟨taken, built⟩
  have htaken : c.Reported [] { c with events := c.events ++ taken.map .keyTaken } := by
    refine .nothing ?_ rfl rfl
    have hnone : (taken.map CacheEvent.keyTaken).filterMap CacheEvent.report? = [] := by
      rw [List.filterMap_map, List.filterMap_eq_nil_iff]
      exact fun _ _ => rfl
    rw [reports, List.filterMap_append, hnone, List.append_nil, reports]
  cases built with
  | error e => exact htaken
  | ok s => simpa [Except.toOption] using htaken.trans (checkFlags_reported _ s)

theorem ask_reported (c : Cache) (q : Query) : c.Reported [] (c.ask q).1 := by
  have hrecord : ∀ (results : List (Except EvalError EvalResult)) (m : Metrics),
      (results.foldl Metrics.recordEvaluation m).validationFailures = m.validationFailures := by
    intro results m
    rw [Metrics.foldl_recordEvaluation_eq]
  cases q with
  | evaluation context => exact .nothing rfl (hrecord [_] _) rfl
  | batch request => exact .nothing rfl (hrecord _ _) rfl
  | _ => exact .refl c

theorem evaluateOn_reported (c : Cache) (s : Snapshot) (context : Context) :
    c.Reported [] (c.evaluateOn s context).1 := by
  refine .nothing rfl ?_ rfl
  rw [evaluateOn]
  cases s.evaluate context <;> rfl

end Cache

theorem Refresh.step_reported [PatternEngine] {c c' : Cache} {r : Refresh} {fetched : Fetched}
    {next : Refresh ⊕ Except CacheError RefreshStats} (hstep : r.step c fetched = (c', next)) :
    c.Reported (r.built?.toList.flatMap (·.breaches c.validator)) c' := by
  cases r with
  | fetching => cases fetched <;> cases hstep <;> exact .nothing rfl rfl rfl
  | preparing flags generation =>
      rw [step_preparing] at hstep
      cases hstep
      exact c.prepare_reported flags generation
  | publishing s =>
      cases hstep
      exact .nothing rfl rfl rfl
  | finishing result =>
      cases hstep
      cases result <;> exact .nothing rfl rfl rfl

theorem Refresh.run_fetching_error [PatternEngine] (c : Cache) (e : CacheError) :
    fetching.run c (.error e) = (c.finish (.error e), .error e) := by
  rw [run]
  exact run_finishing c _ _

theorem Refresh.run_preparing_reported [PatternEngine] {c c' : Cache} {flags : List Flag}
    {generation : Nat} {fetched : Fetched} {result : Except CacheError RefreshStats}
    (h : (preparing flags generation).run c fetched = (c', result)) :
    c.Reported (if result.isOk then c'.snapshot.breaches c.validator else []) c' := by
  have hprepared := c.prepare_reported flags generation
  cases hbuild : (Snapshot.build flags generation).2 with
  | error e =>
      rw [run_preparing_of_build_eq_error hbuild] at h
      cases h
      rw [built?, hbuild] at hprepared
      exact hprepared.trans (.nothing rfl rfl rfl)
  | ok s =>
      rw [run_preparing_of_build_eq_ok hbuild] at h
      cases h
      rw [built?, hbuild] at hprepared
      let prepared := (c.prepare flags generation).1
      have hfinish : prepared.Reported [] ((prepared.publish s).finish (.ok s.stats)) :=
        .nothing rfl rfl rfl
      simpa [Except.toOption, Except.isOk, Except.toBool] using hprepared.trans hfinish

theorem Cache.refresh_reported [PatternEngine] {c c' : Cache} {fetched : Fetched}
    {result : Except CacheError RefreshStats} (h : c.refresh fetched = (c', result)) :
    c.Reported (if result.isOk then c'.snapshot.breaches c.validator else []) c' := by
  rw [refresh] at h
  cases hpermit : c.acquire with
  | none =>
      rw [hpermit] at h
      cases h
      exact .refl c
  | some held =>
      obtain ⟨-, rfl⟩ := acquire_eq_some_iff.mp hpermit
      rw [hpermit] at h
      dsimp only at h
      cases fetched with
      | error e =>
          rw [Refresh.run_fetching_error] at h
          cases h
          exact .nothing rfl rfl rfl
      | ok flags =>
          rw [Refresh.run_fetching_ok] at h
          generalize hdrawn : draw _ = drawn at h
          have hdraw : c.Reported [] drawn := hdrawn ▸ .nothing rfl rfl rfl
          have hrest := hdraw.trans (Refresh.run_preparing_reported h)
          rwa [hdraw.validator] at hrest

namespace Serving

theorem settle_reported (s : Serving) (job : Job) (result : Except CacheError RefreshStats) :
    s.cache.Reported [] (s.settle job result).cache := by
  cases result with
  | ok stats => exact .refl _
  | error e =>
      refine .nothing ?_ rfl rfl
      cases job <;> simp [settle, Cache.reports, Job.failure, CacheEvent.report?]

theorem begin_reported (s : Serving) (job : Job) : s.cache.Reported [] (s.begin job).cache := by
  cases hpermit : s.cache.refreshing with
  | true =>
      rw [begin_of_refreshing _ _ hpermit]
      exact s.settle_reported job _
  | false =>
      rw [begin_of_free _ _ hpermit]
      exact .nothing rfl rfl rfl

variable [PatternEngine]

theorem resume_reported {s : Serving} {job : Job} {r : Refresh} (fetched : Fetched)
    (hcurrent : s.loop.current = some (job, r)) :
    s.cache.Reported (r.built?.toList.flatMap (·.breaches s.cache.validator))
      (s.resume fetched).cache := by
  rcases hstep : r.step s.cache fetched with ⟨c, next | result⟩
  · simp only [resume, hcurrent, hstep]
    exact Refresh.step_reported hstep
  · simp only [resume, hcurrent, hstep]
    simpa using (Refresh.step_reported hstep).trans (settle_reported ⟨c, s.loop⟩ job result)

end Serving

namespace Ledger

variable [PatternEngine]
variable {Party : Type} {k k' : Ledger Party} {p : Party} {r : Refresh} {e : Event Party}
  {awaited : List Snapshot}

def built? (k : Ledger Party) : Event Party → Option Snapshot
  | .prepared p => (k.underway p).bind Refresh.built?
  | _ => none

theorem exists_build_of_built? {s : Snapshot} (h : k.built? e = some s) :
    ∃ flags, (Snapshot.build flags s.generation).2 = .ok s := by
  cases e with
  | prepared p =>
      obtain ⟨r, -, hr⟩ := Option.bind_eq_some_iff.mp h
      cases r with
      | preparing flags generation =>
          cases hbuild : (Snapshot.build flags generation).2 with
          | error e => simp [Refresh.built?, hbuild, Except.toOption] at hr
          | ok s' =>
              obtain rfl : s' = s := by simpa [Refresh.built?, hbuild, Except.toOption] using hr
              obtain rfl := Snapshot.generation_of_build hbuild
              exact ⟨flags, hbuild⟩
      | _ => cases hr
  | _ => cases h

theorem built?_event (hrefresh : k.underway p = some r) (fetched : Fetched) :
    k.built? (r.event p fetched) = r.built? := by
  cases r with
  | preparing flags generation => rw [Refresh.event, built?, hrefresh, Option.bind_some]
  | _ => rfl

variable [DecidableEq Party]

/-- What has been reported on and not put up yet, by the refresh that holds the permit. -/
inductive Awaits (k : Ledger Party) : List Snapshot → Prop
  | nothing (hfree : k.refreshing = false) (hnone : k.underway = fun _ => none) : Awaits k []
  | underway (p : Party) (r : Refresh) (hheld : k.refreshing = true)
      (hone : k.underway = Function.update (fun _ => none) p (some r)) : Awaits k r.awaited

omit [PatternEngine] in
theorem Awaits.of_underway (h : Awaits k awaited) (hrefresh : k.underway p = some r) :
    awaited = r.awaited ∧ k.refreshing = true ∧
      ∀ next, Function.update k.underway p next = Function.update (fun _ => none) p next := by
  cases h with
  | nothing hfree hnone =>
      rw [hnone] at hrefresh
      cases hrefresh
  | underway q r' hheld hone =>
      obtain rfl : p = q := by
        by_contra hne
        rw [hone, Function.update_of_ne hne] at hrefresh
        cases hrefresh
      rw [hone, Function.update_self] at hrefresh
      cases hrefresh
      refine ⟨rfl, hheld, fun next => ?_⟩
      rw [hone, Function.update_idem]

theorem Awaits.step (h : Awaits k awaited) (hstep : Step k e k') :
    ∃ awaited', Awaits k' awaited' ∧
      awaited ++ (k.built? e).toList = e.published?.toList ++ awaited' := by
  have hgoes : ∀ {p r} (next : Refresh), k.underway p = some r → k'.refreshing = k.refreshing →
      k'.underway = Function.update k.underway p (some next) → Awaits k' next.awaited := by
    intro p r next hrefresh hpermit hk'
    obtain ⟨-, hheld, hone⟩ := h.of_underway hrefresh
    exact .underway p next (hpermit.trans hheld) (hk'.trans (hone _))
  have hends : ∀ {p r}, k.underway p = some r → k'.refreshing = false →
      k'.underway = Function.update k.underway p none → Awaits k' [] := by
    intro p r hrefresh hpermit hk'
    refine .nothing hpermit (hk'.trans (((h.of_underway hrefresh).2.2 _).trans ?_))
    rw [Function.update_eq_self_iff]
  cases hstep with
  | rejected hfree hheld => exact ⟨awaited, h, by simp [built?, Event.published?]⟩
  | read => exact ⟨awaited, h, by simp [built?, Event.published?]⟩
  | aside => exact ⟨awaited, h, by simp [built?, Event.published?]⟩
  | @began p hfree hpermit =>
      cases h with
      | nothing _ hnone =>
          refine ⟨[], .underway p .fetching rfl ?_, rfl⟩
          rw [set, hnone]
      | underway q r hheld hone => exact absurd hheld (by simp [hpermit])
  | failed hrefresh =>
      obtain ⟨rfl, -⟩ := h.of_underway hrefresh
      exact ⟨_, hgoes _ hrefresh rfl rfl, rfl⟩
  | drew hrefresh =>
      obtain ⟨rfl, -⟩ := h.of_underway hrefresh
      exact ⟨_, hgoes _ hrefresh rfl rfl, rfl⟩
  | prepared hrefresh =>
      obtain ⟨rfl, -⟩ := h.of_underway hrefresh
      refine ⟨_, hgoes _ hrefresh rfl rfl, ?_⟩
      rw [built?, hrefresh, Option.bind_some, Refresh.built?]
      cases (Snapshot.build _ _).2 <;> rfl
  | published hrefresh =>
      obtain ⟨rfl, -⟩ := h.of_underway hrefresh
      exact ⟨_, hgoes _ hrefresh rfl rfl, rfl⟩
  | ended hrefresh =>
      obtain ⟨rfl, -⟩ := h.of_underway hrefresh
      exact ⟨[], hends hrefresh rfl rfl, rfl⟩
  | abandoned hrefresh =>
      obtain ⟨rfl, -⟩ := h.of_underway hrefresh
      exact ⟨[], hends hrefresh rfl rfl, rfl⟩

end Ledger

namespace Deployment

variable [PatternEngine]
variable {Task Loop : Type} [DecidableEq Task] [DecidableEq Loop] {d d' : Deployment Task Loop}
  {x : Notice Task Loop} {history : List (Notice Task Loop)} {validator : Option Validator}
  {flags : List Flag} {c : Cache} {stats : RefreshStats}

theorem Step.reported (hstep : Step d x d') : d.cache.Reported
    ((d.ledger.built? x.event).toList.flatMap (·.breaches d.cache.validator)) d'.cache := by
  cases hstep with
  | reject hfree htaken => exact .refl _
  | begin hfree hacquire =>
      obtain ⟨-, rfl⟩ := Cache.acquire_eq_some_iff.mp hacquire
      exact .nothing rfl rfl rfl
  | proceed fetched hrefresh hstep =>
      rw [Notice.event, Refresh.map_event, built?_event hrefresh]
      exact Refresh.step_reported hstep
  | abandon hrefresh => exact .nothing rfl rfl rfl
  | start hnew => exact .refl _
  | @desk l k y k' hdesk hstep =>
      obtain ⟨loop, hloop, rfl⟩ := exists_loop_of_desk? hdesk
      rw [Notice.event]
      have hbeginning : ∀ job, d.ledger.built? ((d.cache.beginning job).event l) = none := by
        intro job
        rw [Cache.beginning]
        split <;> rfl
      cases hstep with
      | tick hidle =>
          rw [hbeginning]
          change d.cache.Reported [] (Serving.tick ⟨d.cache, loop⟩).cache
          rw [Serving.tick, if_pos hidle]
          exact Serving.begin_reported ⟨d.cache, loop⟩ .tick
      | @take n rest hidle hinbox =>
          rw [hbeginning]
          change d.cache.Reported [] (Serving.take ⟨d.cache, loop⟩).cache
          rw [Serving.take, if_pos hidle]
          simp only [show loop.inbox = .refresh n :: rest from hinbox]
          exact Serving.begin_reported ⟨d.cache, { loop with inbox := rest }⟩ (.request n)
      | @resume job r fetched hcurrent =>
          have hrefresh : d.underway (.loop l) = some r := by
            rw [Service.underway, hloop, Option.bind_some, RefreshLoop.underway, hcurrent]
            rfl
          rw [event_call, built?_event hrefresh]
          exact Serving.resume_reported fetched hcurrent
      | finish hidle hfinished =>
          rw [Desk.setServing, Desk.take_loop_of_finished hidle hfinished]
          exact .nothing rfl rfl rfl
      | _ => exact .refl _
  | poll => exact .refl _
  | ask q => exact d.cache.ask_reported q
  | hand now => exact .refl _
  | evaluate held context => exact d.cache.evaluateOn_reported held context

/-- What has been reported by the end of a run: each snapshot that was put up, and that of the
refresh under way, once each. -/
theorem Run.reported (hload : Cache.load validator (.ok flags) = (c, .ok stats))
    (hrun : Run (loaded c) history d) : ∃ awaited, d.ledger.Awaits awaited ∧
      c.Reported ((published (events history) ++ awaited).flatMap (·.breaches c.validator))
        d.cache ∧
      ∀ s ∈ published (events history) ++ awaited,
        ∃ flags, (Snapshot.build flags s.generation).2 = .ok s := by
  induction hrun with
  | nil =>
      obtain ⟨-, -, -, hfree, -⟩ := Cache.load_eq_ok hload
      refine ⟨[], .nothing hfree ?_, .refl c, by simp [events, published]⟩
      funext p
      cases p <;> rfl
  | @snoc earlier m x d' hrun hstep ih =>
      obtain ⟨awaited, hawaits, hreported, hbuilt⟩ := ih
      obtain ⟨awaited', hawaits', hlists⟩ := hawaits.step hstep.ledger
      have hall : published (events (earlier ++ [x])) ++ awaited' =
          published (events earlier) ++ awaited ++ (m.ledger.built? x.event).toList := by
        rw [events, List.map_append, List.map_singleton, published_snoc, List.append_assoc,
          ← hlists, List.append_assoc]
        rfl
      refine ⟨awaited', hawaits', ?_, ?_⟩
      · have hlast := hstep.reported
        rw [hreported.validator] at hlast
        rw [hall, List.flatMap_append]
        exact hreported.trans hlast
      · rw [hall]
        intro s hs
        rcases List.mem_append.mp hs with hs | hs
        · exact hbuilt s hs
        · exact exists_build_of_built? (Option.mem_toList.mp hs)

end Deployment

end FeatureFlags
