import FeatureFlags.Pattern.Machine
import FeatureFlags.Proofs.Cache.Accounts
import FeatureFlags.Proofs.Cache.Bookkeeping
import FeatureFlags.Proofs.Cache.Deployment
import FeatureFlags.Proofs.Snapshot.Batch

/-!
A cache from the making of it on, with readers that evaluate one flag after the other while
everything else goes on. Whenever nothing is under way, its metrics agree with what refreshes
and evaluations have returned.
-/

namespace FeatureFlags

open Ledger

namespace Query

def load (s : Snapshot) : Query → Nat
  | evaluation _ => 1
  | batch request => request.entities.length * (request.references s).length
  | _ => 0

end Query

namespace Answer

variable [PatternEngine]

def results : Answer → List (Except EvalError EvalResult)
  | evaluation result => [result]
  | batch results => results
  | _ => []

theorem results_answerOn (q : Query) (s : Snapshot) :
    (q.answerOn s).results = (q.contexts s).map s.evaluate := by
  cases q <;> rfl

theorem length_results_answerOn (q : Query) (s : Snapshot) :
    (q.answerOn s).results.length = q.load s := by
  cases q with
  | batch request => exact Snapshot.length_evaluateBatch
  | _ => rfl

end Answer

/-- What somebody asked, of which snapshot, and the answer. -/
structure Reply where
  query : Query
  held : Snapshot
  answer : Answer

/-- What is seen of a cache, of its loops and of its readers. -/
inductive Sign (Task Loop : Type) where
  | noticed (x : Notice Task Loop)
  | dropped (l : Loop)
  | marked
  | took (q : Query) (held : Snapshot)
  /-- A reader evaluates one flag of those it was asked for. -/
  | counted (result : Except EvalError EvalResult)
  | answered (r : Reply)

/-- A deployment, and the readers that are on their way to an answer. -/
structure Traffic (Task Loop : Type) extends Deployment Task Loop where
  readings : List Reading

section Signs

variable {Task Loop : Type}

def Notice.reply? : Notice Task Loop → Option Reply
  | asked q s a => some ⟨q, s, a⟩
  | evaluated held context result => some ⟨.evaluation context, held, .evaluation result⟩
  | _ => none

def Notice.results (x : Notice Task Loop) : List (Except EvalError EvalResult) :=
  x.reply?.toList.flatMap fun r => r.answer.results

namespace Sign

def event : Sign Task Loop → Event (Refresher Task Loop)
  | noticed x => x.event
  | dropped l => .abandoned (.loop l)
  | took _ held => .read held
  | _ => .aside

def results : Sign Task Loop → List (Except EvalError EvalResult)
  | noticed x => x.results
  | counted result => [result]
  | _ => []

def reply? : Sign Task Loop → Option Reply
  | noticed x => x.reply?
  | answered r => some r
  | _ => none

end Sign

end Signs

namespace Traffic

variable [PatternEngine] {Task Loop : Type}

def fresh (validator : Option Validator) : Traffic Task Loop :=
  ⟨.loaded (.create validator), []⟩

structure Quiet (t : Traffic Task Loop) : Prop where
  refreshes : ∀ p, t.underway p = none
  readings : t.readings = []

def events (history : List (Sign Task Loop)) : List (Event (Refresher Task Loop)) :=
  history.map Sign.event

def returned (history : List (Sign Task Loop)) : List (Except CacheError RefreshStats) :=
  (events history).filterMap Event.returned?

def replies (history : List (Sign Task Loop)) : List Reply :=
  history.filterMap Sign.reply?

def results (history : List (Sign Task Loop)) : List (Except EvalError EvalResult) :=
  (replies history).flatMap fun r => r.answer.results

def evaluated (history : List (Sign Task Loop)) : List (Except EvalError EvalResult) :=
  history.flatMap Sign.results

variable [DecidableEq Task] [DecidableEq Loop]

/-- One step of anybody. A reader takes a snapshot, evaluates one flag after the other on it, and
answers when none is left. -/
inductive Step : Traffic Task Loop → Sign Task Loop → Traffic Task Loop → Prop
  | notice {t x d} (hstep : Deployment.Step t.toDeployment x d) (hgenuine : x.event.Genuine) :
      Step t (.noticed x) { t with toDeployment := d }
  /-- A loop is dropped as a whole, as it is when its runtime shuts down. -/
  | drop {t l loop job} (hloop : t.loops l = some loop)
      (hcurrent : loop.current = some (job, .fetching)) :
      Step t (.dropped l) { t with toService := t.toService.setLoop l t.cache.abandon none }
  | mark {t} : Step t .marked { t with cache := t.cache.markReady }
  | take {t} (q : Query) :
      Step t (.took q t.cache.snapshot)
        { t with readings :=
            t.readings ++ [⟨q, t.cache.snapshot, q.contexts t.cache.snapshot, []⟩] }
  | evaluate {t r context rest after} (before : List Reading)
      (hreadings : t.readings = before ++ r :: after) (hpending : r.pending = context :: rest) :
      Step t (.counted (t.cache.evaluateOn r.held context).2)
        { t with
          cache := (t.cache.evaluateOn r.held context).1
          readings := before ++ { r with
            pending := rest
            results := r.results ++ [(t.cache.evaluateOn r.held context).2] } :: after }
  | answer {t r after a} (before : List Reading)
      (hreadings : t.readings = before ++ r :: after) (hanswer : r.answer? = some a) :
      Step t (.answered ⟨r.query, r.held, a⟩) { t with readings := before ++ after }

abbrev Run : Traffic Task Loop → List (Sign Task Loop) → Traffic Task Loop → Prop :=
  Execution Step

end Traffic

section Counting

variable [PatternEngine]

theorem Cache.ask_metrics (c : Cache) (q : Query) : (c.ask q).1.metrics =
    (c.ask q).2.results.foldl Metrics.recordEvaluation c.metrics := by
  cases q <;> rfl

variable {Task Loop : Type} [DecidableEq Task] [DecidableEq Loop]

theorem Deployment.Step.ofTraffic {d d' : Deployment Task Loop} {x : Notice Task Loop}
    (hstep : Step d x d') : d'.cache.metrics.ofTraffic =
      (x.results.foldl Metrics.recordEvaluation
        (d.cache.metrics.recordEvent x.event)).ofTraffic := by
  cases hstep with
  | begin hfree hacquire =>
      obtain ⟨-, rfl⟩ := Cache.acquire_eq_some_iff.mp hacquire
      rfl
  | proceed fetched hrefresh hstep =>
      rw [Notice.event, Refresh.map_event]
      exact Refresh.step_ofTraffic hstep
  | @desk l k x k' hdesk hstep =>
      obtain ⟨loop, hloop, rfl⟩ := exists_loop_of_desk? hdesk
      rw [Notice.event]
      have hbeginning : ∀ job, d.cache.metrics.recordEvent
          ((d.cache.beginning job).event l : Event (Refresher Task Loop)) = d.cache.metrics := by
        intro job
        rw [Cache.beginning]
        split <;> rfl
      cases hstep with
      | tick hidle =>
          rw [hbeginning]
          change (Serving.tick ⟨d.cache, loop⟩).cache.metrics.ofTraffic = d.cache.metrics.ofTraffic
          rw [Serving.tick, if_pos hidle, Serving.begin_metrics]
      | @take n rest hidle hinbox =>
          rw [hbeginning]
          change (Serving.take ⟨d.cache, loop⟩).cache.metrics.ofTraffic = d.cache.metrics.ofTraffic
          rw [Serving.take, if_pos hidle]
          simp only [show loop.inbox = .refresh n :: rest from hinbox, Serving.begin_metrics]
      | resume fetched hcurrent =>
          rw [event_call]
          exact Serving.resume_ofTraffic fetched hcurrent
      | finish hidle hfinished =>
          rw [Desk.setServing, Desk.take_loop_of_finished hidle hfinished]
          rfl
      | _ => rfl
  | ask q =>
      rw [Notice.results, Notice.reply?, Option.toList_some, List.flatMap_singleton]
      exact congrArg Metrics.ofTraffic (d.cache.ask_metrics q)
  | _ => rfl

end Counting

namespace Reading

variable [PatternEngine] {r : Reading} {a : Answer}

/-- What was evaluated and what is pending is what was asked, on the snapshot that was taken. -/
def Keeps (r : Reading) : Prop :=
  r.results ++ r.pending.map r.held.evaluate = (r.query.contexts r.held).map r.held.evaluate

theorem Keeps.evaluate {context : Context} {rest : List Context} (h : r.Keeps)
    (hpending : r.pending = context :: rest) :
    Keeps { r with pending := rest, results := r.results ++ [r.held.evaluate context] } := by
  rw [Keeps, hpending, List.map_cons, List.append_cons] at h
  exact h

theorem Keeps.results_eq (h : r.Keeps) (hanswer : r.answer? = some a) : a.results = r.results := by
  have hpending : r.pending = [] := by
    rw [answer?] at hanswer
    split at hanswer <;> first | assumption | cases hanswer
  rw [answer_eq h hanswer, Answer.results_answerOn, ← h, hpending, List.map_nil, List.append_nil]

end Reading

def Reply.Right [PatternEngine] (r : Reply) : Prop :=
  r.answer = r.query.answerOn r.held

theorem Deployment.Step.reply_right [PatternEngine] {Task Loop : Type} [DecidableEq Task]
    [DecidableEq Loop] {d d' : Deployment Task Loop} {x : Notice Task Loop} (hstep : Step d x d') :
    ∀ r ∈ x.reply?, r.Right := by
  cases hstep with
  | ask q =>
      rintro r ⟨⟩
      exact d.cache.ask_snd q
  | evaluate held context =>
      rintro r ⟨⟩
      rfl
  | _ => exact fun r hr => nomatch hr

namespace Traffic

variable {Task Loop : Type}

section History

variable (history : List (Sign Task Loop)) (x : Sign Task Loop)

theorem events_snoc : events (history ++ [x]) = events history ++ [x.event] := by
  simp [events]

theorem returned_snoc :
    returned (history ++ [x]) = returned history ++ x.event.returned?.toList := by
  rw [returned, events_snoc, List.filterMap_append, returned]
  cases h : x.event.returned? <;> simp [h]

theorem replies_snoc : replies (history ++ [x]) = replies history ++ x.reply?.toList := by
  cases h : x.reply? <;> simp [replies, h]

theorem results_snoc : results (history ++ [x]) =
    results history ++ x.reply?.toList.flatMap fun r => r.answer.results := by
  rw [results, replies_snoc, List.flatMap_append, results]

theorem evaluated_snoc : evaluated (history ++ [x]) = evaluated history ++ x.results := by
  simp [evaluated]

end History

variable {t t' : Traffic Task Loop} {x : Sign Task Loop} {history : List (Sign Task Loop)}
  {validator : Option Validator}

variable [PatternEngine]

/-- What the readers have under way, and what has been answered. -/
structure Served (history : List (Sign Task Loop)) (t : Traffic Task Loop) : Prop where
  keeps : ∀ r ∈ t.readings, r.Keeps
  right : ∀ r ∈ replies history, r.Right
  made : (evaluated history).Perm (results history ++ t.readings.flatMap Reading.results)

theorem Served.aside (h : Served history t) (hreadings : t'.readings = t.readings)
    (hreply : x.reply? = none) (hresults : x.results = []) : Served (history ++ [x]) t' := by
  refine ⟨hreadings ▸ h.keeps, ?_, ?_⟩
  · simpa [replies_snoc, hreply] using h.right
  · simpa [evaluated_snoc, results_snoc, hreply, hresults, hreadings] using h.made

variable [DecidableEq Task] [DecidableEq Loop]

theorem Step.ledger (hstep : Step t x t') : Ledger.Step t.ledger x.event t'.ledger := by
  cases hstep with
  | notice hstep hgenuine => exact hstep.ledger
  | drop hloop hcurrent => exact (Service.Step.drop hloop hcurrent).ledger
  | mark => exact Service.Step.markReady.ledger
  | take q => exact .read
  | @evaluate r context rest after before hreadings hpending =>
      exact (Service.Step.evaluate r.held context).ledger
  | answer before hreadings hanswer => exact .aside

theorem Step.genuine (hstep : Step t x t') : x.event.Genuine := by
  cases hstep with
  | notice hstep hgenuine => exact hgenuine
  | _ => trivial

theorem Step.ofTraffic (hstep : Step t x t') : t'.cache.metrics.ofTraffic =
    (x.results.foldl Metrics.recordEvaluation
      (t.cache.metrics.recordEvent x.event)).ofTraffic := by
  cases hstep with
  | notice hstep hgenuine => exact hstep.ofTraffic
  | _ => rfl

theorem Step.served (h : Served history t) (hstep : Step t x t') :
    Served (history ++ [x]) t' := by
  obtain ⟨hkeeps, hright, hmade⟩ := h
  cases hstep with
  | @notice x d hstep hgenuine =>
      refine ⟨hkeeps, ?_, ?_⟩
      · rw [replies_snoc, List.forall_mem_append]
        exact ⟨hright, fun r hr => hstep.reply_right r (Option.mem_toList.mp hr)⟩
      · rw [evaluated_snoc, results_snoc, List.append_assoc]
        refine (hmade.append_right _).trans ?_
        rw [List.append_assoc]
        exact List.perm_append_comm.append_left _
  | drop hloop hcurrent => exact .aside ⟨hkeeps, hright, hmade⟩ rfl rfl rfl
  | mark => exact .aside ⟨hkeeps, hright, hmade⟩ rfl rfl rfl
  | take q =>
      refine ⟨?_, ?_, ?_⟩
      · exact List.forall_mem_append.mpr ⟨hkeeps, List.forall_mem_singleton.mpr rfl⟩
      · simpa [replies_snoc, Sign.reply?] using hright
      · simpa [evaluated_snoc, results_snoc, Sign.reply?, Sign.results] using hmade
  | @evaluate r context rest after before hreadings hpending =>
      rw [hreadings] at hkeeps hmade
      refine ⟨?_, ?_, ?_⟩
      · simp only [List.forall_mem_append, List.forall_mem_cons] at hkeeps ⊢
        exact ⟨hkeeps.1, hkeeps.2.1.evaluate hpending, hkeeps.2.2⟩
      · simpa [replies_snoc, Sign.reply?] using hright
      · rw [evaluated_snoc]
        refine (hmade.append_right _).trans ?_
        simp only [results_snoc, Sign.reply?, Sign.results, Option.toList_none, List.flatMap_nil,
          List.flatMap_append, List.flatMap_cons, List.append_assoc, List.append_nil]
        exact ((List.perm_append_comm.append_left _).append_left _).append_left _
  | @answer r after a before hreadings hanswer =>
      rw [hreadings] at hkeeps hmade
      simp only [List.forall_mem_append, List.forall_mem_cons] at hkeeps
      obtain ⟨hbefore, hr, hafter⟩ := hkeeps
      refine ⟨List.forall_mem_append.mpr ⟨hbefore, hafter⟩, ?_, ?_⟩
      · rw [replies_snoc, List.forall_mem_append]
        exact ⟨hright, List.forall_mem_singleton.mpr (Reading.answer_eq hr hanswer)⟩
      · rw [evaluated_snoc]
        simp only [results_snoc, Sign.reply?, Sign.results, Option.toList_some,
          List.flatMap_append, List.flatMap_cons, List.append_assoc, List.append_nil,
          hr.results_eq hanswer] at hmade ⊢
        exact hmade.trans ((List.perm_append_comm_assoc _ _ _).append_left _)

structure Counted (history : List (Sign Task Loop)) (t : Traffic Task Loop) : Prop where
  balanced : Balanced (events history) t.ledger
  gauged : Gauged t.ledger t.cache.metrics.flags
  refreshes : Metrics.OfRefreshes (returned history) t.cache.metrics
  evaluations : Metrics.OfEvaluations (evaluated history) t.cache.metrics

theorem Step.gauge (hstep : Step t x t') :
    t'.cache.metrics.flags = x.event.gauge t.cache.metrics.flags := by
  have hflags := congrArg Metrics.flags hstep.ofTraffic
  rw [Metrics.foldl_recordEvaluation_eq] at hflags
  simp only [Metrics.ofTraffic] at hflags
  rw [hflags]
  cases x.event with
  | ended p result => cases result <;> rfl
  | _ => rfl

theorem Step.counted (h : Counted history t) (hstep : Step t x t') :
    Counted (history ++ [x]) t' := by
  refine ⟨?_, ?_, ?_, ?_⟩
  · rw [events_snoc]
    exact h.balanced.step hstep.ledger
  · rw [hstep.gauge]
    exact h.gauged.step h.balanced hstep.genuine hstep.ledger
  · rw [returned_snoc]
    have hevent := h.refreshes.recordEvent (h.gauged.not_turnedAway hstep.ledger)
    exact (hevent.recordEvaluations x.results).congr hstep.ofTraffic
  · rw [evaluated_snoc]
    have hevent := h.evaluations.recordEvent x.event
    exact (hevent.recordEvaluations x.results).congr hstep.ofTraffic

theorem Run.counted (hrun : Run (fresh validator) history t) :
    Counted history t ∧ Served history t := by
  induction hrun with
  | nil =>
      refine ⟨⟨Service.balanced_unloaded validator, .of_idle ?_ ?_, Metrics.ofRefreshes_zero,
        Metrics.ofEvaluations_zero⟩, ?_⟩
      · intro p
        cases p <;> rfl
      · rintro n ⟨⟩
      · exact ⟨by simp [fresh], by simp [replies], .nil⟩
  | snoc hrun hstep ih => exact ⟨hstep.counted ih.1, hstep.served ih.2⟩

/-- The metrics agree with what refreshes and evaluations have returned. -/
structure Accounts (history : List (Sign Task Loop)) (t : Traffic Task Loop) : Prop where
  succeeded : t.cache.metrics.refreshSuccess = (returned history).countP (·.isOk)
  failed : t.cache.metrics.refreshFailure = (returned history).countP RefreshStats.isFailure
  timed : t.cache.metrics.refreshDurations =
    (returned history).countP (·.isOk) + (returned history).countP RefreshStats.isFailure
  flags : ∀ n, t.cache.metrics.flags = some n → n = t.cache.snapshot.flags.length
  set : t.cache.metrics.flags.isSome ↔ ∃ stats, .ok stats ∈ returned history
  evaluations : ∀ flagId variantId, t.cache.metrics.evaluations.count ⟨flagId, variantId⟩ =
    (results history).countP (Outcome.isOf ⟨flagId, variantId⟩)
  errors : t.cache.metrics.evaluationErrors = (results history).countP (!·.isOk)
  /-- Everybody has the answer of the snapshot that was taken, with as many entries as were asked
  for. -/
  answered : ∀ r ∈ replies history,
    r.answer = r.query.answerOn r.held ∧ r.answer.results.length = r.query.load r.held
  /-- A batch is counted as often as it has entities times references. -/
  total : t.cache.metrics.evaluations.total + t.cache.metrics.evaluationErrors =
    ((replies history).map fun r => r.query.load r.held).sum

omit [DecidableEq Task] [DecidableEq Loop] in
theorem Accounts.flags_eq (h : Accounts history t) (stats : RefreshStats)
    (hstats : .ok stats ∈ returned history) :
    t.cache.metrics.flags = some t.cache.snapshot.flags.length := by
  obtain ⟨n, hn⟩ := Option.isSome_iff_exists.mp (h.set.mpr ⟨stats, hstats⟩)
  rw [hn, h.flags n hn]

/-- Whenever no refresh and no evaluation is under way, the metrics agree with the history. -/
theorem accounts_of_run (hrun : Run (fresh validator) history t) (hquiet : t.Quiet) :
    Accounts history t := by
  obtain ⟨⟨-, hgauged, hrefreshes, hevaluations⟩, -, hright, hmade⟩ := hrun.counted
  rw [hquiet.readings, List.flatMap_nil, List.append_nil] at hmade
  replace hevaluations := hevaluations.perm hmade
  have hlength : ∀ r ∈ replies history, r.answer.results.length = r.query.load r.held := by
    intro r hr
    rw [hright r hr, Answer.length_results_answerOn]
  constructor
  case succeeded => exact hrefreshes.succeeded
  case failed => exact hrefreshes.failed
  case timed => rw [hrefreshes.timed, hrefreshes.succeeded, hrefreshes.failed]
  case flags => exact fun n hn => hgauged.idle hquiet.refreshes n hn
  case set =>
    rw [hrefreshes.set, hrefreshes.succeeded, List.countP_pos_iff]
    constructor
    · rintro ⟨result, hresult, hok⟩
      cases result with
      | ok stats => exact ⟨stats, hresult⟩
      | error e => cases hok
    · rintro ⟨stats, hstats⟩
      exact ⟨.ok stats, hstats, rfl⟩
  case evaluations => exact fun flagId variantId => hevaluations.evaluations _
  case errors => exact hevaluations.errors
  case answered => exact fun r hr => ⟨hright r hr, hlength r hr⟩
  case total =>
    calc
      _ = (results history).countP (·.isOk) + (results history).countP (!·.isOk) := by
        rw [hevaluations.total, hevaluations.errors]
      _ = (results history).length := by
        rw [List.length_eq_countP_add_countP (·.isOk)]
        simp
      _ = ((replies history).map fun r => r.answer.results.length).sum := List.length_flatMap
      _ = _ := by rw [List.map_congr_left hlength]

/-- A cache of which nothing is known but that somebody refreshes it. -/
def refreshedBy (loader : Task) (c : Cache) (r : Option Refresh) : Traffic Task Loop :=
  ⟨(Deployment.loaded c).setRefresh loader c r, []⟩

omit [PatternEngine] [DecidableEq Loop] in
theorem refreshedBy_none (loader : Task) (c : Cache) :
    refreshedBy loader c none = (⟨.loaded c, []⟩ : Traffic Task Loop) := by
  simp [refreshedBy, Deployment.setRefresh, Service.setRefresh, Deployment.loaded]

theorem Run.proceed {start : Traffic Task Loop} {loader : Task} {c c' : Cache} {r : Refresh}
    {next : Refresh ⊕ Except CacheError RefreshStats}
    (hrun : Run start history (refreshedBy loader c (some r))) (fetched : Fetched)
    (hgenuine : (r.event (Refresher.caller loader : Refresher Task Loop) fetched).Genuine)
    (hstep : r.step c fetched = (c', next)) :
    Run start (history ++ [.noticed (.caller loader (r.event () fetched))])
      (refreshedBy loader c' next.getLeft?) := by
  have hproceed : Deployment.Step (refreshedBy loader c (some r)).toDeployment
      (.caller loader (r.event () fetched))
      ((refreshedBy loader c (some r) : Traffic Task Loop).setRefresh loader c' next.getLeft?) :=
    .proceed fetched (Function.update_self ..) hstep
  have hsame : (refreshedBy loader c (some r) : Traffic Task Loop).setRefresh loader c'
      next.getLeft? = (refreshedBy loader c' next.getLeft? : Traffic Task Loop).toDeployment := by
    simp [refreshedBy, Deployment.setRefresh, Service.setRefresh, Deployment.loaded]
  rw [hsame] at hproceed
  refine hrun.snoc (.notice hproceed ?_)
  rw [Notice.event, Refresh.map_event]
  exact hgenuine

theorem exists_run_of_load (loader : Task) {flags : List Flag} {c : Cache} {stats : RefreshStats}
    (hload : Cache.load validator (.ok flags) = (c, .ok stats)) :
    ∃ history, Run (fresh validator) history (⟨.loaded c, []⟩ : Traffic Task Loop) ∧
      returned history = [.ok stats] ∧ replies history = [] := by
  obtain ⟨hbuild, rfl, -⟩ := Cache.load_eq_ok hload
  let held : Cache := { Cache.create validator with refreshing := true }
  have hprepare : (Refresh.preparing flags 1).step held.draw (.ok flags) =
      ((held.draw.prepare flags 1).1, .inl (.publishing c.snapshot)) := by
    rw [Refresh.step_preparing, hbuild]
  have hc : c = (((held.draw.prepare flags 1).1.publish c.snapshot).finish
      (.ok c.snapshot.stats)).markReady := by
    have hrefresh : (Cache.create validator).refresh (.ok flags) =
        (Refresh.preparing flags 1).run held.draw (.ok flags) := Refresh.run_fetching_ok held flags
    rw [Cache.load, hrefresh, Refresh.run_preparing_of_build_eq_ok hbuild] at hload
    exact (Prod.mk.inj hload).1.symm
  have h1 : Run (fresh validator) ([] ++ [.noticed (.caller loader (.began ()))])
      (refreshedBy loader held (some .fetching) : Traffic Task Loop) :=
    .snoc .nil (.notice (.begin rfl rfl) trivial)
  have h2 := h1.proceed (.ok flags) trivial rfl
  have h3 := h2.proceed (.ok flags) trivial hprepare
  have h4 := h3.proceed (.ok flags) trivial rfl
  have h5 := h4.proceed (.ok flags) trivial rfl
  simp only [Sum.getLeft?_inr, refreshedBy_none] at h5
  have hmark : ∀ c : Cache,
      Step (⟨.loaded c, []⟩ : Traffic Task Loop) .marked ⟨.loaded c.markReady, []⟩ := fun _ => .mark
  have h6 := h5.snoc (hmark _)
  rw [← hc] at h6
  exact ⟨_, h6, rfl, rfl⟩

end Traffic

namespace Traffic

/-- Two entities, each with a flag that there is and one that there is not. -/
def pairs : BatchRequest :=
  ⟨[⟨"ann", "", []⟩, ⟨"bob", "", []⟩], [1, 9], [], [], .any, false⟩

theorem accounts_of_pairs : ∃ (history : List (Sign Nat Nat)) (t : Traffic Nat Nat),
    Run (fresh none) history t ∧ t.Quiet ∧ Accounts history t ∧
      t.cache.metrics.refreshSuccess = 1 ∧ t.cache.metrics.refreshFailure = 1 ∧
      t.cache.metrics.flags = some 1 ∧
      t.cache.metrics.evaluations.total + t.cache.metrics.evaluationErrors = 4 := by
  obtain ⟨s, hbuild⟩ : ∃ s, (Snapshot.build [.plain 1 "a" []] 1).2 = .ok s := by
    simp [Snapshot.exists_build_eq_ok_iff]
  obtain ⟨c, hload⟩ := Cache.exists_load_eq_ok none hbuild
  obtain ⟨loading, hloading, hreturned, hreplies⟩ :
      ∃ loading, Run (fresh none) loading (⟨.loaded c, []⟩ : Traffic Nat Nat) ∧
        returned loading = [.ok s.stats] ∧ replies loading = [] :=
    exists_run_of_load 0 hload
  obtain ⟨hbuilt, -, -, hfree, -⟩ := Cache.load_eq_ok hload
  obtain ⟨snapshot, generation, refreshing, ready, validator, metrics, events⟩ := c
  obtain rfl : refreshing = false := hfree
  have hlength : snapshot.flags.length = 1 := Snapshot.length_flags_of_build hbuilt
  have h1 := hloading.snoc (.notice (.start (l := 0) rfl) trivial)
  have h2 := h1.snoc (.notice (.begin (t := 0) rfl rfl) trivial)
  have h3 := h2.snoc (.notice (.desk (l := 0) rfl (.tick rfl)) trivial)
  have h4 := h3.snoc (.take (.batch pairs))
  have h5 := h4.snoc (.evaluate [] rfl rfl)
  have h6 := h5.snoc (.notice (.proceed (t := 0) (.error (.timeout ⟨500⟩)) rfl rfl)
    (.inr ⟨_, rfl⟩))
  have h7 := h6.snoc (.evaluate [] rfl rfl)
  have h8 := h7.snoc (.notice (.proceed (t := 0) (.ok []) rfl rfl) trivial)
  have h9 := h8.snoc (.evaluate [] rfl rfl)
  have h10 := h9.snoc (.evaluate [] rfl rfl)
  have h11 := h10.snoc (.answer [] rfl rfl)
  have hquiet := (Run.counted h11).1.balanced.holding.eq_none_of_free rfl
  have haccounts := accounts_of_run h11 ⟨hquiet, rfl⟩
  refine ⟨_, _, h11, ⟨hquiet, rfl⟩, haccounts, ?_, ?_, ?_, ?_⟩
  · rw [haccounts.succeeded]
    simp only [returned_snoc, hreturned]
    rfl
  · rw [haccounts.failed]
    simp only [returned_snoc, hreturned]
    rfl
  · refine (haccounts.flags_eq s.stats ?_).trans (congrArg some hlength)
    simp only [returned_snoc, hreturned]
    exact .head _
  · rw [haccounts.total]
    simp only [replies_snoc, hreplies]
    rfl

end Traffic

end FeatureFlags
