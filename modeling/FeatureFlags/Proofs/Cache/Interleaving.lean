import FeatureFlags.Proofs.Cache.Refresh
import Mathlib.Logic.Function.Basic

/-!
A cache in the hands of any number of tasks. Every task may refresh the cache and read
from it, step by step, and the steps of different tasks follow each other in any order.
A run keeps what was done as its history.
-/

namespace FeatureFlags

inductive Query where
  | snapshot
  | flag (ref : FlagRef)
  | tagged (tags : List String) (op : TagOperator)
  | evaluation (context : Context)
  | batch (request : BatchRequest)

inductive Answer where
  | snapshot (s : Snapshot)
  | flag (found : Option PreparedFlag)
  | tagged (found : List PreparedFlag)
  | evaluation (result : Except EvalError EvalResult)
  | batch (results : List (Except EvalError EvalResult))

namespace Query

variable [PatternEngine]

def answerOn (s : Snapshot) : Query → Answer
  | snapshot => .snapshot s
  | flag ref => .flag (s.get? ref)
  | tagged tags op => .tagged (s.getByTags tags op)
  | evaluation context => .evaluation (s.evaluate context)
  | batch request => .batch (s.evaluateBatch request)

def contexts (s : Snapshot) : Query → List Context
  | evaluation context => [context]
  | batch request => request.contexts s
  | _ => []

end Query

/-- A reader that took a snapshot and has not answered yet. -/
structure Reading where
  query : Query
  held : Snapshot
  pending : List Context
  results : List (Except EvalError EvalResult)

namespace Reading

variable [PatternEngine]

def answer? (r : Reading) : Option Answer :=
  match r.pending, r.query with
  | _ :: _, _ => none
  | [], .snapshot => some (.snapshot r.held)
  | [], .flag ref => some (.flag (r.held.get? ref))
  | [], .tagged tags op => some (.tagged (r.held.getByTags tags op))
  | [], .evaluation _ => r.results.head?.map .evaluation
  | [], .batch _ => some (.batch r.results)

theorem answer_eq {r : Reading} {answer : Answer}
    (hevaluated : r.results ++ r.pending.map r.held.evaluate =
      (r.query.contexts r.held).map r.held.evaluate)
    (hanswer : r.answer? = some answer) : answer = r.query.answerOn r.held := by
  obtain ⟨query, held, pending, results⟩ := r
  cases pending with
  | cons context rest => simp [answer?] at hanswer
  | nil =>
      simp only [List.map_nil, List.append_nil] at hevaluated
      subst hevaluated
      cases query <;>
        simp only [answer?, Query.contexts, List.map_cons, List.map_nil, List.head?_cons,
          Option.map_some, Option.some.injEq] at hanswer <;>
        exact hanswer.symm

end Reading

inductive Action (Task : Type) where
  /-- Asks for a refresh while another one holds the permit. -/
  | reject (t : Task)
  | begin (t : Task)
  | fetch (t : Task) (outcome : Fetched)
  | abandon (t : Task)
  | prepare (t : Task)
  | swap (t : Task)
  | finish (t : Task) (result : Except CacheError RefreshStats)
  | take (t : Task) (query : Query) (held : Snapshot)
  | evaluate (t : Task)
  | answer (t : Task) (answer : Answer)

def Refresh.action {Task : Type} (t : Task) (fetched : Fetched) : Refresh → Action Task
  | fetching => .fetch t fetched
  | preparing .. => .prepare t
  | publishing _ => .swap t
  | finishing result => .finish t result

theorem Refresh.action_ne_take {Task : Type} {t t' : Task} {fetched : Fetched} {r : Refresh}
    {query : Query} {held : Snapshot} : Action.take t' query held ≠ r.action t fetched := by
  cases r <;> simp [action]

theorem Refresh.action_ne_answer {Task : Type} {t t' : Task} {fetched : Fetched}
    {r : Refresh} {answer : Answer} : Action.answer t' answer ≠ r.action t fetched := by
  cases r <;> simp [action]

/-- A cache, and what its tasks have under way. -/
structure SharedCache (Task : Type) where
  cache : Cache
  refreshes : Task → Option Refresh
  readings : Task → Option Reading

namespace SharedCache

variable {Task : Type}

def idle (c : Cache) : SharedCache Task :=
  ⟨c, fun _ => none, fun _ => none⟩

variable [DecidableEq Task]

def setRefresh (s : SharedCache Task) (t : Task) (c : Cache) (r : Option Refresh) :
    SharedCache Task :=
  { s with cache := c, refreshes := Function.update s.refreshes t r }

def setReading (s : SharedCache Task) (t : Task) (c : Cache) (r : Option Reading) :
    SharedCache Task :=
  { s with cache := c, readings := Function.update s.readings t r }

section Fields

variable (s : SharedCache Task) (t : Task) (c : Cache) (r : Option Refresh)
  (reading : Option Reading)

@[simp]
theorem setRefresh_cache : (s.setRefresh t c r).cache = c := rfl

@[simp]
theorem setRefresh_readings : (s.setRefresh t c r).readings = s.readings := rfl

@[simp]
theorem setRefresh_refreshes :
    (s.setRefresh t c r).refreshes = Function.update s.refreshes t r := rfl

@[simp]
theorem setReading_cache : (s.setReading t c reading).cache = c := rfl

@[simp]
theorem setReading_refreshes : (s.setReading t c reading).refreshes = s.refreshes := rfl

@[simp]
theorem setReading_readings :
    (s.setReading t c reading).readings = Function.update s.readings t reading := rfl

end Fields

variable [PatternEngine]

/-- One step of one task. Refreshes proceed by `Refresh.step`, readers keep the snapshot
that they took until they answer. -/
inductive Step : SharedCache Task → Action Task → SharedCache Task → Prop
  | reject {s t} (hfree : s.refreshes t = none) (htaken : s.cache.acquire = none) :
      Step s (.reject t) s
  | begin {s t c} (hfree : s.refreshes t = none) (hacquire : s.cache.acquire = some c) :
      Step s (.begin t) (s.setRefresh t c (some .fetching))
  | proceed {s t r fetched a c next} (hrefresh : s.refreshes t = some r)
      (haction : a = r.action t fetched) (hstep : r.step s.cache fetched = (c, next)) :
      Step s a (s.setRefresh t c next.getLeft?)
  | abandon {s t} (hrefresh : s.refreshes t = some .fetching) :
      Step s (.abandon t) (s.setRefresh t s.cache.abandon none)
  | take {s t query} (hfree : s.readings t = none) :
      Step s (.take t query s.cache.snapshot)
        (s.setReading t s.cache
          (some ⟨query, s.cache.snapshot, query.contexts s.cache.snapshot, []⟩))
  | evaluate {s t r context rest c result} (hreading : s.readings t = some r)
      (hpending : r.pending = context :: rest)
      (heval : s.cache.evaluateOn r.held context = (c, result)) :
      Step s (.evaluate t)
        (s.setReading t c
          (some { r with pending := rest, results := r.results ++ [result] }))
  | answer {s t r answer} (hreading : s.readings t = some r)
      (hanswer : r.answer? = some answer) :
      Step s (.answer t answer) (s.setReading t s.cache none)

theorem Step.held_eq {s s' : SharedCache Task} {t : Task} {query : Query} {held : Snapshot}
    (hstep : Step s (.take t query held) s') : held = s.cache.snapshot := by
  cases hstep with
  | proceed _ haction _ => exact absurd haction Refresh.action_ne_take
  | take hfree => rfl

theorem Step.exists_reading {s s' : SharedCache Task} {t : Task} {answer : Answer}
    (hstep : Step s (.answer t answer) s') :
    ∃ r, s.readings t = some r ∧ r.answer? = some answer := by
  cases hstep with
  | proceed _ haction _ => exact absurd haction Refresh.action_ne_answer
  | answer hreading hanswer => exact ⟨_, hreading, hanswer⟩

/-- Steps of any tasks in any order, with the history of what was done. -/
inductive Run (s : SharedCache Task) : List (Action Task) → SharedCache Task → Prop
  | nil : Run s [] s
  | snoc {history m a s'} (hrun : Run s history m) (hstep : Step m a s') :
      Run s (history ++ [a]) s'

theorem Run.append {s m s' : SharedCache Task} {first second : List (Action Task)}
    (hfirst : Run s first m) (hsecond : Run m second s') : Run s (first ++ second) s' := by
  induction hsecond with
  | nil => simpa using hfirst
  | snoc hrun hstep ih =>
      rw [← List.append_assoc]
      exact ih.snoc hstep

theorem Run.cut {s s' : SharedCache Task} {before after : List (Action Task)}
    {a : Action Task} (hrun : Run s (before ++ a :: after) s') :
    ∃ m m', Run s before m ∧ Step m a m' ∧ Run m' after s' := by
  -- the last action is that of the run's last step, or lies in the rest of the history
  generalize hhistory : before ++ a :: after = history at hrun
  induction hrun generalizing after with
  | nil => simp at hhistory
  | @snoc history m b s' hrun hstep ih =>
      rcases List.eq_nil_or_concat after with rfl | ⟨init, last, rfl⟩
      · obtain ⟨rfl, hb⟩ := List.append_inj' hhistory rfl
        cases hb
        exact ⟨m, s', hrun, hstep, .nil⟩
      · have hsplit : (before ++ a :: init) ++ [last] = history ++ [b] := by
          simpa using hhistory
        obtain ⟨hinit, hlast⟩ := List.append_inj' hsplit rfl
        cases hlast
        obtain ⟨n, n', hbefore, hmid, hrest⟩ := ih hinit
        refine ⟨n, n', hbefore, hmid, ?_⟩
        rw [List.concat_eq_append]
        exact hrest.snoc hstep

section Uninterrupted

theorem exists_run_of_refreshing {t : Task} (r : Refresh) (fetched : Fetched)
    (s : SharedCache Task) (hrefresh : s.refreshes t = some r) :
    ∃ history, Run s (history ++ [.finish t (r.run s.cache fetched).2])
      (s.setRefresh t (r.run s.cache fetched).1 none) := by
  induction hleft : r.stepsLeft using Nat.strongRecOn generalizing r s with
  | ind n ih =>
      rcases hstep : r.step s.cache fetched with ⟨c, next | result⟩
      · have hrun : r.run s.cache fetched = next.run c fetched := by
          rw [Refresh.run, hstep]
        have hfirst : Run s ([] ++ [r.action t fetched]) (s.setRefresh t c (some next)) :=
          .snoc .nil (.proceed hrefresh rfl hstep)
        obtain ⟨history, hrest⟩ := ih next.stepsLeft (hleft ▸ Refresh.stepsLeft_step hstep)
          next (s.setRefresh t c (some next)) (Function.update_self ..) rfl
        refine ⟨[r.action t fetched] ++ history, ?_⟩
        rw [hrun, List.append_assoc]
        simpa [setRefresh] using hfirst.append hrest
      · have hrun : r.run s.cache fetched = (c, result) := by
          rw [Refresh.run, hstep]
        have haction : .finish t result = r.action t fetched := by
          cases r with
          | finishing result' =>
              cases hstep
              rfl
          | preparing flags generation => simp [Refresh.step_preparing] at hstep
          | fetching => cases fetched <;> simp [Refresh.step] at hstep
          | publishing s => simp [Refresh.step] at hstep
        refine ⟨[], ?_⟩
        rw [hrun]
        exact .snoc .nil (.proceed hrefresh haction hstep)

/-- A refresh with nothing in between is `Cache.refresh`. -/
theorem exists_run_refresh {s : SharedCache Task} {t : Task} {c : Cache} (fetched : Fetched)
    (hfree : s.refreshes t = none) (hacquire : s.cache.acquire = some c) :
    ∃ history, Run s (.begin t :: history ++ [.finish t (s.cache.refresh fetched).2])
      { s with cache := (s.cache.refresh fetched).1 } := by
  have hrefresh : s.cache.refresh fetched = Refresh.fetching.run c fetched := by
    rw [Cache.refresh, hacquire]
  have hbegin : Run s ([] ++ [.begin t]) (s.setRefresh t c (some .fetching)) :=
    .snoc .nil (.begin hfree hacquire)
  obtain ⟨history, hrest⟩ := exists_run_of_refreshing .fetching fetched
    (s.setRefresh t c (some .fetching)) (Function.update_self ..)
  refine ⟨history, ?_⟩
  have hupdate : Function.update s.refreshes t none = s.refreshes := by
    rw [← hfree, Function.update_eq_self]
  rw [hrefresh]
  simpa [setRefresh, hupdate] using hbegin.append hrest

theorem exists_run_of_reading {t : Task} (pending : List Context) (r : Reading)
    (s : SharedCache Task) (hreading : s.readings t = some { r with pending }) :
    ∃ history c, Run s history (s.setReading t c
        (some { r with pending := [], results := r.results ++ pending.map r.held.evaluate })) ∧
      c = { s.cache with
        metrics := (pending.map r.held.evaluate).foldl Metrics.recordEvaluation
          s.cache.metrics } := by
  induction pending generalizing r s with
  | nil =>
      refine ⟨[], s.cache, ?_, rfl⟩
      have hupdate : Function.update s.readings t (some { r with pending := [] }) =
          s.readings := by
        rw [← hreading, Function.update_eq_self]
      simpa [setReading, hupdate] using Run.nil
  | cons context rest ih =>
      let m := s.setReading t (s.cache.evaluateOn r.held context).1
        (some { r with pending := rest, results := r.results ++ [r.held.evaluate context] })
      have hfirst : Run s ([] ++ [.evaluate t]) m :=
        .snoc .nil (.evaluate (r := { r with pending := context :: rest }) hreading rfl rfl)
      obtain ⟨history, c, hrest, hc⟩ := ih
        { r with results := r.results ++ [r.held.evaluate context] } m
        (Function.update_self ..)
      refine ⟨[.evaluate t] ++ history, c, ?_, hc⟩
      simpa [m, setReading] using hfirst.append hrest

theorem exists_run_batch {s : SharedCache Task} {t : Task} (request : BatchRequest)
    (hfree : s.readings t = none) :
    ∃ history, Run s (.take t (.batch request) s.cache.snapshot :: history ++
        [.answer t (.batch (s.cache.evaluateBatch request).2)])
      { s with cache := (s.cache.evaluateBatch request).1 } := by
  let r : Reading :=
    ⟨.batch request, s.cache.snapshot, request.contexts s.cache.snapshot, []⟩
  let m := s.setReading t s.cache (some r)
  have htake : Run s ([] ++ [.take t (.batch request) s.cache.snapshot]) m :=
    .snoc .nil (.take hfree)
  obtain ⟨history, c, hrest, hc⟩ := exists_run_of_reading r.pending r m
    (Function.update_self ..)
  refine ⟨history, ?_⟩
  have hanswer := (htake.append hrest).snoc (.answer (Function.update_self ..) rfl)
  have hupdate : Function.update s.readings t none = s.readings := by
    rw [← hfree, Function.update_eq_self]
  subst hc
  simpa [m, r, setReading, hupdate, Cache.evaluateBatch, Snapshot.evaluateBatch]
    using hanswer

end Uninterrupted

end SharedCache

end FeatureFlags
