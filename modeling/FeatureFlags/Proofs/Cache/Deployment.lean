import FeatureFlags.Proofs.Cache.Interleaving
import FeatureFlags.Proofs.Cache.Replies

/-!
A loaded cache in use: callers refresh it directly, loops are started on it and asked for
refreshes, and anybody reads from it, in any order. What happens at the desk of one loop is a
run of that desk, and what is done to the cache shows in the books of refreshing.
-/

namespace FeatureFlags

/-- Steps one after the other, with what was noted of them. -/
inductive Execution {State Label : Type} (step : State → Label → State → Prop) (s : State) :
    List Label → State → Prop
  | nil : Execution step s [] s
  | snoc {history m x s'} (hrun : Execution step s history m) (hstep : step m x s') :
      Execution step s (history ++ [x]) s'

namespace Execution

variable {State Label : Type} {step : State → Label → State → Prop} {s m s' : State}

theorem append {first second : List Label} (hfirst : Execution step s first m)
    (hsecond : Execution step m second s') : Execution step s (first ++ second) s' := by
  induction hsecond with
  | nil => simpa using hfirst
  | snoc hrun hstep ih =>
      rw [← List.append_assoc]
      exact ih.snoc hstep

/-- An execution can be cut before and after each of its steps. -/
theorem cut {before after : List Label} {x : Label}
    (hrun : Execution step s (before ++ x :: after) s') :
    ∃ m m', Execution step s before m ∧ step m x m' ∧ Execution step m' after s' := by
  -- the step is the last one, or one of those before it
  generalize hhistory : before ++ x :: after = history at hrun
  induction hrun generalizing after with
  | nil => simp at hhistory
  | @snoc history m y s' hrun hstep ih =>
      rcases List.eq_nil_or_concat after with rfl | ⟨init, last, rfl⟩
      · obtain ⟨rfl, hx⟩ := List.append_inj' hhistory rfl
        cases hx
        exact ⟨m, s', hrun, hstep, .nil⟩
      · have hsplit : (before ++ x :: init) ++ [last] = history ++ [y] := by
          simpa using hhistory
        obtain ⟨hinit, hlast⟩ := List.append_inj' hsplit rfl
        cases hlast
        obtain ⟨n, n', hbefore, hmid, hrest⟩ := ih hinit
        refine ⟨n, n', hbefore, hmid, ?_⟩
        rw [List.concat_eq_append]
        exact hrest.snoc hstep

end Execution

namespace Cache

variable [PatternEngine]

def ask (c : Cache) : Query → Cache × Answer
  | .snapshot => (c, .snapshot c.snapshot)
  | .flag ref => (c, .flag (c.snapshot.get? ref))
  | .tagged tags op => (c, .tagged (c.snapshot.getByTags tags op))
  | .evaluation context => (c.evaluate context).map id .evaluation
  | .batch request => (c.evaluateBatch request).map id .batch

theorem ask_snd (c : Cache) (q : Query) : (c.ask q).2 = q.answerOn c.snapshot := by
  cases q <;> rfl

theorem ask_fst (c : Cache) (q : Query) :
    (c.ask q).1 = { c with metrics := (c.ask q).1.metrics } := by
  cases q <;> rfl

end Cache

def Event.map {Party Party' : Type} (f : Party → Party') : Event Party → Event Party'
  | rejected p => .rejected (f p)
  | began p => .began (f p)
  | fetched p outcome => .fetched (f p) outcome
  | prepared p => .prepared (f p)
  | published p s => .published (f p) s
  | ended p result => .ended (f p) result
  | abandoned p => .abandoned (f p)
  | read s => .read s
  | aside => .aside

theorem Refresh.map_event {Party Party' : Type} (f : Party → Party') (p : Party)
    (fetched : Fetched) (r : Refresh) : (r.event p fetched).map f = r.event (f p) fetched := by
  cases r <;> rfl

/-- What is seen of a cache and its loops from outside. -/
inductive Notice (Task Loop : Type) where
  | caller (t : Task) (e : Event Unit)
  | opened (l : Loop)
  | desk (l : Loop) (x : Call)
  | polled (ready : Bool)
  | asked (q : Query) (s : Snapshot) (a : Answer)
  | exported (s : Snapshot) (e : Export)
  | evaluated (held : Snapshot) (context : Context) (result : Except EvalError EvalResult)

/-- A cache with its callers and its loops, and what became of the requests made of each
loop. -/
structure Deployment (Task Loop : Type) extends Service Task Loop where
  requests : Loop → Nat → Option Request

section Events

variable {Task Loop : Type}

def Call.event (l : Loop) : Call → Event (Refresher Task Loop)
  | began _ => .began (.loop l)
  | busy _ => .rejected (.loop l)
  | advanced e => e.map fun _ => .loop l
  | settled _ result => .ended (.loop l) result
  | _ => .aside

def Notice.event : Notice Task Loop → Event (Refresher Task Loop)
  | caller t e => e.map fun _ => .caller t
  | desk l x => x.event l
  | asked _ s _ | exported s _ => .read s
  | _ => .aside

variable [DecidableEq Loop]

def Notice.call? (l : Loop) : Notice Task Loop → Option Call
  | desk l' x => if l' = l then some x else none
  | _ => none

end Events

namespace Deployment

variable {Task Loop : Type}

def loaded (c : Cache) : Deployment Task Loop :=
  ⟨⟨c, fun _ => none, fun _ => none⟩, fun _ _ => none⟩

def desk? (d : Deployment Task Loop) (l : Loop) : Option Desk :=
  (d.loops l).map fun loop => ⟨⟨d.cache, loop⟩, d.requests l⟩

def setCache (d : Deployment Task Loop) (c : Cache) : Deployment Task Loop :=
  { d with cache := c }

def setRefresh [DecidableEq Task] (d : Deployment Task Loop) (t : Task) (c : Cache)
    (r : Option Refresh) : Deployment Task Loop :=
  { d with toService := d.toService.setRefresh t c r }

def setDesk [DecidableEq Loop] (d : Deployment Task Loop) (l : Loop) (k : Desk) :
    Deployment Task Loop :=
  ⟨d.toService.setServing l k.toServing, Function.update d.requests l k.requests⟩

def calls [DecidableEq Loop] (l : Loop) (history : List (Notice Task Loop)) : List Call :=
  history.filterMap (Notice.call? l)

def events (history : List (Notice Task Loop)) : List (Event (Refresher Task Loop)) :=
  history.map Notice.event

section Desks

variable {d : Deployment Task Loop} {l l' : Loop} {k : Desk}

theorem exists_loop_of_desk? (hdesk : d.desk? l = some k) :
    ∃ loop, d.loops l = some loop ∧ k = ⟨⟨d.cache, loop⟩, d.requests l⟩ := by
  obtain ⟨loop, hloop, rfl⟩ := Option.map_eq_some_iff.mp hdesk
  exact ⟨loop, hloop, rfl⟩

theorem event_beginning (job : Job) :
    (d.cache.beginning job).event l = d.toService.beginning (.loop l) := by
  rw [Cache.beginning, Service.beginning]
  split <;> rfl

theorem event_call (r : Refresh) (job : Job) (fetched : Fetched) :
    (r.call job fetched).event l = (r.event (.loop l) fetched : Event (Refresher Task Loop)) := by
  cases r <;> rfl

theorem desk?_setCache (c : Cache) :
    (d.setCache c).desk? l = (d.desk? l).map fun k => k.setServing ⟨c, k.loop⟩ := by
  simp only [desk?, setCache, Option.map_map]
  rfl

theorem desk?_self : d.desk? l = (d.desk? l).map fun k => k.setServing ⟨d.cache, k.loop⟩ := by
  simp only [desk?, Option.map_map]
  rfl

theorem desk?_setRefresh [DecidableEq Task] (t : Task) (c : Cache) (r : Option Refresh) :
    (d.setRefresh t c r).desk? l = (d.desk? l).map fun k => k.setServing ⟨c, k.loop⟩ := by
  simp only [desk?, setRefresh, Service.setRefresh, Option.map_map]
  rfl

variable [DecidableEq Loop]

@[simp]
theorem desk?_setDesk (d : Deployment Task Loop) (l : Loop) (k : Desk) :
    (d.setDesk l k).desk? l = some k := by
  simp [desk?, setDesk, Service.setServing, Service.setLoop]

theorem desk?_setDesk_of_ne (h : l' ≠ l) (k : Desk) :
    (d.setDesk l k).desk? l' = (d.desk? l').map fun k' => k'.setServing ⟨k.cache, k'.loop⟩ := by
  simp only [desk?, setDesk, Service.setServing, Service.setLoop, Function.update_of_ne h,
    Option.map_map]
  rfl

@[simp]
theorem calls_snoc (l : Loop) (history : List (Notice Task Loop)) (x : Notice Task Loop) :
    calls l (history ++ [x]) = calls l history ++ (x.call? l).toList := by
  cases h : x.call? l <;> simp [calls, h]

end Desks

variable [DecidableEq Task] [DecidableEq Loop]

variable [PatternEngine]

/-- One step of anybody. -/
inductive Step : Deployment Task Loop → Notice Task Loop → Deployment Task Loop → Prop
  | reject {d t} (hfree : d.refreshes t = none) (htaken : d.cache.acquire = none) :
      Step d (.caller t (.rejected ())) d
  | begin {d t c} (hfree : d.refreshes t = none) (hacquire : d.cache.acquire = some c) :
      Step d (.caller t (.began ())) (d.setRefresh t c (some .fetching))
  | proceed {d t r c next} (fetched : Fetched) (hrefresh : d.refreshes t = some r)
      (hstep : r.step d.cache fetched = (c, next)) :
      Step d (.caller t (r.event () fetched)) (d.setRefresh t c next.getLeft?)
  | abandon {d t} (hrefresh : d.refreshes t = some .fetching) :
      Step d (.caller t (.abandoned ())) (d.setRefresh t d.cache.abandon none)
  | start {d l} (hnew : d.loops l = none) : Step d (.opened l) (d.setDesk l (.opened d.cache))
  | desk {d l k x k'} (hdesk : d.desk? l = some k) (hstep : k.Step x k') :
      Step d (.desk l x) (d.setDesk l k')
  | poll {d} : Step d (.polled d.cache.ready) d
  | ask {d} (q : Query) :
      Step d (.asked q d.cache.snapshot (d.cache.ask q).2) (d.setCache (d.cache.ask q).1)
  | hand {d} (now : Option Timestamp) :
      Step d (.exported d.cache.snapshot (d.cache.exported now)) d
  | evaluate {d} (held : Snapshot) (context : Context) :
      Step d (.evaluated held context (d.cache.evaluateOn held context).2)
        (d.setCache (d.cache.evaluateOn held context).1)

abbrev Run : Deployment Task Loop → List (Notice Task Loop) → Deployment Task Loop → Prop :=
  Execution Step

variable {d d' : Deployment Task Loop} {l l' : Loop} {x : Notice Task Loop} {k k' : Desk}
  {history : List (Notice Task Loop)}

section Steps

theorem Step.desk?_cases (hstep : Step d x d') (l : Loop) :
    (x.call? l = none ∧ d.desk? l = none ∧ d'.desk? l = some (.opened d.cache)) ∨
      (∃ y k k', x.call? l = some y ∧ d.desk? l = some k ∧ k.Step y k' ∧ d'.desk? l = some k') ∨
      (x.call? l = none ∧
        d'.desk? l = (d.desk? l).map fun k => k.setServing ⟨d'.cache, k.loop⟩) := by
  cases hstep with
  | @start m hnew =>
      by_cases h : l = m
      · subst h
        exact .inl ⟨rfl, by simp [desk?, hnew], desk?_setDesk _ _ _⟩
      · exact .inr (.inr ⟨rfl, desk?_setDesk_of_ne h _⟩)
  | @desk m k y k' hdesk hstep =>
      by_cases h : l = m
      · subst h
        exact .inr (.inl ⟨y, k, k', by simp [Notice.call?], hdesk, hstep, desk?_setDesk _ _ _⟩)
      · exact .inr (.inr ⟨by simp [Notice.call?, Ne.symm h], desk?_setDesk_of_ne h _⟩)
  | begin => exact .inr (.inr ⟨rfl, desk?_setRefresh _ _ _⟩)
  | proceed => exact .inr (.inr ⟨rfl, desk?_setRefresh _ _ _⟩)
  | abandon => exact .inr (.inr ⟨rfl, desk?_setRefresh _ _ _⟩)
  | ask => exact .inr (.inr ⟨rfl, desk?_setCache _⟩)
  | evaluate => exact .inr (.inr ⟨rfl, desk?_setCache _⟩)
  | _ => exact .inr (.inr ⟨rfl, desk?_self⟩)

theorem Run.desk {c : Cache} (hrun : Run (loaded c) history d) (l : Loop) :
    (d.desk? l = none → calls l history = []) ∧
      ∀ k, d.desk? l = some k → ∃ c, Desk.Run (.opened c) (calls l history) k := by
  induction hrun with
  | nil => exact ⟨fun _ => rfl, fun k hk => by simp [desk?, loaded] at hk⟩
  | @snoc earlier m x d' hrun hstep ih =>
      rw [calls_snoc]
      rcases hstep.desk?_cases l with ⟨hx, hnone, hopened⟩ | ⟨y, k, k', hx, hk, hcall, hk'⟩ |
        ⟨hx, hsame⟩
      · rw [hx, ih.1 hnone, hopened]
        refine ⟨by simp, fun k hk => ⟨m.cache, ?_⟩⟩
        rw [← Option.some.inj hk]
        exact .nil
      · rw [hx, hk']
        obtain ⟨c, hbefore⟩ := ih.2 k hk
        refine ⟨by simp, fun k'' hk'' => ⟨c, ?_⟩⟩
        rw [← Option.some.inj hk'']
        exact hbefore.snoc hcall
      · rw [hx, hsame, Option.toList_none, List.append_nil]
        refine ⟨fun h => ih.1 (Option.map_eq_none_iff.mp h), fun k' hk' => ?_⟩
        obtain ⟨k, hk, rfl⟩ := Option.map_eq_some_iff.mp hk'
        obtain ⟨c, hbefore⟩ := ih.2 k hk
        exact ⟨c, hbefore.elsewhere _⟩

theorem Step.ledger (hstep : Step d x d') : Ledger.Step d.ledger x.event d'.ledger := by
  cases hstep with
  | reject hfree htaken => exact (Service.Step.reject hfree htaken).ledger
  | begin hfree hacquire => exact (Service.Step.begin hfree hacquire).ledger
  | proceed fetched hrefresh hstep =>
      rw [Notice.event, Refresh.map_event]
      exact (Service.Step.proceed fetched hrefresh hstep).ledger
  | abandon hrefresh => exact (Service.Step.abandon hrefresh).ledger
  | start hnew => exact (Service.Step.start hnew).ledger
  | @desk l k y k' hdesk hstep =>
      obtain ⟨loop, hloop, rfl⟩ := exists_loop_of_desk? hdesk
      have haside : Ledger.Step d.ledger .aside
          (d.toService.setServing l ⟨d.cache, loop⟩).ledger := by
        rw [Service.setServing, Service.ledger_setLoop_eq_self hloop rfl rfl]
        exact .aside
      rw [Notice.event]
      cases hstep with
      | send hnew hopen hroom hsend => exact (Service.Step.send _ hloop hsend).ledger
      | stop hopen hroom hsend => exact (Service.Step.send _ hloop hsend).ledger
      | drop => exact (Service.Step.close hloop).ledger
      | tick hidle =>
          rw [event_beginning]
          exact (Service.Step.tick hloop hidle).ledger
      | take hidle hinbox =>
          rw [event_beginning]
          exact (Service.Step.takeRequest hloop hidle hinbox).ledger
      | resume fetched hcurrent =>
          rw [event_call]
          exact (Service.Step.resume fetched hloop hcurrent).ledger
      | finish hidle hfinished =>
          refine (Service.Step.takeOther hloop hidle ?_).ledger
          intro n rest hinbox
          rcases hfinished with hstop | ⟨hempty, -⟩
          · simp [hinbox] at hstop
          · simp [hinbox] at hempty
      | _ => exact haside
  | poll => exact .aside
  | ask q =>
      have hledger : (d.setCache (d.cache.ask q).1).ledger = d.ledger := by
        rw [Cache.ask_fst]
        rfl
      rw [hledger]
      exact .read
  | hand now => exact .read
  | evaluate held context => exact .aside

end Steps

end Deployment

end FeatureFlags
