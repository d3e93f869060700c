import Mathlib.Data.List.Nodup
import FeatureFlags.Proofs.Cache.Desk

namespace FeatureFlags

/-- All events of a refresh that was not given up, and its result. -/
inductive Attempt [PatternEngine] : List (Event Unit) → Except CacheError RefreshStats → Prop
  | unfetched (e : CacheError) : Attempt [.fetched () (.error e)] (.error e)
  | unprepared {flags : List Flag} {generation : Nat} {e : CompileError}
      (hbuild : (Snapshot.build flags generation).2 = .error e) :
      Attempt [.fetched () (.ok flags), .prepared ()] (.error (.compile e))
  | published {flags : List Flag} {s : Snapshot}
      (hbuild : (Snapshot.build flags s.generation).2 = .ok s) :
      Attempt [.fetched () (.ok flags), .prepared (), .published () s] (.ok s.stats)

/-- A refresh has come this far with these events. -/
def Refresh.Reached [PatternEngine] (events : List (Event Unit)) : Refresh → Prop
  | .fetching => events = []
  | .preparing flags _ => events = [.fetched () (.ok flags)]
  | .publishing s => ∃ flags, events = [.fetched () (.ok flags), .prepared ()] ∧
      (Snapshot.build flags s.generation).2 = .ok s
  | .finishing result => Attempt events result

theorem Refresh.Reached.step [PatternEngine] {events : List (Event Unit)} {c c' : Cache}
    {r next : Refresh} {fetched : Fetched} (h : r.Reached events)
    (hstep : r.step c fetched = (c', .inl next)) :
    next.Reached (events ++ [r.event () fetched]) := by
  cases r with
  | fetching =>
      obtain rfl := h
      cases fetched with
      | error e =>
          cases hstep
          exact .unfetched e
      | ok flags =>
          cases hstep
          exact rfl
  | preparing flags generation =>
      obtain rfl := h
      rw [step_preparing] at hstep
      cases hstep
      cases hbuild : (Snapshot.build flags generation).2 with
      | error e => exact .unprepared hbuild
      | ok s =>
          obtain rfl := Snapshot.generation_of_build hbuild
          exact ⟨flags, rfl, hbuild⟩
  | publishing s =>
      obtain ⟨flags, rfl, hbuild⟩ := h
      cases hstep
      exact .published hbuild
  | finishing result => cases hstep

def Job.requester? : Job → Option Nat
  | tick => none
  | request n => some n

def Command.requester? : Command → Option Nat
  | refresh n => some n
  | shutdown => none

namespace Call

def command? : Call → Option Command
  | sent n => some (.refresh n)
  | stopSent => some .shutdown
  | _ => none

def job? : Call → Option Job
  | began job | busy job => some job
  | _ => none

def isMark : Call → Bool
  | began _ | busy _ | settled .. | ended => true
  | _ => false

def settlement? : Call → Option (Job × Except CacheError RefreshStats)
  | settled job result => some (job, result)
  | busy job => some (job, .error .concurrentRefresh)
  | _ => none

def advance? : Call → Option (Event Unit)
  | advanced e => some e
  | _ => none

end Call

namespace Desk

section History

def posted (history : List Call) : List Command :=
  history.filterMap Call.command?

def taken (history : List Call) : List Job :=
  history.filterMap Call.job?

def settled (history : List Call) : List (Job × Except CacheError RefreshStats) :=
  history.filterMap Call.settlement?

def requesters (jobs : List Job) : List Nat :=
  jobs.filterMap Job.requester?

def answers (history : List Call) : List (Nat × Except CacheError RefreshStats) :=
  (settled history).filterMap fun (job, result) => job.requester?.map (·, result)

/-- The requests among messages, up to the first that tells to stop. -/
def beforeStop (messages : List Command) : List Nat :=
  (messages.takeWhile (· ≠ .shutdown)).filterMap Command.requester?

variable (history : List Call) (x : Call)

@[simp]
theorem posted_snoc : posted (history ++ [x]) = posted history ++ x.command?.toList := by
  cases h : x.command? <;> simp [posted, h]

@[simp]
theorem taken_snoc : taken (history ++ [x]) = taken history ++ x.job?.toList := by
  cases h : x.job? <;> simp [taken, h]

@[simp]
theorem settled_snoc : settled (history ++ [x]) = settled history ++ x.settlement?.toList := by
  cases h : x.settlement? <;> simp [settled, h]

@[simp]
theorem requesters_append (jobs jobs' : List Job) :
    requesters (jobs ++ jobs') = requesters jobs ++ requesters jobs' :=
  List.filterMap_append

@[simp]
theorem requesters_singleton (job : Job) : requesters [job] = job.requester?.toList := by
  cases h : job.requester? <;> simp [requesters, h]

@[simp]
theorem answers_snoc : answers (history ++ [x]) = answers history ++
    (x.settlement?.bind fun (job, result) => job.requester?.map (·, result)).toList := by
  cases h : x.settlement? with
  | none => simp [answers, h]
  | some settlement => cases hn : settlement.1.requester? <;> simp [answers, h, hn]

theorem answer_replies (l : RefreshLoop) (job : Job) (result : Except CacheError RefreshStats) :
    (l.answer job result).replies =
      l.replies ++ (job.requester?.map (·, result)).toList := by
  cases job <;> simp [RefreshLoop.answer, Job.requester?]

theorem requesters_map_fst_settled :
    requesters ((settled history).map Prod.fst) = (answers history).map Prod.fst := by
  rw [requesters, answers, List.filterMap_map, List.map_filterMap]
  congr 1
  funext settlement
  cases h : settlement.1.requester? <;> simp [h]

theorem beforeStop_append (ns : List Nat) (messages : List Command) :
    beforeStop (ns.map .refresh ++ messages) = ns ++ beforeStop messages := by
  induction ns with
  | nil => rfl
  | cons n ns ih => simpa [beforeStop, Command.requester?] using ih

@[simp]
theorem beforeStop_nil : beforeStop [] = [] := rfl

theorem beforeStop_of_finished {l : RefreshLoop} (h : l.Finished) : beforeStop l.inbox = [] := by
  rcases h with hstop | ⟨hempty, -⟩
  · obtain ⟨rest, hinbox⟩ := List.head?_eq_some_iff.mp hstop
    rw [hinbox]
    rfl
  · rw [hempty]
    rfl

theorem beforeStop_sublist (messages : List Command) :
    (beforeStop messages).Sublist (messages.filterMap Command.requester?) :=
  (List.takeWhile_sublist _).filterMap _

end History

section Record

open RefreshLoop

/-- What the calls say of the loop that they lead to. -/
structure Recorded (history : List Call) (l : RefreshLoop) : Prop where
  /-- Of the jobs taken up, all but the one under way are settled, in their order. -/
  jobs : taken history = (settled history).map Prod.fst ++ (l.current.map Prod.fst).toList
  replies : l.replies = answers history
  /-- Requests are taken up in the order in which they were put into the inbox. -/
  order : beforeStop (posted history) = requesters (taken history) ++ beforeStop l.inbox
  running : l.ended = false →
    posted history = (requesters (taken history)).map .refresh ++ l.inbox
  emptied : l.ended = true → l.current = none ∧ l.inbox = []
  ended : l.ended = true ↔ .ended ∈ history
  dropped : l.closed = true → .dropped ∈ history

variable {history : List Call} {l l' : RefreshLoop} {x : Call}

theorem recorded_start : Recorded [] .start :=
  ⟨rfl, rfl, rfl, fun _ => rfl, nofun, by simp [start], nofun⟩

theorem current_of_isIdle (h : l.isIdle = true) : l.ended = false ∧ l.current = none := by
  simpa [isIdle] using h

/-- As long as the loop runs, the order of what was taken up follows from what is still in the
inbox. -/
theorem recorded_of_running (hrunning : l.ended = false) (hended : .ended ∉ history)
    (hjobs : taken history = (settled history).map Prod.fst ++ (l.current.map Prod.fst).toList)
    (hreplies : l.replies = answers history)
    (hposted : posted history = (requesters (taken history)).map .refresh ++ l.inbox)
    (hdropped : l.closed = true → .dropped ∈ history) : Recorded history l where
  jobs := hjobs
  replies := hreplies
  order := by rw [hposted, beforeStop_append]
  running _ := hposted
  emptied h := absurd h (by simp [hrunning])
  ended := by simp [hrunning, hended]
  dropped := hdropped

theorem Recorded.take {job : Job} {rest : List Command} (h : Recorded history l)
    (hrunning : l.ended = false) (htakes : Takes l.inbox job rest) :
    posted history = (requesters (taken history ++ [job])).map .refresh ++ rest := by
  rw [h.running hrunning]
  generalize l.inbox = inbox at htakes
  cases htakes with
  | tick => simp [Job.requester?]
  | request => simp [Job.requester?]

theorem Recorded.running_of_current {job : Job} {r : Refresh} (h : Recorded history l)
    (hcurrent : l.current = some (job, r)) : l.ended = false := by
  by_contra hended
  rw [(h.emptied (by simpa using hended)).1] at hcurrent
  cases hcurrent

theorem Recorded.aside {closed : Bool} (h : Recorded history l) (hcommand : x.command? = none)
    (hjob : x.job? = none) (hsettled : x.settlement? = none) (hended : x ≠ .ended)
    (hclosed : closed = true → .dropped ∈ history ++ [x]) :
    Recorded (history ++ [x]) { l with closed } where
  jobs := by simpa [hjob, hsettled] using h.jobs
  replies := by simpa [hsettled] using h.replies
  order := by simpa [hcommand, hjob] using h.order
  running := by simpa [hcommand, hjob] using h.running
  emptied := h.emptied
  ended := by simpa [hended.symm] using h.ended
  dropped := hclosed

variable [PatternEngine]

theorem Recorded.step (h : Recorded history l) (hstep : l.Step x l') :
    Recorded (history ++ [x]) l' := by
  have hnever : l.ended = false → .ended ∉ history := by
    intro hended
    simp [← h.ended, hended]
  have hdropped : l.closed = true → .dropped ∈ history ++ [x] :=
    fun hclosed => List.mem_append_left _ (h.dropped hclosed)
  cases hstep with
  | sent n hended =>
      refine recorded_of_running hended (by simpa using hnever hended) ?_ ?_ ?_ hdropped
      · simpa [Call.job?, Call.settlement?] using h.jobs
      · simpa [Call.settlement?] using h.replies
      · simp [Call.job?, Call.command?, h.running hended]
  | stopSent hended =>
      refine recorded_of_running hended (by simpa using hnever hended) ?_ ?_ ?_ hdropped
      · simpa [Call.job?, Call.settlement?] using h.jobs
      · simpa [Call.settlement?] using h.replies
      · simp [Call.job?, Call.command?, h.running hended]
  | began hidle htakes =>
      obtain ⟨hended, hnone⟩ := current_of_isIdle hidle
      refine recorded_of_running hended (by simpa using hnever hended) ?_ ?_ ?_ hdropped
      · simp [Call.job?, Call.settlement?, h.jobs, hnone]
      · simpa [Call.settlement?] using h.replies
      · simpa [Call.job?, Call.command?] using h.take hended htakes
  | busy hidle htakes =>
      obtain ⟨hended, hnone⟩ := current_of_isIdle hidle
      refine recorded_of_running hended (by simpa using hnever hended) ?_ ?_ ?_ hdropped
      · simp [Call.job?, Call.settlement?, h.jobs, hnone, answer]
      · simp [Call.settlement?, answer_replies, h.replies]
      · simpa [Call.job?, Call.command?, answer] using h.take hended htakes
  | advanced hcurrent hstep =>
      have hended := h.running_of_current hcurrent
      refine recorded_of_running hended (by simpa using hnever hended) ?_ ?_ ?_ hdropped
      · simpa [Call.job?, Call.settlement?, hcurrent] using h.jobs
      · simpa [Call.settlement?] using h.replies
      · simpa [Call.job?, Call.command?] using h.running hended
  | settled hcurrent =>
      have hended := h.running_of_current hcurrent
      refine recorded_of_running hended (by simpa using hnever hended) ?_ ?_ ?_ hdropped
      · simpa [Call.job?, Call.settlement?, hcurrent, answer] using h.jobs
      · simp [Call.settlement?, answer_replies, h.replies]
      · simpa [Call.job?, Call.command?, answer] using h.running hended
  | dropped => exact h.aside rfl rfl rfl nofun (by simp)
  | ended hidle hfinished =>
      obtain ⟨-, hnone⟩ := current_of_isIdle hidle
      refine ⟨?_, ?_, ?_, nofun, fun _ => ⟨hnone, rfl⟩, by simp, hdropped⟩
      · simpa [Call.job?, Call.settlement?] using h.jobs
      · simpa [Call.settlement?] using h.replies
      · simpa [Call.job?, Call.command?, beforeStop_of_finished hfinished] using h.order
  | aside hx =>
      cases x with
      | refused n => exact h.aside rfl rfl rfl nofun hdropped
      | received n result => exact h.aside rfl rfl rfl nofun hdropped
      | lost n => exact h.aside rfl rfl rfl nofun hdropped
      | left n => exact h.aside rfl rfl rfl nofun hdropped
      | _ => cases hx

/-- What was taken up last is this job, and its refresh has come this far since. -/
def Underway (history : List Call) (job : Job) (r : Refresh) : Prop :=
  ∃ earlier since, history = earlier ++ .began job :: since ∧
    (∀ y ∈ since, y.isMark = false) ∧ r.Reached (since.filterMap Call.advance?)

theorem underway_began (history : List Call) (job : Job) :
    Underway (history ++ [.began job]) job .fetching :=
  ⟨history, [], rfl, by simp, rfl⟩

theorem Underway.snoc {job : Job} {r next : Refresh} (h : Underway history job r)
    (hmark : x.isMark = false)
    (hreached : ∀ events, r.Reached events → next.Reached (events ++ x.advance?.toList)) :
    Underway (history ++ [x]) job next := by
  obtain ⟨earlier, since, rfl, hquiet, hr⟩ := h
  refine ⟨earlier, since ++ [x], by simp, ?_, ?_⟩
  · intro y hy
    rcases List.mem_append.mp hy with hy | hy
    · exact hquiet y hy
    · rw [List.mem_singleton.mp hy]
      exact hmark
  · have hevents : (since ++ [x]).filterMap Call.advance? =
        since.filterMap Call.advance? ++ x.advance?.toList := by
      cases h : x.advance? <;> simp [h]
    rw [hevents]
    exact hreached _ hr

theorem underway_step (h : ∀ job r, l.current = some (job, r) → Underway history job r)
    (hstep : l.Step x l') {job : Job} {r : Refresh} (hcurrent : l'.current = some (job, r)) :
    Underway (history ++ [x]) job r := by
  have haside : l.current = some (job, r) → x.isMark = false → x.advance? = none →
      Underway (history ++ [x]) job r := by
    intro hsame hmark hadvance
    refine (h job r hsame).snoc hmark fun events hr => ?_
    simpa [hadvance] using hr
  cases hstep with
  | sent n hended => exact haside hcurrent rfl rfl
  | stopSent hended => exact haside hcurrent rfl rfl
  | dropped => exact haside hcurrent rfl rfl
  | began hidle htakes =>
      cases hcurrent
      exact underway_began history job
  | busy hidle htakes => cases hcurrent
  | advanced hbefore hstep =>
      cases hcurrent
      exact (h _ _ hbefore).snoc rfl fun events hr => hr.step hstep
  | settled hbefore => cases hcurrent
  | ended hidle hfinished =>
      rw [(current_of_isIdle hidle).2] at hcurrent
      cases hcurrent
  | aside hx =>
      cases x with
      | refused n => exact haside hcurrent rfl rfl
      | received n result => exact haside hcurrent rfl rfl
      | lost n => exact haside hcurrent rfl rfl
      | left n => exact haside hcurrent rfl rfl
      | _ => cases hx

omit [PatternEngine] in
theorem refresh_mem_posted_iff {n : Nat} : .refresh n ∈ posted history ↔ .sent n ∈ history := by
  rw [posted, List.mem_filterMap]
  constructor
  · rintro ⟨y, hy, hcommand⟩
    cases y <;> cases hcommand
    exact hy
  · intro h
    exact ⟨_, h, rfl⟩

omit [PatternEngine] in
theorem shutdown_mem_posted_iff : .shutdown ∈ posted history ↔ .stopSent ∈ history := by
  rw [posted, List.mem_filterMap]
  constructor
  · rintro ⟨y, hy, hcommand⟩
    cases y <;> cases hcommand
    exact hy
  · intro h
    exact ⟨_, h, rfl⟩

omit [PatternEngine] in
theorem Recorded.sent_of_takes {n : Nat} {rest : List Command} (h : Recorded history l)
    (hidle : l.isIdle = true) (htakes : Takes l.inbox (.request n) rest) :
    .sent n ∈ history := by
  rw [← refresh_mem_posted_iff, h.running (current_of_isIdle hidle).1]
  generalize l.inbox = inbox at htakes
  cases htakes
  simp

omit [PatternEngine] in
theorem Recorded.stopSent_or_dropped (h : Recorded history l) (hidle : l.isIdle = true)
    (hfinished : l.Finished) : .stopSent ∈ history ∨ .dropped ∈ history := by
  rcases hfinished with hstop | ⟨-, hclosed⟩
  · left
    rw [← shutdown_mem_posted_iff, h.running (current_of_isIdle hidle).1]
    exact List.mem_append_right _ (List.mem_of_mem_head? hstop)
  · exact .inr (h.dropped hclosed)

end Record

end Desk

end FeatureFlags
