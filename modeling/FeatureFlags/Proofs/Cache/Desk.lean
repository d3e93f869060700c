import FeatureFlags.Cache.Loop
import FeatureFlags.Proofs.Cache.Service

namespace FeatureFlags

namespace RefreshLoop

def capacity : Nat := 16

def reply? (l : RefreshLoop) (n : Nat) : Option (Except CacheError RefreshStats) :=
  (l.replies.find? (·.1 == n)).map Prod.snd

/-- The next message tells to stop, or none can come any more. -/
def Finished (l : RefreshLoop) : Prop :=
  l.inbox.head? = some .shutdown ∨ l.inbox = [] ∧ l.closed = true

end RefreshLoop

/-- How far somebody has come who asked a loop for a refresh. -/
inductive Request where
  | waiting
  | returned (result : Except CacheError RefreshStats)
  | left

/-- A loop with its cache, and what became of the requests made of it. -/
structure Desk extends Serving where
  requests : Nat → Option Request

inductive Call where
  | sent (n : Nat)
  /-- The loop had ended, and took no request. -/
  | refused (n : Nat)
  | received (n : Nat) (result : Except CacheError RefreshStats)
  /-- The loop ended without an answer. -/
  | lost (n : Nat)
  /-- Somebody does not wait for the answer any more. -/
  | left (n : Nat)
  | stopSent
  | dropped
  | began (job : Job)
  /-- A job that was taken up while another refresh held the permit, and settled at once. -/
  | busy (job : Job)
  | advanced (e : Event Unit)
  | settled (job : Job) (result : Except CacheError RefreshStats)
  | ended

def Call.isOfRequester : Call → Bool
  | refused _ | received .. | lost _ | left _ => true
  | _ => false

def Cache.beginning (c : Cache) (job : Job) : Call :=
  if c.refreshing then .busy job else .began job

def Refresh.call (job : Job) (fetched : Fetched) : Refresh → Call
  | finishing result => .settled job result
  | r => .advanced (r.event () fetched)

namespace Desk

variable [PatternEngine]

def opened (c : Cache) : Desk :=
  ⟨⟨c, .start⟩, fun _ => none⟩

def job? (k : Desk) : Option Job :=
  k.loop.current.map Prod.fst

def setRequest (k : Desk) (n : Nat) (r : Request) : Desk :=
  { k with requests := Function.update k.requests n (some r) }

def setServing (k : Desk) (s : Serving) : Desk :=
  { k with toServing := s }

/-- A request is sent under a number of its own. Whoever cannot send because the inbox is full
has not sent yet. -/
inductive Step : Desk → Call → Desk → Prop
  | send {k n loop} (hnew : k.requests n = none) (hopen : k.loop.closed = false)
      (hroom : k.loop.inbox.length < RefreshLoop.capacity)
      (hsend : k.loop.send (.refresh n) = .ok loop) :
      Step k (.sent n) ((k.setServing ⟨k.cache, loop⟩).setRequest n .waiting)
  | refuse {k n e} (hnew : k.requests n = none) (hopen : k.loop.closed = false)
      (hsend : k.loop.send (.refresh n) = .error e) :
      Step k (.refused n) (k.setRequest n (.returned (.error e)))
  | receive {k n result} (hwaits : k.requests n = some .waiting)
      (hreply : k.loop.reply? n = some result) :
      Step k (.received n result) (k.setRequest n (.returned result))
  | lose {k n} (hwaits : k.requests n = some .waiting) (hended : k.loop.ended = true)
      (hreply : k.loop.reply? n = none) :
      Step k (.lost n) (k.setRequest n (.returned (.error .shutDown)))
  | leave {k n} (hwaits : k.requests n = some .waiting) :
      Step k (.left n) (k.setRequest n .left)
  | stop {k loop} (hopen : k.loop.closed = false)
      (hroom : k.loop.inbox.length < RefreshLoop.capacity)
      (hsend : k.loop.send .shutdown = .ok loop) :
      Step k .stopSent (k.setServing ⟨k.cache, loop⟩)
  | drop {k} : Step k .dropped (k.setServing ⟨k.cache, k.loop.close⟩)
  | tick {k} (hidle : k.loop.isIdle = true) :
      Step k (k.cache.beginning .tick) (k.setServing k.toServing.tick)
  | take {k n rest} (hidle : k.loop.isIdle = true) (hinbox : k.loop.inbox = .refresh n :: rest) :
      Step k (k.cache.beginning (.request n)) (k.setServing k.toServing.take)
  | resume {k job r} (fetched : Fetched) (hcurrent : k.loop.current = some (job, r)) :
      Step k (r.call job fetched) (k.setServing (k.toServing.resume fetched))
  | finish {k} (hidle : k.loop.isIdle = true) (hfinished : k.loop.Finished) :
      Step k .ended (k.setServing k.toServing.take)

/-- Steps at one desk. In between, others may do anything to the cache. -/
inductive Run (k : Desk) : List Call → Desk → Prop
  | nil : Run k [] k
  | elsewhere {history m} (c : Cache) (hrun : Run k history m) :
      Run k history (m.setServing ⟨c, m.loop⟩)
  | snoc {history m x k'} (hrun : Run k history m) (hstep : Step m x k') :
      Run k (history ++ [x]) k'

end Desk

section Loop

variable [PatternEngine]

namespace RefreshLoop

/-- What is left of an inbox when a job is taken up. A request is its first message. -/
inductive Takes : List Command → Job → List Command → Prop
  | tick {inbox : List Command} : Takes inbox .tick inbox
  | request {n : Nat} {rest : List Command} : Takes (.refresh n :: rest) (.request n) rest

/-- What each call does to the loop, whatever the cache is like. -/
inductive Step (l : RefreshLoop) : Call → RefreshLoop → Prop
  | sent (n : Nat) (hended : l.ended = false) :
      Step l (.sent n) { l with inbox := l.inbox ++ [.refresh n] }
  | stopSent (hended : l.ended = false) :
      Step l .stopSent { l with inbox := l.inbox ++ [.shutdown] }
  | dropped : Step l .dropped l.close
  | began {job : Job} {rest : List Command} (hidle : l.isIdle = true)
      (htakes : Takes l.inbox job rest) :
      Step l (.began job) { l with inbox := rest, current := some (job, .fetching) }
  | busy {job : Job} {rest : List Command} (hidle : l.isIdle = true)
      (htakes : Takes l.inbox job rest) :
      Step l (.busy job) ({ l with inbox := rest }.answer job (.error .concurrentRefresh))
  | advanced {job : Job} {r next : Refresh} {c c' : Cache} {fetched : Fetched}
      (hcurrent : l.current = some (job, r)) (hstep : r.step c fetched = (c', .inl next)) :
      Step l (.advanced (r.event () fetched)) { l with current := some (job, next) }
  | settled {job : Job} {result : Except CacheError RefreshStats}
      (hcurrent : l.current = some (job, .finishing result)) :
      Step l (.settled job result) (l.answer job result)
  | ended (hidle : l.isIdle = true) (hfinished : l.Finished) :
      Step l .ended { l with inbox := [], ended := true }
  | aside {x : Call} (hx : x.isOfRequester = true) : Step l x l

omit [PatternEngine] in
theorem send_eq_ok_iff {l l' : RefreshLoop} {cmd : Command} :
    l.send cmd = .ok l' ↔ l.ended = false ∧ l' = { l with inbox := l.inbox ++ [cmd] } := by
  cases h : l.ended <;> simp [send, h, eq_comm]

omit [PatternEngine] in
theorem send_eq_error_iff {l : RefreshLoop} {cmd : Command} {e : CacheError} :
    l.send cmd = .error e ↔ l.ended = true ∧ e = .shutDown := by
  cases h : l.ended <;> simp [send, h, eq_comm]

end RefreshLoop

theorem Refresh.eq_finishing_of_step {c c' : Cache} {r : Refresh} {fetched : Fetched}
    {result : Except CacheError RefreshStats} (h : r.step c fetched = (c', .inr result)) :
    r = .finishing result := by
  cases r with
  | fetching => cases fetched <;> cases h
  | preparing flags generation =>
      rw [step_preparing] at h
      cases h
  | publishing s => cases h
  | finishing result' =>
      cases h
      rfl

theorem Refresh.call_of_step {c c' : Cache} {r next : Refresh} {job : Job} {fetched : Fetched}
    (h : r.step c fetched = (c', .inl next)) :
    r.call job fetched = .advanced (r.event () fetched) := by
  cases r with
  | finishing result => cases h
  | _ => rfl

namespace Desk

theorem begin_loop {l : RefreshLoop} {job : Job} {rest : List Command} (hidle : l.isIdle = true)
    (htakes : RefreshLoop.Takes l.inbox job rest) (c : Cache) :
    l.Step (c.beginning job) (Serving.begin ⟨c, { l with inbox := rest }⟩ job).loop := by
  rw [Cache.beginning]
  cases hpermit : c.refreshing with
  | true =>
      rw [Serving.begin_of_refreshing _ _ hpermit]
      exact .busy hidle htakes
  | false =>
      rw [Serving.begin_of_free _ _ hpermit]
      exact .began hidle htakes

theorem resume_loop {s : Serving} {job : Job} {r : Refresh} (fetched : Fetched)
    (hcurrent : s.loop.current = some (job, r)) :
    s.loop.Step (r.call job fetched) (s.resume fetched).loop := by
  rcases hstep : r.step s.cache fetched with ⟨c, next | result⟩
  · rw [Refresh.call_of_step hstep]
    simp only [Serving.resume, hcurrent, hstep]
    exact .advanced hcurrent hstep
  · obtain rfl := Refresh.eq_finishing_of_step hstep
    simp only [Serving.resume, hcurrent, hstep]
    exact .settled hcurrent

omit [PatternEngine] in
theorem take_loop_of_finished {s : Serving} (hidle : s.loop.isIdle = true)
    (hfinished : s.loop.Finished) : s.take = s.stop := by
  rw [Serving.take, if_pos hidle]
  rcases hfinished with hstop | ⟨hempty, hclosed⟩
  · obtain ⟨rest, hinbox⟩ := List.head?_eq_some_iff.mp hstop
    simp only [hinbox]
  · simp only [hempty, hclosed, if_true]

theorem Step.loop {k k' : Desk} {x : Call} (hstep : Step k x k') : k.loop.Step x k'.loop := by
  cases hstep with
  | send _ _ _ hsend =>
      obtain ⟨hended, rfl⟩ := RefreshLoop.send_eq_ok_iff.mp hsend
      exact .sent _ hended
  | stop _ _ hsend =>
      obtain ⟨hended, rfl⟩ := RefreshLoop.send_eq_ok_iff.mp hsend
      exact .stopSent hended
  | drop => exact .dropped
  | tick hidle =>
      rw [setServing, Serving.tick, if_pos hidle]
      exact begin_loop hidle .tick k.cache
  | take hidle hinbox =>
      rw [setServing, Serving.take, if_pos hidle]
      simp only [hinbox]
      exact begin_loop hidle (hinbox ▸ .request) k.cache
  | resume fetched hcurrent => exact resume_loop fetched hcurrent
  | finish hidle hfinished =>
      rw [setServing, take_loop_of_finished hidle hfinished]
      exact .ended hidle hfinished
  | _ => exact .aside rfl

end Desk

end Loop

end FeatureFlags
