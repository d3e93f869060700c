import FeatureFlags.Proofs.Cache.Requests

namespace FeatureFlags

def Call.isOfJob : Call → Bool
  | advanced _ | settled .. => true
  | _ => false

namespace Desk

open RefreshLoop

def sent (history : List Call) : List Nat :=
  (posted history).filterMap Command.requester?

/-- What comes before a call. A job that is settled was taken up after all other jobs before it
were settled, and has a refresh of its own. -/
def Warrants [PatternEngine] (before : List Call) : Call → Prop
  | .began job | .busy job => ∀ n ∈ job.requester?, .sent n ∈ before
  | .settled job result => Underway before job (.finishing result)
  | .received n result => (n, result) ∈ answers before
  | .ended => .stopSent ∈ before ∨ .dropped ∈ before
  | _ => True

def Outcome (history : List Call) (n : Nat) : Option Request → Prop
  | none => .sent n ∉ history
  | some .waiting => True
  | some .left => .left n ∈ history
  | some (.returned result) => (n, result) ∈ answers history ∨
      result = .error .shutDown ∧ .ended ∈ history ∧ n ∉ (answers history).map Prod.fst

structure Accounted (history : List Call) (requests : Nat → Option Request) : Prop where
  distinct : (sent history).Nodup
  outcome : ∀ n, Outcome history n (requests n)

variable {history : List Call} {l l' : RefreshLoop} {k k' : Desk} {x : Call} {n : Nat}
  {result : Except CacheError RefreshStats} {requests : Nat → Option Request}

section Answers

@[simp]
theorem sent_snoc (history : List Call) (x : Call) :
    sent (history ++ [x]) = sent history ++ (x.command?.bind Command.requester?).toList := by
  cases h : x.command? with
  | none => simp [sent, h]
  | some cmd => cases hn : cmd.requester? <;> simp [sent, h, hn]

theorem sent_eq_of_ne_sent (hx : ∀ n, x ≠ .sent n) : sent (history ++ [x]) = sent history := by
  have hnone : x.command?.bind Command.requester? = none := by
    cases x with
    | sent n => exact absurd rfl (hx n)
    | _ => rfl
  simp [hnone]

theorem mem_sent_iff : n ∈ sent history ↔ .sent n ∈ history := by
  rw [← refresh_mem_posted_iff, sent, List.mem_filterMap]
  constructor
  · rintro ⟨cmd, hcmd, hn⟩
    cases cmd <;> cases hn
    exact hcmd
  · intro h
    exact ⟨_, h, rfl⟩

theorem answers_eq_of_settlement (h : x.settlement? = none) :
    answers (history ++ [x]) = answers history := by
  simp [h]

theorem Recorded.answered_sublist (h : Recorded history l) :
    ((answers history).map Prod.fst).Sublist (sent history) := by
  have htaken : ((answers history).map Prod.fst).Sublist (requesters (taken history)) := by
    rw [← requesters_map_fst_settled, h.jobs, requesters_append]
    exact List.sublist_append_left _ _
  have hordered : (requesters (taken history)).Sublist (beforeStop (posted history)) := by
    rw [h.order]
    exact List.sublist_append_left _ _
  exact (htaken.trans hordered).trans (beforeStop_sublist _)

theorem reply?_eq_some_iff (hdistinct : (l.replies.map Prod.fst).Nodup) :
    l.reply? n = some result ↔ (n, result) ∈ l.replies := by
  rw [reply?]
  generalize l.replies = replies at hdistinct
  induction replies with
  | nil => simp
  | cons reply rest ih =>
      obtain ⟨m, first⟩ := reply
      rw [List.map_cons, List.nodup_cons] at hdistinct
      by_cases hm : m = n
      · subst hm
        have hrest : (m, result) ∉ rest :=
          fun hmem => hdistinct.1 (List.mem_map.mpr ⟨_, hmem, rfl⟩)
        simp [hrest, eq_comm]
      · simpa [hm, Ne.symm hm] using ih hdistinct.2

theorem reply?_eq_none_iff : l.reply? n = none ↔ n ∉ l.replies.map Prod.fst := by
  simp only [reply?, Option.map_eq_none_iff, List.find?_eq_none, List.mem_map, not_exists, not_and]
  simp

theorem Recorded.requesters_taken (h : Recorded history l) :
    requesters (taken history) =
      (answers history).map Prod.fst ++ requesters (l.current.map Prod.fst).toList := by
  rw [h.jobs, requesters_append, requesters_map_fst_settled]

theorem Accounted.unsent (h : Accounted history requests) (hnew : requests n = none) :
    n ∉ sent history := by
  rw [mem_sent_iff]
  exact (show Outcome history n none from hnew ▸ h.outcome n)

theorem Accounted.nodup_replies (h : Accounted history requests) (hrecorded : Recorded history l) :
    (l.replies.map Prod.fst).Nodup := by
  rw [hrecorded.replies]
  exact h.distinct.sublist hrecorded.answered_sublist

end Answers

variable [PatternEngine]

section Accounts

theorem Recorded.settlement_of_ended (h : Recorded history l) (hended : .ended ∈ history)
    (hstep : l.Step x l') : x.settlement? = none := by
  have hl : l.ended = true := h.ended.mpr hended
  cases hstep with
  | busy hidle htakes => exact absurd (current_of_isIdle hidle).1 (by simp [hl])
  | settled hcurrent => exact absurd (h.running_of_current hcurrent) (by simp [hl])
  | aside hx => cases x <;> first | rfl | cases hx
  | _ => rfl

theorem Outcome.snoc {o : Option Request} (h : Outcome history n o)
    (hrecorded : Recorded history l) (hstep : l.Step x l') (hx : x ≠ .sent n) :
    Outcome (history ++ [x]) n o := by
  rcases o with _ | _ | result | _
  · simpa [Outcome, hx.symm] using h
  · trivial
  · rcases h with hanswered | ⟨rfl, hended, hnever⟩
    · left
      rw [answers_snoc]
      exact List.mem_append_left _ hanswered
    · right
      rw [answers_eq_of_settlement (hrecorded.settlement_of_ended hended hstep)]
      exact ⟨rfl, List.mem_append_left _ hended, hnever⟩
  · exact List.mem_append_left _ h

theorem Accounted.aside (h : Accounted history requests) (hrecorded : Recorded history l)
    (hstep : l.Step x l') (hx : ∀ n, x ≠ .sent n) : Accounted (history ++ [x]) requests where
  distinct := by
    rw [sent_eq_of_ne_sent hx]
    exact h.distinct
  outcome n := (h.outcome n).snoc hrecorded hstep (hx n)

theorem Accounted.update {r : Request} (h : Accounted history requests)
    (hrecorded : Recorded history l) (hstep : l.Step x l') (hx : ∀ m ≠ n, x ≠ .sent m)
    (hdistinct : (sent (history ++ [x])).Nodup) (hr : Outcome (history ++ [x]) n (some r)) :
    Accounted (history ++ [x]) (Function.update requests n (some r)) := by
  refine ⟨hdistinct, fun m => ?_⟩
  by_cases hm : m = n
  · subst hm
    simpa using hr
  · rw [Function.update_of_ne hm]
    exact (h.outcome m).snoc hrecorded hstep (hx m hm)

theorem Accounted.settle {r : Request} (h : Accounted history requests)
    (hrecorded : Recorded history l) (hstep : l.Step x l') (hx : ∀ m, x ≠ .sent m)
    (hr : Outcome (history ++ [x]) n (some r)) :
    Accounted (history ++ [x]) (Function.update requests n (some r)) := by
  refine h.update hrecorded hstep (fun m _ => hx m) ?_ hr
  rw [sent_eq_of_ne_sent hx]
  exact h.distinct

theorem Accounted.step (h : Accounted history k.requests) (hrecorded : Recorded history k.loop)
    (hstep : Step k x k') : Accounted (history ++ [x]) k'.requests := by
  have hloop := hstep.loop
  have hbeginning : ∀ (job : Job) (n : Nat), k.cache.beginning job ≠ .sent n := by
    intro job n
    rw [Cache.beginning]
    split <;> simp
  cases hstep with
  | send hnew hopen hroom hsend =>
      refine h.update hrecorded hloop (fun m hm => by simpa using hm.symm) ?_ trivial
      rw [sent_snoc, List.nodup_append_comm]
      exact List.nodup_cons.mpr ⟨h.unsent hnew, h.distinct⟩
  | refuse hnew hopen hsend =>
      obtain ⟨hended, rfl⟩ := RefreshLoop.send_eq_error_iff.mp hsend
      refine h.settle hrecorded hloop (by simp) (.inr ⟨rfl, ?_, ?_⟩)
      · exact List.mem_append_left _ (hrecorded.ended.mp hended)
      · rw [answers_eq_of_settlement rfl]
        exact fun hmem => h.unsent hnew (hrecorded.answered_sublist.subset hmem)
  | receive hwaits hreply =>
      rw [reply?_eq_some_iff (h.nodup_replies hrecorded), hrecorded.replies] at hreply
      refine h.settle hrecorded hloop (by simp) (.inl ?_)
      rwa [answers_eq_of_settlement rfl]
  | lose hwaits hended hreply =>
      rw [reply?_eq_none_iff, hrecorded.replies] at hreply
      refine h.settle hrecorded hloop (by simp) (.inr ⟨rfl, ?_, ?_⟩)
      · exact List.mem_append_left _ (hrecorded.ended.mp hended)
      · rwa [answers_eq_of_settlement rfl]
  | leave hwaits =>
      exact h.settle hrecorded hloop (by simp)
        (List.mem_append_right _ (List.mem_singleton_self _))
  | stop => exact h.aside hrecorded hloop (by simp)
  | drop => exact h.aside hrecorded hloop (by simp)
  | tick hidle => exact h.aside hrecorded hloop (hbeginning _)
  | take hidle hinbox => exact h.aside hrecorded hloop (hbeginning _)
  | @resume job r fetched hcurrent =>
      exact h.aside hrecorded hloop (by cases r <;> simp [Refresh.call])
  | finish hidle hfinished => exact h.aside hrecorded hloop (by simp)

end Accounts

section Runs

/-- What the calls at a desk say of it. -/
structure Kept (history : List Call) (k : Desk) : Prop where
  recorded : Recorded history k.loop
  underway : ∀ job r, k.loop.current = some (job, r) → Underway history job r
  accounted : Accounted history k.requests

theorem kept_opened (c : Cache) : Kept [] (opened c) where
  recorded := recorded_start
  underway := nofun
  accounted := ⟨.nil, fun n => by simp [Outcome, opened]⟩

theorem Kept.step (h : Kept history k) (hstep : Step k x k') : Kept (history ++ [x]) k' where
  recorded := h.recorded.step hstep.loop
  underway _ _ hcurrent := underway_step h.underway hstep.loop hcurrent
  accounted := h.accounted.step h.recorded hstep

theorem Run.kept {c : Cache} (hrun : Run (opened c) history k) : Kept history k := by
  induction hrun with
  | nil => exact kept_opened c
  | elsewhere c hrun ih => exact ⟨ih.recorded, ih.underway, ih.accounted⟩
  | snoc hrun hstep ih => exact ih.step hstep

theorem Kept.warrants (h : Kept history k) (hstep : Step k x k') : Warrants history x := by
  cases hstep with
  | receive hwaits hreply =>
      rw [reply?_eq_some_iff (h.accounted.nodup_replies h.recorded), h.recorded.replies] at hreply
      exact hreply
  | tick hidle =>
      rw [Cache.beginning]
      split <;> rintro n ⟨⟩
  | @take n rest hidle hinbox =>
      have htakes : Takes k.loop.inbox (.request n) rest := by
        rw [hinbox]
        exact .request
      have hsent := h.recorded.sent_of_takes hidle htakes
      rw [Cache.beginning]
      split <;> exact fun m hm => Option.some.inj hm ▸ hsent
  | @resume job r fetched hcurrent =>
      cases r with
      | finishing result => exact h.underway job _ hcurrent
      | _ => trivial
  | finish hidle hfinished => exact h.recorded.stopSent_or_dropped hidle hfinished
  | _ => trivial

theorem step_of_current {job : Job} {r : Refresh} (hcurrent : l.current = some (job, r))
    (hstep : l.Step x l') : (∃ result, x = .settled job result) ∨
      ∃ next, l'.current = some (job, next) ∧
        next.stepsLeft + (if x.isOfJob then 1 else 0) ≤ r.stepsLeft := by
  cases hstep with
  | began hidle htakes => exact absurd hcurrent (by simp [(current_of_isIdle hidle).2])
  | busy hidle htakes => exact absurd hcurrent (by simp [(current_of_isIdle hidle).2])
  | ended hidle hfinished => exact absurd hcurrent (by simp [(current_of_isIdle hidle).2])
  | @advanced job' r' next c c' fetched hcurrent' hstep =>
      obtain ⟨rfl, rfl⟩ : job' = job ∧ r' = r := by simpa using hcurrent'.symm.trans hcurrent
      exact .inr ⟨next, rfl, Refresh.stepsLeft_step hstep⟩
  | @settled job' result hcurrent' =>
      obtain ⟨rfl, -⟩ : job' = job ∧ _ := by simpa using hcurrent'.symm.trans hcurrent
      exact .inl ⟨result, rfl⟩
  | aside hx =>
      cases x with
      | refused | received | lost | left => exact .inr ⟨r, hcurrent, le_rfl⟩
      | _ => cases hx
  | _ => exact .inr ⟨r, hcurrent, le_rfl⟩

/-- A job is settled after so many steps of its refresh, whatever else is done. -/
theorem Run.exists_settled {job : Job} {r : Refresh} {rest : List Call} (hrun : Run k rest k')
    (hcurrent : k.loop.current = some (job, r)) (hsteps : r.stepsLeft < rest.countP Call.isOfJob) :
    ∃ result, .settled job result ∈ rest := by
  -- as long as it is not settled, the steps done and those left are no more than there were
  have hgoes : (∃ result, .settled job result ∈ rest) ∨ ∃ next,
      k'.loop.current = some (job, next) ∧
        next.stepsLeft + rest.countP Call.isOfJob ≤ r.stepsLeft := by
    clear hsteps
    induction hrun with
    | nil => exact .inr ⟨r, hcurrent, le_rfl⟩
    | elsewhere c hrun ih => exact ih
    | snoc hrun hstep ih =>
        rcases ih with ⟨result, hsettled⟩ | ⟨next, hnext, hle⟩
        · exact .inl ⟨result, List.mem_append_left _ hsettled⟩
        · rcases step_of_current hnext hstep.loop with ⟨result, rfl⟩ | ⟨next', hnext', hle'⟩
          · exact .inl ⟨result, List.mem_append_right _ (List.mem_singleton_self _)⟩
          · refine .inr ⟨next', hnext', ?_⟩
            rw [List.countP_append, List.countP_singleton]
            omega
  rcases hgoes with hsettled | ⟨r', -, hle⟩
  · exact hsettled
  · omega

/-- What a loop owes those who ask it for a refresh. -/
structure Dutiful (k : Desk) (history : List Call) : Prop where
  /-- It is at one job at most, and settles each that it takes up before the next. -/
  serial : taken history = (settled history).map Prod.fst ++ k.job?.toList
  /-- Requests are answered in the order in which they were sent, and none that was sent before
  a message to stop is passed over. -/
  order : beforeStop (posted history) = (answers history).map Prod.fst ++
    requesters k.job?.toList ++ beforeStop k.loop.inbox
  distinct : (sent history).Nodup
  ended : .ended ∈ history → k.job? = none ∧ k.loop.inbox = []
  /-- An answer reaches whoever has not left. -/
  delivered : ∀ n result, (n, result) ∈ answers history →
    (k.requests n = some .waiting ∧ ∃ k', Step k (.received n result) k') ∨
      k.requests n = some (.returned result) ∨ .left n ∈ history
  returned : ∀ n result, k.requests n = some (.returned result) →
    (n, result) ∈ answers history ∨
      result = .error .shutDown ∧ .ended ∈ history ∧ n ∉ (answers history).map Prod.fst
  /-- Whatever a job came to, the loop can take up another one after it. -/
  lasting : ∀ x k', Step k x k' → x.settlement? ≠ none → k'.loop.isIdle = true
  /-- A job under way can always go on, and is settled before long. -/
  answering : ∀ job r, k.loop.current = some (job, r) →
    (∀ fetched, ∃ k', Step k (r.call job fetched) k') ∧
      ∀ rest k', Run k rest k' → r.stepsLeft < rest.countP Call.isOfJob →
        ∃ result, .settled job result ∈ rest

theorem Recorded.isIdle_of_settlement (h : Recorded history l) (hstep : l.Step x l')
    (hx : x.settlement? ≠ none) : l'.isIdle = true := by
  cases hstep with
  | busy hidle htakes => simp [isIdle, answer, (current_of_isIdle hidle).1]
  | settled hcurrent => simp [isIdle, answer, h.running_of_current hcurrent]
  | aside haside => cases x <;> first | exact absurd rfl hx | cases haside
  | _ => exact absurd rfl hx

theorem Kept.delivered (h : Kept history k) (hanswered : (n, result) ∈ answers history) :
    (k.requests n = some .waiting ∧ ∃ k', Step k (.received n result) k') ∨
      k.requests n = some (.returned result) ∨ .left n ∈ history := by
  obtain ⟨hrecorded, -, haccounted⟩ := h
  have hsent : .sent n ∈ history :=
    mem_sent_iff.mp (hrecorded.answered_sublist.subset (List.mem_map_of_mem hanswered))
  have hreply : k.loop.reply? n = some result := by
    rw [reply?_eq_some_iff (haccounted.nodup_replies hrecorded), hrecorded.replies]
    exact hanswered
  have houtcome := haccounted.outcome n
  rcases hrequest : k.requests n with _ | _ | result' | _ <;> rw [hrequest] at houtcome
  · exact absurd hsent houtcome
  · exact .inl ⟨rfl, _, .receive hrequest hreply⟩
  · rcases houtcome with hanswered' | ⟨-, -, hnever⟩
    · rw [← hrecorded.replies, ← reply?_eq_some_iff (haccounted.nodup_replies hrecorded),
        hreply] at hanswered'
      exact .inr (.inl (by rw [Option.some.inj hanswered']))
    · exact absurd (List.mem_map_of_mem hanswered) hnever
  · exact .inr (.inr houtcome)

theorem Kept.dutiful (h : Kept history k) : k.Dutiful history where
  serial := h.recorded.jobs
  order := by
    rw [h.recorded.order, h.recorded.requesters_taken]
    rfl
  distinct := h.accounted.distinct
  ended hended := by
    obtain ⟨hcurrent, hinbox⟩ := h.recorded.emptied (h.recorded.ended.mpr hended)
    exact ⟨by simp [job?, hcurrent], hinbox⟩
  delivered _ _ hanswered := h.delivered hanswered
  returned n result hreturned := by
    have houtcome := h.accounted.outcome n
    rwa [hreturned] at houtcome
  lasting _ _ hstep hx := h.recorded.isIdle_of_settlement hstep.loop hx
  answering _ _ hcurrent :=
    ⟨fun fetched => ⟨_, .resume fetched hcurrent⟩, fun _ _ hrun => hrun.exists_settled hcurrent⟩

end Runs

end Desk

end FeatureFlags
