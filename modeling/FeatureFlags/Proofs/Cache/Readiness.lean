import FeatureFlags.Pattern.Machine
import FeatureFlags.Proofs.Cache.Delivery
import FeatureFlags.Proofs.Cache.FailClosed

namespace FeatureFlags

open Ledger

section Desk

def Call.isEnd : Call → Bool
  | ended => true
  | _ => false

def Notice.isEnd {Task Loop : Type} : Notice Task Loop → Bool
  | desk _ y => y.isEnd
  | _ => false

theorem Cache.isEnd_beginning (c : Cache) (job : Job) : (c.beginning job).isEnd = false := by
  rw [beginning]
  split <;> rfl

theorem Refresh.isEnd_call (r : Refresh) (job : Job) (fetched : Fetched) :
    (r.call job fetched).isEnd = false := by
  cases r <;> rfl

variable [PatternEngine]

theorem Desk.Step.ready {k k' : Desk} {y : Call} (hstep : Desk.Step k y k') :
    k'.cache.ready = (k.cache.ready && !y.isEnd) := by
  cases hstep with
  | tick hidle =>
      rw [Cache.isEnd_beginning, Bool.not_false, Bool.and_true, setServing, Serving.tick,
        if_pos hidle]
      exact Serving.begin_ready _ _
  | take hidle hinbox =>
      rw [Cache.isEnd_beginning, Bool.not_false, Bool.and_true, setServing, Serving.take,
        if_pos hidle]
      simp only [hinbox]
      exact Serving.begin_ready _ _
  | resume fetched hcurrent =>
      rw [Refresh.isEnd_call, Bool.not_false, Bool.and_true]
      exact Serving.resume_ready fetched hcurrent
  | finish hidle hfinished =>
      rw [setServing, take_loop_of_finished hidle hfinished]
      exact (Bool.and_false _).symm
  | _ => exact (Bool.and_true _).symm

end Desk

theorem Ledger.Step.snapshot [PatternEngine] {Party : Type} [DecidableEq Party]
    {k k' : Ledger Party} {e : Event Party} (h : Step k e k') :
    k'.snapshot = e.published?.getD k.snapshot := by
  cases h <;> rfl

namespace Deployment

variable [PatternEngine]
variable {Task Loop : Type} [DecidableEq Task] [DecidableEq Loop] {d d' : Deployment Task Loop}
  {l : Loop} {x : Notice Task Loop} {k k' : Desk} {y : Call}
  {history rest : List (Notice Task Loop)} {validator : Option Validator} {flags : List Flag}
  {c : Cache} {stats : RefreshStats}

/-- What is served after a history: what was put up last, or else what was served before. -/
def served (s : Snapshot) (history : List (Notice Task Loop)) : Snapshot :=
  (published (events history)).getLast?.getD s

theorem Step.ready (hstep : Step d x d') : d'.cache.ready = (d.cache.ready && !x.isEnd) := by
  cases hstep with
  | begin hfree hacquire =>
      obtain ⟨-, rfl⟩ := Cache.acquire_eq_some_iff.mp hacquire
      exact (Bool.and_true _).symm
  | proceed fetched hrefresh hstep =>
      rw [show Notice.isEnd (.caller _ _) = false from rfl, Bool.not_false, Bool.and_true]
      exact Refresh.step_ready hstep
  | desk hdesk hstep =>
      obtain ⟨loop, -, rfl⟩ := exists_loop_of_desk? hdesk
      exact hstep.ready
  | ask q =>
      rw [setCache, Cache.ask_fst]
      exact (Bool.and_true _).symm
  | _ => exact (Bool.and_true _).symm

theorem Run.ready (hrun : Run d rest d') :
    d'.cache.ready = (d.cache.ready && rest.all fun x => !x.isEnd) := by
  induction hrun with
  | nil => simp
  | snoc hrun hstep ih => simp [hstep.ready, ih, Bool.and_assoc]

theorem Run.snapshot (hrun : Run d rest d') : d'.cache.snapshot = served d.cache.snapshot rest := by
  induction hrun with
  | nil => rfl
  | @snoc earlier m x d' hrun hstep ih =>
      have hledger : d'.cache.snapshot = x.event.published?.getD m.cache.snapshot :=
        hstep.ledger.snapshot
      rw [hledger, ih]
      cases h : x.event.published? <;> simp [served, events, h]

omit [PatternEngine] [DecidableEq Task] in
theorem ended_mem_calls_iff : .ended ∈ calls l history ↔ .desk l .ended ∈ history := by
  rw [calls, List.mem_filterMap]
  constructor
  · rintro ⟨x, hx, hcall⟩
    cases x with
    | desk m y =>
        rw [Notice.call?, ite_eq_iff] at hcall
        obtain ⟨rfl, hy⟩ | ⟨-, hnone⟩ := hcall
        · rw [← Option.some.inj hy]
          exact hx
        · cases hnone
    | _ => cases hcall
  · intro h
    exact ⟨_, h, by simp [Notice.call?]⟩

theorem Run.ended_iff (hrun : Run (loaded c) history d) {loop : RefreshLoop}
    (hloop : d.loops l = some loop) : loop.ended = true ↔ .desk l .ended ∈ history := by
  have hdesk : d.desk? l = some ⟨⟨d.cache, loop⟩, d.requests l⟩ := by
    rw [desk?, hloop, Option.map_some]
  obtain ⟨c', hcalls⟩ := (hrun.desk l).2 _ hdesk
  rw [← ended_mem_calls_iff]
  exact hcalls.kept.recorded.ended

theorem Run.loop_of_ended (hrun : Run (loaded c) history d) (h : .desk l .ended ∈ history) :
    ∃ loop, d.loops l = some loop ∧ loop.ended = true := by
  have hcall := ended_mem_calls_iff.mpr h
  rcases hloop : d.loops l with _ | loop
  · rw [(hrun.desk l).1 (by rw [desk?, hloop, Option.map_none])] at hcall
    cases hcall
  · exact ⟨loop, rfl, (hrun.ended_iff hloop).mpr h⟩

omit [PatternEngine] [DecidableEq Task] [DecidableEq Loop] in
theorem all_not_isEnd_iff :
    (history.all fun x => !x.isEnd) = true ↔ ∀ l, .desk l .ended ∉ history := by
  rw [List.all_eq_true]
  constructor
  · intro h l hmem
    exact absurd (h _ hmem) (by simp [Notice.isEnd, Call.isEnd])
  · intro h x hx
    rw [Bool.not_eq_true', Bool.eq_false_iff]
    intro hend
    cases x with
    | desk l y => cases y <;> first | exact h l hx | cases hend
    | _ => cases hend

/-- How a cache in use stands after a history, when `s` was loaded first. -/
structure Steady (d : Deployment Task Loop) (s : Snapshot) (history : List (Notice Task Loop)) :
    Prop where
  /-- It is ready as long as no loop has ended, and nobody is told otherwise. -/
  ready_iff : d.cache.ready = true ↔ ∀ l, .desk l .ended ∉ history
  loops_iff : d.cache.ready = true ↔ ∀ l loop, d.loops l = some loop → loop.ended = false
  told : ∀ before ready after, history = before ++ .polled ready :: after →
    (ready = true ↔ ∀ l, .desk l .ended ∉ before)
  /-- No step but the end of a loop changes that, and none changes it back. -/
  switched : ∀ x d', Step d x d' → d'.cache.ready = (d.cache.ready && !x.isEnd)
  lost : d.cache.ready = false → ∀ rest d', Run d rest d' → d'.cache.ready = false
  /-- Ready or not, it serves what was put up last. -/
  serving : d.cache.snapshot = served s history
  answered : ∀ before q held a after, history = before ++ .asked q held a :: after →
    held = served s before ∧ a = q.answerOn held
  handed : ∀ before held e after, history = before ++ .exported held e :: after →
    held = served s before ∧ e.flags = held.flags
  unchanged : ∀ rest d', Run d rest d' → published (events rest) = [] →
    (∀ q, (d'.cache.ask q).2 = (d.cache.ask q).2) ∧
      ∀ now, d'.cache.exported now = d.cache.exported now

theorem Run.ready_iff (hload : Cache.load validator (.ok flags) = (c, .ok stats))
    (hrun : Run (loaded c) history d) : d.cache.ready = true ↔ ∀ l, .desk l .ended ∉ history := by
  have hready : c.ready = true := (Cache.load_eq_ok hload).2.2.2.2
  have hall : d.cache.ready = (c.ready && history.all fun x => !x.isEnd) := hrun.ready
  rw [hall, hready, Bool.true_and, all_not_isEnd_iff]

/-- A loaded cache is ready until the first of its loops ends, and not any more after that,
whatever comes of refreshes. Ready or not, it goes on serving what was put up last. -/
theorem steady_of_run (hload : Cache.load validator (.ok flags) = (c, .ok stats))
    (hrun : Run (loaded c) history d) : d.Steady c.snapshot history := by
  refine
    { ready_iff := hrun.ready_iff hload
      loops_iff := ?_
      told := ?_
      switched := fun x d' hstep => hstep.ready
      lost := ?_
      serving := hrun.snapshot
      answered := ?_
      handed := ?_
      unchanged := ?_ }
  · rw [hrun.ready_iff hload]
    constructor
    · intro h l loop hloop
      rw [← Bool.not_eq_true, hrun.ended_iff hloop]
      exact h l
    · intro h l hmem
      obtain ⟨loop, hloop, hended⟩ := hrun.loop_of_ended hmem
      rw [h l loop hloop] at hended
      cases hended
  · rintro before ready after rfl
    obtain ⟨m, m', hbefore, hstep, -⟩ := hrun.cut
    cases hstep with
    | poll => exact Run.ready_iff hload hbefore
  · intro hlost rest d' hrest
    rw [hrest.ready, hlost, Bool.false_and]
  · rintro before q held a after rfl
    obtain ⟨m, m', hbefore, hstep, -⟩ := hrun.cut
    cases hstep with
    | ask => exact ⟨Run.snapshot hbefore, Cache.ask_snd _ _⟩
  · rintro before held e after rfl
    obtain ⟨m, m', hbefore, hstep, -⟩ := hrun.cut
    cases hstep with
    | hand now => exact ⟨Run.snapshot hbefore, rfl⟩
  · intro rest d' hrest hnone
    have hsame : d'.cache.snapshot = d.cache.snapshot := by
      rw [hrest.snapshot, served, hnone]
      rfl
    constructor
    · intro q
      rw [Cache.ask_snd, Cache.ask_snd, hsame]
    · intro now
      rw [Cache.exported, Cache.exported, hsame]

end Deployment

namespace Deployment

/-- One of two loops is shut down and started again under a new name, and the handle of the
other one is dropped after somebody has refreshed the cache. -/
def restarted : List (Notice Nat Nat) :=
  [.opened 0, .opened 1, .polled true, .desk 0 .stopSent, .desk 0 .ended, .polled false,
    .opened 2, .caller 0 (.began ()), .caller 0 (.fetched () (.ok [])), .caller 0 (.prepared ()),
    .caller 0 (.published () (.empty 2)), .caller 0 (.ended () (.ok ⟨0, 2⟩)), .desk 1 .dropped,
    .desk 1 .ended, .polled false, .asked .snapshot (.empty 2) (.snapshot (.empty 2))]

theorem steady_of_restarted :
    ∃ (c : Cache) (d : Deployment Nat Nat), Cache.load none (.ok []) = (c, .ok ⟨0, 1⟩) ∧
      Run (loaded c) restarted d ∧ d.Steady c.snapshot restarted := by
  obtain ⟨c, hload⟩ : ∃ c, Cache.load none (.ok []) = (c, .ok ⟨0, 1⟩) :=
    Cache.exists_load_eq_ok none (rfl : (Snapshot.build [] 1).2 = .ok (.empty 1))
  obtain ⟨-, -, hgeneration, hfree, hready⟩ := Cache.load_eq_ok hload
  obtain ⟨snapshot, generation, refreshing, ready, validator, metrics, events⟩ := c
  obtain rfl : generation = 1 := hgeneration
  obtain rfl : refreshing = false := hfree
  obtain rfl : ready = true := hready
  let c : Cache := ⟨snapshot, 1, false, true, validator, metrics, events⟩
  have h1 : Run (loaded c : Deployment Nat Nat) ([] ++ [.opened 0]) _ := .snoc .nil (.start rfl)
  have h2 := h1.snoc (.start (l := 1) rfl)
  have h3 := h2.snoc .poll
  have h4 := h3.snoc (.desk (l := 0) rfl (.stop rfl (Nat.zero_lt_succ 15) rfl))
  have h5 := h4.snoc (.desk (l := 0) rfl (.finish rfl (.inl rfl)))
  have h6 := h5.snoc .poll
  replace h6 : Run (loaded c) (restarted.take 6) _ := h6
  have h7 := h6.snoc (.start (l := 2) rfl)
  have h8 := h7.snoc (.begin (t := 0) rfl rfl)
  have h9 := h8.snoc (.proceed (t := 0) (.ok []) rfl rfl)
  have h10 := h9.snoc (.proceed (t := 0) (.ok []) rfl (Refresh.step_preparing _ _ _ _))
  have h11 := h10.snoc (.proceed (t := 0) (r := .publishing (.empty 2)) (.ok []) rfl rfl)
  have h12 := h11.snoc (.proceed (t := 0) (.ok []) rfl rfl)
  replace h12 : Run (loaded c) (restarted.take 12) _ := h12
  have h13 := h12.snoc (.desk (l := 1) rfl .drop)
  have h14 := h13.snoc (.desk (l := 1) rfl (.finish rfl (.inr ⟨rfl, rfl⟩)))
  have h15 := h14.snoc .poll
  have h16 := h15.snoc (.ask .snapshot)
  exact ⟨c, _, hload, h16, steady_of_run hload h16⟩

end Deployment

end FeatureFlags
