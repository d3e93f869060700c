import FeatureFlags.Pattern.Machine
import FeatureFlags.Proofs.Cache.Service
import FeatureFlags.Proofs.Snapshot.RoundTrip

namespace FeatureFlags

theorem Refresh.event_ne_rejected {Party : Type} {p q : Party} {fetched : Fetched}
    (r : Refresh) : r.event p fetched ≠ .rejected q := by
  cases r <;> simp [event]

theorem Refresh.outcome_eq_of_event {Party : Type} {p q : Party} {fetched outcome : Fetched}
    {r : Refresh} (h : .fetched q outcome = r.event p fetched) : outcome = fetched := by
  cases r with
  | fetching =>
      cases h
      rfl
  | _ => cases h

namespace Service

open Ledger

variable [PatternEngine]
variable {Task Loop : Type} [DecidableEq Task] [DecidableEq Loop] {s s' : Service Task Loop}
  {history before : List (Event (Refresher Task Loop))} {e : Event (Refresher Task Loop)}
  {p q : Refresher Task Loop} {validator : Option Validator}

theorem Run.exists_last (hrun : Run s (before ++ [e]) s') : ∃ m, Run s before m ∧ Step m e s' := by
  generalize hhistory : before ++ [e] = history at hrun
  cases hrun with
  | nil => simp at hhistory
  | @snoc earlier m e' s' hrun hstep =>
      obtain ⟨rfl, hlast⟩ := List.append_inj' hhistory rfl
      cases hlast
      exact ⟨m, hrun, hstep⟩

theorem balanced_unloaded (validator : Option Validator) :
    Balanced [] (unloaded validator : Service Task Loop).ledger := by
  refine ⟨.free rfl ?_, ⟨rfl, le_rfl, .nil, by simp [published], .nil, by simp [reads]⟩⟩
  funext p
  cases p <;> rfl

theorem Run.balanced (hrun : Run (unloaded validator) history s) : Balanced history s.ledger := by
  induction hrun with
  | nil => exact balanced_unloaded validator
  | snoc hrun hstep ih => exact ih.step hstep.ledger

theorem Run.warrants (hrun : Run (unloaded validator) history s) {after}
    (hhistory : history = before ++ e :: after) : Warrants before e := by
  induction hrun generalizing after with
  | nil => simp at hhistory
  | @snoc earlier m e' s' hrun hstep ih =>
      -- the event is the last one, or one of the run before
      rcases List.eq_nil_or_concat after with rfl | ⟨init, last, rfl⟩
      · obtain ⟨rfl, he⟩ := List.append_inj' hhistory rfl
        cases he
        exact hrun.balanced.warrants hstep.ledger
      · have hsplit : earlier ++ [e'] = (before ++ e :: init) ++ [last] := by
          simpa using hhistory
        exact ih (List.append_inj' hsplit rfl).1

section Rejection

omit [PatternEngine] [DecidableEq Task] [DecidableEq Loop] in
theorem refreshing_of_beginning (h : s.beginning q = .rejected p) : s.cache.refreshing = true := by
  by_contra hfree
  simp [beginning, hfree] at h

theorem Step.of_rejected (hstep : Step s e s') (he : e = .rejected p) :
    s'.cache = { s.cache with events := s'.cache.events } ∧ s'.refreshes = s.refreshes ∧
      s'.underway = s.underway := by
  have hunderway : s'.underway = s.underway := by
    subst he
    exact congrArg Ledger.underway hstep.ledger.of_rejected.1
  refine ⟨?_, ?_, hunderway⟩
  · cases hstep with
    | reject => rfl
    | proceed => exact absurd he (Refresh.event_ne_rejected _)
    | resume => exact absurd he (Refresh.event_ne_rejected _)
    | tick hloop hidle =>
        rw [Serving.tick, if_pos hidle,
          Serving.begin_of_refreshing _ _ (refreshing_of_beginning he)]
        rfl
    | takeRequest hloop hidle hinbox =>
        simp only [Serving.take, hidle, if_true, hinbox]
        rw [Serving.begin_of_refreshing _ _ (refreshing_of_beginning he)]
        rfl
    | _ => cases he
  · cases hstep with
    | proceed => exact absurd he (Refresh.event_ne_rejected _)
    | begin => cases he
    | abandon => cases he
    | _ => rfl

end Rejection

section Progress

variable {start : Service Task Loop} {r : Refresh}

theorem exists_step_of_underway (hrefresh : s.underway p = some r) (fetched : Fetched) :
    ∃ s', Step s (r.event p fetched) s' ∧
      s'.underway = Function.update s.underway p (r.step s.cache fetched).2.getLeft? := by
  rcases hstep : r.step s.cache fetched with ⟨c, next⟩
  cases p with
  | caller t =>
      refine ⟨_, .proceed fetched hrefresh hstep, ?_⟩
      rw [underway_setRefresh]
  | loop l =>
      obtain ⟨loop, hloop, hunderway⟩ := Option.bind_eq_some_iff.mp hrefresh
      obtain ⟨⟨job, r'⟩, hcurrent, rfl⟩ := Option.map_eq_some_iff.mp hunderway
      refine ⟨_, .resume fetched hloop hcurrent, ?_⟩
      rw [setServing, underway_setLoop, Option.bind_some,
        (Serving.resume_eq (u := s.underway) (s := ⟨s.cache, loop⟩) hcurrent hstep).1]

/-- Every run can go on until what is under way has ended, whatever is fetched. -/
theorem Run.exists_ended (fetched : Fetched) (hrun : Run start history s)
    (hrefresh : s.underway p = some r) :
    ∃ rest s', Run start (history ++ rest) s' ∧
      (∀ q outcome, .fetched q outcome ∈ rest → outcome = fetched) ∧
      s'.underway = Function.update s.underway p none := by
  -- every step but the last leaves the refresh fewer steps to go
  induction hleft : r.stepsLeft using Nat.strongRecOn generalizing r s history with
  | ind n ih =>
      obtain ⟨m, hstep, hunderway⟩ := exists_step_of_underway hrefresh fetched
      rcases hnext : r.step s.cache fetched with ⟨c, next | result⟩
      · rw [hnext] at hunderway
        have hgoes : m.underway p = some next := by
          rw [hunderway, Function.update_self]
          rfl
        obtain ⟨rest, s', hrest, houtcome, hended⟩ := ih next.stepsLeft
          (hleft ▸ Refresh.stepsLeft_step hnext) (hrun.snoc hstep) hgoes rfl
        refine ⟨r.event p fetched :: rest, s', by simpa using hrest, ?_, ?_⟩
        · intro q outcome hmem
          rcases List.mem_cons.mp hmem with hevent | hmem
          · exact Refresh.outcome_eq_of_event hevent
          · exact houtcome q outcome hmem
        · rw [hended, hunderway, Function.update_idem]
      · rw [hnext] at hunderway
        refine ⟨[r.event p fetched], m, hrun.snoc hstep, ?_, hunderway⟩
        intro q outcome hmem
        exact Refresh.outcome_eq_of_event (List.mem_singleton.mp hmem)

theorem Run.exists_free (fetched : Fetched) (hrun : Run start history s)
    (hholding : Holding history s.ledger) :
    ∃ rest s', Run start (history ++ rest) s' ∧
      (∀ q outcome, .fetched q outcome ∈ rest → outcome = fetched) ∧
      ∀ q, s'.underway q = none := by
  cases hholding with
  | free _ hnone => exact ⟨[], s, by simpa using hrun, by simp, congrFun hnone⟩
  | held p r _ hone =>
      have hrefresh : s.underway p = some r :=
        (congrFun hone p).trans (Function.update_self p _ _)
      obtain ⟨rest, s', hrest, houtcome, hended⟩ := hrun.exists_ended fetched hrefresh
      refine ⟨rest, s', hrest, houtcome, fun q => ?_⟩
      rw [hended, show s.underway = _ from hone, Function.update_idem,
        Function.update_eq_self_iff.mpr rfl]

end Progress

/-- How refreshing stands after a history of events. -/
structure Sound (start : Service Task Loop) (history : List (Event (Refresher Task Loop)))
    (s : Service Task Loop) : Prop where
  /-- At most one refresh is between taking the permit and giving it back. -/
  alone : ∀ p q, s.underway p ≠ none → s.underway q ≠ none → p = q
  /-- As long as it is, a refresh is rejected and changes nothing. -/
  rejecting : ∀ p, s.underway p ≠ none →
    ∀ fetched, s.cache.refresh fetched = (s.cache, .error .concurrentRefresh)
  rejected : ∀ p s', s.Step (.rejected p) s' → (∃ q, s.underway q ≠ none) ∧
    s'.cache = { s.cache with events := s'.cache.events } ∧ s'.refreshes = s.refreshes ∧
      s'.underway = s.underway
  /-- Otherwise the permit is free, as it is after every end of a refresh. -/
  admitting : (∀ p, s.underway p = none) →
    s.cache.acquire = some { s.cache with refreshing := true }
  released : ∀ before e, history = before ++ [e] → e.Ends → ∀ p, s.underway p = none
  /-- It can always come free again, whatever the fetch under way comes to. -/
  reopening : ∀ fetched, ∃ rest s', Run start (history ++ rest) s' ∧
    (∀ p outcome, .fetched p outcome ∈ rest → outcome = fetched) ∧ ∀ p, s'.underway p = none
  counted : s.cache.generation = fetches history
  numbered : ∀ before p flags, history = before ++ [.fetched p (.ok flags)] →
    s.underway p = some (.preparing flags (1 + fetches before))
  warranted : ∀ before e after, history = before ++ e :: after → Warrants before e
  increasing : (published history).Pairwise fun s s' => s.generation < s'.generation
  nondecreasing : (reads history).Pairwise fun s s' => s.generation ≤ s'.generation
  /-- A counter of 64 bits shows the same numbers, up to `2 ^ 64` successful fetches. -/
  fitting : fetches history < UInt64.size → s.cache.generation < UInt64.size ∧
    ∀ s ∈ published history ++ reads history, s.generation < UInt64.size

theorem refresh_of_refreshing {c : Cache} (h : c.refreshing = true) (fetched : Fetched) :
    c.refresh fetched = (c, .error .concurrentRefresh) := by
  rw [Cache.refresh, Cache.acquire_eq_none_iff.mpr h]

/-- In every run of a cache, from before its first load on, refreshing is sound: whoever
refreshes, and in whatever order they go on, fail, run into a timeout or are dropped. -/
theorem sound_of_run (hrun : Run (unloaded validator) history s) :
    Sound (unloaded validator) history s := by
  obtain ⟨hholding, hordered⟩ := hrun.balanced
  have hpermit : s.cache.refreshing = true ↔ ∃ p, s.underway p ≠ none := hholding.refreshing_iff
  refine
    { alone := fun p q hp hq => hholding.eq_of_underway hp hq
      rejecting := fun p hp => refresh_of_refreshing (hpermit.mpr ⟨p, hp⟩)
      rejected := ?_
      admitting := ?_
      released := ?_
      reopening := fun fetched => hrun.exists_free fetched hholding
      counted := hordered.generation
      numbered := ?_
      warranted := fun before e after hhistory => hrun.warrants hhistory
      increasing := hordered.increasing
      nondecreasing := hordered.nondecreasing
      fitting := hordered.lt_of_fetches_lt }
  · intro p s' hstep
    exact ⟨hpermit.mp hstep.ledger.of_rejected.2, hstep.of_rejected rfl⟩
  · intro hnone
    refine Cache.acquire_eq_some_iff.mpr ⟨?_, rfl⟩
    rw [← Bool.not_eq_true, hpermit]
    rintro ⟨p, hp⟩
    exact hp (hnone p)
  · rintro before e rfl hends p
    obtain ⟨m, hbefore, hstep⟩ := hrun.exists_last
    exact hbefore.balanced.free_of_ends hstep.ledger hends p
  · rintro before p flags rfl
    obtain ⟨m, hbefore, hstep⟩ := hrun.exists_last
    rw [Nat.add_comm]
    exact hbefore.balanced.underway_of_fetched hstep.ledger

end Service

namespace Service

open Ledger

def twoFlags : List Flag :=
  [.plain 1 "a" [], .plain 2 "b" []]

/-- A caller loads two flags, and comes between a tick of a loop and its timeout. -/
def lateCaller (loaded : Snapshot) : List (Event (Refresher Nat Nat)) :=
  [.began (.caller 0), .fetched (.caller 0) (.ok twoFlags),
    .prepared (.caller 0), .published (.caller 0) loaded, .ended (.caller 0) (.ok ⟨2, 1⟩),
    .aside, .aside, .began (.loop 0), .rejected (.caller 0),
    .fetched (.loop 0) (.error (.timeout ⟨500⟩)), .ended (.loop 0) (.error (.timeout ⟨500⟩))]

theorem sound_of_lateCaller :
    ∃ (loaded : Snapshot) (s : Service Nat Nat), Run (unloaded none) (lateCaller loaded) s ∧
      Sound (unloaded none) (lateCaller loaded) s ∧ s.cache.snapshot = loaded ∧
      loaded.flags.length = 2 ∧ fetches (lateCaller loaded) = 1 := by
  obtain ⟨loaded, hbuild⟩ : ∃ s, (Snapshot.build twoFlags 1).2 = .ok s := by
    simp [twoFlags, Snapshot.exists_build_eq_ok_iff]
  have hlength : loaded.flags.length = 2 := Snapshot.length_flags_of_build hbuild
  have hstats : loaded.stats = ⟨2, 1⟩ := by
    rw [loaded.stats_eq, hlength, Snapshot.generation_of_build hbuild]
  have hprepare (c : Cache) : (Refresh.preparing twoFlags 1).step c (.ok []) =
      ((c.prepare twoFlags 1).1, .inl (.publishing loaded)) := by
    rw [Refresh.step_preparing, hbuild]
  have hbegan : Run (unloaded none : Service Nat Nat) ([] ++ [.began (.caller 0)]) _ :=
    .snoc .nil (.begin rfl rfl)
  have hfetched := hbegan.snoc (.proceed (t := 0) (.ok twoFlags) rfl rfl)
  have hprepared := hfetched.snoc (.proceed (t := 0) (.ok []) rfl (hprepare _))
  have hpublished := hprepared.snoc (.proceed (t := 0) (.ok []) rfl rfl)
  have hended := hpublished.snoc (.proceed (t := 0) (.ok []) rfl rfl)
  have hstarted := (hended.snoc .markReady).snoc (.start (l := 0) rfl)
  have htick := hstarted.snoc (.tick (l := 0) rfl rfl)
  have hrejected := htick.snoc (.reject (t := 0) rfl rfl)
  have htimeout := hrejected.snoc (.resume (l := 0) (.error (.timeout ⟨500⟩)) rfl rfl)
  have hfailed := htimeout.snoc (.resume (l := 0) (.error (.timeout ⟨500⟩)) rfl rfl)
  rw [hstats] at hfailed
  exact ⟨loaded, _, hfailed, sound_of_run hfailed, rfl, hlength, rfl⟩

end Service

end FeatureFlags
