import FeatureFlags.Pattern.Machine
import FeatureFlags.Proofs.Cache.Deployment

namespace FeatureFlags

open Ledger

section Steps

variable [PatternEngine] {Party : Type} [DecidableEq Party] {k k' : Ledger Party}

theorem Ledger.Step.of_read {s : Snapshot} (h : Step k (.read s) k') : s = k.snapshot := by
  cases h
  rfl

theorem Ledger.Step.free_of_rejected {p : Party} (h : Step k (.rejected p) k') :
    k.underway p = none := by
  cases h with
  | rejected hfree hheld => exact hfree

end Steps

def loading {Party : Type} (p : Party) (flags : List Flag) (s : Snapshot) : List (Event Party) :=
  [.began p, .fetched p (.ok flags), .prepared p, .published p s, .ended p (.ok s.stats)]

theorem Cache.balanced_of_load [PatternEngine] {Party : Type} [DecidableEq Party]
    {validator : Option Validator} {flags : List Flag} {c : Cache} {stats : RefreshStats}
    (hload : Cache.load validator (.ok flags) = (c, .ok stats)) (p : Party) :
    Balanced (loading p flags c.snapshot) (c.ledger fun _ => none) := by
  obtain ⟨hbuild, -, hgeneration, hfree, -⟩ := Cache.load_eq_ok hload
  let created : Ledger Party := (Cache.create validator).ledger fun _ => none
  have hcreated : Balanced [] created :=
    ⟨.free rfl rfl, ⟨rfl, le_rfl, .nil, by simp [published], .nil, by simp [reads]⟩⟩
  have hbegan := hcreated.step (.began (p := p) rfl rfl)
  have hdrew := hbegan.step (@Ledger.Step.drew _ _ _ _ p flags (Function.update_self ..))
  have hprepared := hdrew.step (.prepared (Function.update_self ..))
  have hpublished := hprepared.step (.published (p := p) (s := c.snapshot) (by
    simp [Ledger.set, created, Cache.ledger, Cache.create, hbuild]))
  have hended := hpublished.step (.ended (Function.update_self ..))
  simpa [Ledger.set, created, Cache.ledger, Cache.create, hgeneration, hfree, loading] using hended

namespace Deployment

variable {Task Loop : Type} [DecidableEq Task] [DecidableEq Loop] {d d' : Deployment Task Loop}
  {l : Loop} {x : Notice Task Loop} {history : List (Notice Task Loop)}
  {validator : Option Validator} {flags : List Flag} {c : Cache} {stats : RefreshStats}

def booked (p : Refresher Task Loop) (flags : List Flag) (s : Snapshot)
    (history : List (Notice Task Loop)) : List (Event (Refresher Task Loop)) :=
  loading p flags s ++ events history

omit [DecidableEq Task] [DecidableEq Loop] in
theorem booked_snoc (p : Refresher Task Loop) (s : Snapshot) (history : List (Notice Task Loop))
    (x : Notice Task Loop) :
    booked p flags s (history ++ [x]) = booked p flags s history ++ [x.event] := by
  simp [booked, events]

variable [PatternEngine]

theorem Run.balanced (hload : Cache.load validator (.ok flags) = (c, .ok stats))
    (hrun : Run (loaded c) history d) (p : Refresher Task Loop) :
    Balanced (booked p flags c.snapshot history) d.ledger := by
  induction hrun with
  | nil =>
      have hnone : (loaded c : Deployment Task Loop).underway = fun _ => none := by
        funext q
        cases q <;> rfl
      have hledger : (loaded c : Deployment Task Loop).ledger = c.ledger fun _ => none :=
        congrArg c.ledger hnone
      simpa [booked, events, hledger] using Cache.balanced_of_load hload p
  | snoc hrun hstep ih =>
      rw [booked_snoc]
      exact ih.step hstep.ledger

theorem Run.exists_published (hload : Cache.load validator (.ok flags) = (c, .ok stats))
    (hrun : Run (loaded c) history d) {job : Job} {stats' : RefreshStats}
    (hsettled : .desk l (.settled job (.ok stats')) ∈ history) :
    ∃ s ∈ published (booked (.loop l) flags c.snapshot history), stats' = s.stats := by
  induction hrun with
  | nil => cases hsettled
  | @snoc earlier m x d' hrun hstep ih =>
      rw [booked_snoc, published_snoc]
      rcases List.mem_append.mp hsettled with hbefore | hlast
      · obtain ⟨s, hs, hstats⟩ := ih hbefore
        exact ⟨s, List.mem_append_left _ hs, hstats⟩
      · obtain rfl := List.mem_singleton.mp hlast
        obtain ⟨before, s, ⟨since, hbooked, -⟩, hstats⟩ :=
          (Run.balanced hload hrun (.loop l)).warrants hstep.ledger
        refine ⟨s, List.mem_append_left _ ?_, hstats.trans s.stats_eq.symm⟩
        rw [hbooked]
        exact List.mem_filterMap.mpr ⟨_, List.mem_append_right _ (List.mem_cons_self ..), rfl⟩

/-- Nobody who reads after a success was settled sees an older snapshot. -/
theorem Run.reads_after (hload : Cache.load validator (.ok flags) = (c, .ok stats))
    (hrun : Run (loaded c) history d) :
    history.Pairwise fun x y => ∀ l job stats s, x = .desk l (.settled job (.ok stats)) →
      y.event = .read s → stats.generation ≤ s.generation := by
  induction hrun with
  | nil => exact .nil
  | snoc hrun hstep ih =>
      refine pairwise_snoc ih ?_
      rintro _ hmem l job stats' s rfl hread
      obtain ⟨built, hbuilt, rfl⟩ := Run.exists_published hload hrun hmem
      have hledger := hstep.ledger
      rw [hread] at hledger
      rw [hledger.of_read]
      exact (Run.balanced hload hrun (.loop l)).ordered.published_le built hbuilt

theorem Run.exists_other_of_busy (hload : Cache.load validator (.ok flags) = (c, .ok stats))
    (hrun : Run (loaded c) history d) {job : Job} (hstep : Step d (.desk l (.busy job)) d') :
    ∃ p, p ≠ .loop l ∧ d.underway p ≠ none := by
  have hholding := (hrun.balanced hload (.loop l)).holding
  have hledger : Ledger.Step d.ledger (.rejected (.loop l)) d'.ledger := hstep.ledger
  obtain ⟨p, hp⟩ := hholding.refreshing_iff.mp hledger.of_rejected.2
  refine ⟨p, ?_, hp⟩
  rintro rfl
  exact hp hledger.free_of_rejected

theorem Run.warrants {before after : List (Notice Task Loop)} {y : Call}
    (hrun : Run (loaded c) (before ++ .desk l y :: after) d) :
    Desk.Warrants (calls l before) y := by
  obtain ⟨m, m', hbefore, hstep, -⟩ := hrun.cut
  cases hstep with
  | desk hdesk hcall =>
      obtain ⟨c', hrun'⟩ := (Run.desk hbefore l).2 _ hdesk
      exact hrun'.kept.warrants hcall

/-- Whatever callers, loops and readers do in between, every loop is dutiful to those who ask
it for a refresh, and whoever reads after a success was settled sees its snapshot or a newer
one. -/
theorem dutiful_of_run (hload : Cache.load validator (.ok flags) = (c, .ok stats))
    (hrun : Run (loaded c) history d) :
    (∀ l k, d.desk? l = some k → k.Dutiful (calls l history)) ∧
    (∀ before l y after, history = before ++ .desk l y :: after →
      Desk.Warrants (calls l before) y) ∧
    (∀ l job d', Step d (.desk l (.busy job)) d' → ∃ p, p ≠ .loop l ∧ d.underway p ≠ none) ∧
    history.Pairwise fun x y => ∀ l job stats s, x = .desk l (.settled job (.ok stats)) →
      y.event = .read s → stats.generation ≤ s.generation := by
  refine ⟨?_, ?_, ?_, hrun.reads_after hload⟩
  · intro l k hk
    obtain ⟨c, hdesk⟩ := (hrun.desk l).2 k hk
    exact hdesk.kept.dutiful
  · rintro before l y after rfl
    exact hrun.warrants
  · intro l job d' hstep
    exact hrun.exists_other_of_busy hload hstep

end Deployment

namespace Deployment

/-- A request crosses a refresh by a caller, and another one a tick that runs into a timeout
and a message to stop. -/
def crossing : List (Notice Nat Nat) :=
  [.opened 0, .desk 0 (.sent 1), .caller 0 (.began ()), .desk 0 (.busy (.request 1)),
    .desk 0 (.received 1 (.error .concurrentRefresh)), .caller 0 (.abandoned ()),
    .desk 0 (.sent 2), .desk 0 (.began .tick),
    .desk 0 (.advanced (.fetched () (.error (.timeout ⟨500⟩)))),
    .desk 0 (.settled .tick (.error (.timeout ⟨500⟩))), .desk 0 (.began (.request 2)),
    .desk 0 .stopSent, .desk 0 (.advanced (.fetched () (.ok []))),
    .desk 0 (.advanced (.prepared ())), .desk 0 (.advanced (.published () (.empty 2))),
    .desk 0 (.settled (.request 2) (.ok ⟨0, 2⟩)),
    .asked .snapshot (.empty 2) (.snapshot (.empty 2)), .desk 0 .ended,
    .desk 0 (.received 2 (.ok ⟨0, 2⟩))]

theorem dutiful_of_crossing :
    ∃ (c : Cache) (d : Deployment Nat Nat) (k : Desk),
      Cache.load none (.ok []) = (c, .ok ⟨0, 1⟩) ∧ Run (loaded c) crossing d ∧
        d.desk? 0 = some k ∧ k.Dutiful (calls 0 crossing) := by
  obtain ⟨c, hload⟩ : ∃ c, Cache.load none (.ok []) = (c, .ok ⟨0, 1⟩) :=
    Cache.exists_load_eq_ok none (rfl : (Snapshot.build [] 1).2 = .ok (.empty 1))
  obtain ⟨-, -, hgeneration, hfree, -⟩ := Cache.load_eq_ok hload
  obtain ⟨snapshot, generation, refreshing, ready, validator, metrics, events⟩ := c
  obtain rfl : generation = 1 := hgeneration
  obtain rfl : refreshing = false := hfree
  let c : Cache := ⟨snapshot, 1, false, ready, validator, metrics, events⟩
  have h1 : Run (loaded c : Deployment Nat Nat) ([] ++ [.opened 0]) _ := .snoc .nil (.start rfl)
  have h2 := h1.snoc (.desk (l := 0) rfl (.send (n := 1) rfl rfl (Nat.zero_lt_succ 15) rfl))
  have h3 := h2.snoc (.begin (t := 0) rfl rfl)
  have h4 := h3.snoc (.desk (l := 0) rfl (.take rfl rfl))
  have h5 := h4.snoc (.desk (l := 0) rfl (.receive (n := 1) rfl rfl))
  have h6 : Run (loaded c) (crossing.take 6) _ := h5.snoc (.abandon (t := 0) rfl)
  have h7 := h6.snoc (.desk (l := 0) rfl (.send (n := 2) rfl rfl (Nat.zero_lt_succ 15) rfl))
  have h8 := h7.snoc (.desk (l := 0) rfl (.tick rfl))
  have h9 := h8.snoc (.desk (l := 0) rfl (.resume (.error (.timeout ⟨500⟩)) rfl))
  have h10 := h9.snoc (.desk (l := 0) rfl (.resume (.ok []) rfl))
  replace h10 : Run (loaded c) (crossing.take 10) _ := h10
  have h11 := h10.snoc (.desk (l := 0) rfl (.take rfl rfl))
  have h12 := h11.snoc (.desk (l := 0) rfl (.stop rfl (Nat.zero_lt_succ 15) rfl))
  have h13 := h12.snoc (.desk (l := 0) rfl (.resume (.ok []) rfl))
  replace h13 : Run (loaded c) (crossing.take 13) _ := h13
  have h14 := h13.snoc (.desk (l := 0) rfl (.resume (.ok []) rfl))
  replace h14 : Run (loaded c) (crossing.take 14) _ := h14
  have h15 := h14.snoc (.desk (l := 0) rfl (.resume (.ok []) rfl))
  replace h15 : Run (loaded c) (crossing.take 15) _ := h15
  have h16 := h15.snoc (.desk (l := 0) rfl (.resume (.ok []) rfl))
  replace h16 : Run (loaded c) (crossing.take 16) _ := h16
  have h17 := h16.snoc (.ask .snapshot)
  replace h17 : Run (loaded c) (crossing.take 17) _ := h17
  have h18 := h17.snoc (.desk (l := 0) rfl (.finish rfl (.inl rfl)))
  have h19 := h18.snoc (.desk (l := 0) rfl (.receive (n := 2) rfl rfl))
  exact ⟨c, _, _, hload, h19, rfl, (dutiful_of_run hload h19).1 0 _ rfl⟩

end Deployment

end FeatureFlags
