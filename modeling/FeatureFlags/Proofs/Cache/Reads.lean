import FeatureFlags.Pattern.Machine
import FeatureFlags.Proofs.Cache.History
import FeatureFlags.Proofs.Snapshot.Index

namespace FeatureFlags.SharedCache

open History

variable [PatternEngine]
variable {Task : Type} {first : List Flag} {history : List (Action Task)} {a : Action Task}
  {t : Task}

/-- A refresh under way holds nothing but what its task fetched last. -/
def Backed (history : List (Action Task)) (t : Task) : Refresh → Prop
  | .preparing flags generation => Drew history t flags generation
  | .publishing s => ∃ flags generation, Drew history t flags generation ∧
      (Snapshot.build flags generation).2 = .ok s
  | _ => True

theorem Backed.snoc {r : Refresh} (h : Backed history t r) (ha : ¬ a.Opens t) :
    Backed (history ++ [a]) t r := by
  cases r with
  | fetching => trivial
  | preparing flags generation => exact Drew.snoc h ha
  | publishing s =>
      obtain ⟨flags, generation, hdrew, hbuild⟩ := h
      exact ⟨flags, generation, hdrew.snoc ha, hbuild⟩
  | finishing result => trivial

/-- A snapshot is the one that the last swap put there. -/
def Served (first : List Flag) (history : List (Action Task)) (s : Snapshot) : Prop :=
  ∃ flags generation, LastSwap first history flags generation ∧
    (Snapshot.build flags generation).2 = .ok s

theorem Served.snoc {s : Snapshot} (h : Served first history s) (ha : ¬ a.IsSwap) :
    Served first (history ++ [a]) s := by
  obtain ⟨flags, generation, hlast, hbuild⟩ := h
  exact ⟨flags, generation, hlast.snoc ha, hbuild⟩

/-- A reader holds what it took last, and has evaluated on nothing else. -/
structure Kept (history : List (Action Task)) (t : Task) (r : Reading) : Prop where
  taken : ∃ before, LastOf (Action.Takes t) history before (.take t r.query r.held)
  evaluated : r.results ++ r.pending.map r.held.evaluate =
    (r.query.contexts r.held).map r.held.evaluate

theorem Kept.snoc {r : Reading} (h : Kept history t r) (ha : ¬ a.Takes t) :
    Kept (history ++ [a]) t r := by
  obtain ⟨before, hlast⟩ := h.taken
  exact ⟨⟨before, hlast.snoc ha⟩, h.evaluated⟩

theorem Kept.answer_eq {r : Reading} {answer : Answer} (h : Kept history t r)
    (hanswer : r.answer? = some answer) : answer = r.query.answerOn r.held :=
  Reading.answer_eq h.evaluated hanswer

/-- What a history says of the state that it leads to. -/
structure Faithful (first : List Flag) (history : List (Action Task))
    (s : SharedCache Task) : Prop where
  generation : s.cache.generation = fetches history + 1
  refreshes : ∀ t r, s.refreshes t = some r → Backed history t r
  served : Served first history s.cache.snapshot
  readings : ∀ t r, s.readings t = some r → Kept history t r

theorem faithful_idle {validator : Option Validator} {c : Cache} {stats : RefreshStats}
    (hload : Cache.load validator (.ok first) = (c, .ok stats)) :
    Faithful first [] (idle c : SharedCache Task) := by
  obtain ⟨hbuild, -, hgeneration, -, -⟩ := Cache.load_eq_ok hload
  refine ⟨hgeneration, ?_, ⟨first, 1, .load (by simp), hbuild⟩, ?_⟩
  · intro t r h
    cases h
  · intro t r h
    cases h

variable [DecidableEq Task] {s s' : SharedCache Task}

theorem Faithful.setRefresh (h : Faithful first history s) {c : Cache}
    {next : Option Refresh} (hopens : ∀ t' ≠ t, ¬ a.Opens t') (htakes : ∀ t', ¬ a.Takes t')
    (hgeneration : c.generation = fetches (history ++ [a]) + 1)
    (hserved : Served first (history ++ [a]) c.snapshot)
    (hnext : ∀ r, next = some r → Backed (history ++ [a]) t r) :
    Faithful first (history ++ [a]) (s.setRefresh t c next) := by
  refine ⟨hgeneration, ?_, hserved, ?_⟩
  · intro t' r hr
    by_cases hsame : t' = t
    · subst hsame
      exact hnext r (by simpa using hr)
    · refine (h.refreshes t' r ?_).snoc (hopens t' hsame)
      simpa [hsame] using hr
  · intro t' r hr
    exact (h.readings t' r hr).snoc (htakes t')

theorem Faithful.setReading (h : Faithful first history s) {c : Cache}
    {next : Option Reading} (hopens : ∀ t', ¬ a.Opens t') (hswap : ¬ a.IsSwap)
    (htakes : ∀ t' ≠ t, ¬ a.Takes t') (hfetch : a.isSuccessfulFetch = false)
    (hgeneration : c.generation = s.cache.generation)
    (hsnapshot : c.snapshot = s.cache.snapshot)
    (hnext : ∀ r, next = some r → Kept (history ++ [a]) t r) :
    Faithful first (history ++ [a]) (s.setReading t c next) := by
  refine ⟨?_, ?_, ?_, ?_⟩
  · simpa [fetches_snoc, hfetch, hgeneration] using h.generation
  · intro t' r hr
    exact (h.refreshes t' r hr).snoc (hopens t')
  · simpa [hsnapshot] using h.served.snoc hswap
  · intro t' r hr
    by_cases hsame : t' = t
    · subst hsame
      exact hnext r (by simpa using hr)
    · refine (h.readings t' r ?_).snoc (htakes t' hsame)
      simpa [hsame] using hr

theorem Faithful.proceed (h : Faithful first history s) {r : Refresh} {fetched : Fetched}
    {c : Cache} {next : Refresh ⊕ Except CacheError RefreshStats}
    (hrefresh : s.refreshes t = some r) (hstep : r.step s.cache fetched = (c, next)) :
    Faithful first (history ++ [r.action t fetched]) (s.setRefresh t c next.getLeft?) := by
  have hgeneration := h.generation
  have hbacked := h.refreshes t r hrefresh
  cases r with
  | fetching =>
      have hopens : ∀ t' ≠ t, ¬ (Action.fetch t fetched).Opens t' := by
        intro t' hne
        simp [Action.Opens, hne.symm]
      have hserved := h.served.snoc (a := .fetch t fetched) (by simp [Action.IsSwap])
      cases fetched with
      | error e =>
          cases hstep
          refine h.setRefresh hopens (by simp [Action.Takes, Refresh.action]) ?_ hserved ?_
          · simpa [Refresh.action, fetches_snoc, Action.isSuccessfulFetch] using hgeneration
          · rintro r ⟨⟩
            trivial
      | ok flags =>
          cases hstep
          refine h.setRefresh hopens (by simp [Action.Takes, Refresh.action]) ?_ hserved ?_
          · simpa [Refresh.action, fetches_snoc, Action.isSuccessfulFetch] using hgeneration
          · rintro r ⟨⟩
            have hdrawn : s.cache.draw.generation = fetches history + 2 := by
              rw [Cache.draw_generation, hgeneration]
            rw [hdrawn]
            exact drew_fetch history t flags
  | preparing flags generation =>
      rw [Refresh.step_preparing] at hstep
      cases hstep
      refine h.setRefresh (by simp [Action.Opens, Refresh.action])
        (by simp [Action.Takes, Refresh.action]) ?_ ?_ ?_
      · simpa [Refresh.action, fetches_snoc, Action.isSuccessfulFetch] using hgeneration
      · rw [Cache.prepare_snapshot]
        exact h.served.snoc (by simp [Action.IsSwap, Refresh.action])
      · rintro r ⟨⟩
        cases hbuild : (Snapshot.build flags generation).2 with
        | error e => trivial
        | ok built =>
            exact ⟨flags, generation,
              Drew.snoc hbacked (by simp [Action.Opens, Refresh.action]), hbuild⟩
  | publishing built =>
      cases hstep
      refine h.setRefresh (by simp [Action.Opens, Refresh.action])
        (by simp [Action.Takes, Refresh.action]) ?_ ?_ ?_
      · simpa [Refresh.action, fetches_snoc, Action.isSuccessfulFetch] using hgeneration
      · -- The only step that changes what is served: the swap itself is the last one.
        obtain ⟨flags, generation, hdrew, hbuild⟩ := hbacked
        exact ⟨flags, generation, .refresh (lastOf_snoc _ _ _) hdrew, hbuild⟩
      · rintro r ⟨⟩
        trivial
  | finishing result =>
      cases hstep
      refine h.setRefresh (by simp [Action.Opens, Refresh.action])
        (by simp [Action.Takes, Refresh.action]) ?_ ?_ ?_
      · simpa [Refresh.action, fetches_snoc, Action.isSuccessfulFetch] using hgeneration
      · exact h.served.snoc (by simp [Action.IsSwap, Refresh.action])
      · rintro r ⟨⟩

theorem Faithful.step (h : Faithful first history s) (hstep : Step s a s') :
    Faithful first (history ++ [a]) s' := by
  have hgeneration := h.generation
  cases hstep with
  | reject hfree htaken =>
      refine ⟨?_, fun t' r hr => (h.refreshes t' r hr).snoc (by simp [Action.Opens]),
        h.served.snoc (by simp [Action.IsSwap]),
        fun t' r hr => (h.readings t' r hr).snoc (by simp [Action.Takes])⟩
      simpa [fetches_snoc, Action.isSuccessfulFetch] using hgeneration
  | @begin t c hfree hacquire =>
      obtain ⟨-, rfl⟩ := Cache.acquire_eq_some_iff.mp hacquire
      refine h.setRefresh ?_ (by simp [Action.Takes]) ?_
        (h.served.snoc (by simp [Action.IsSwap])) ?_
      · intro t' hne
        simp [Action.Opens, hne.symm]
      · simpa [fetches_snoc, Action.isSuccessfulFetch] using hgeneration
      · rintro r ⟨⟩
        trivial
  | proceed hrefresh haction hstep =>
      subst haction
      exact h.proceed hrefresh hstep
  | abandon hrefresh =>
      refine h.setRefresh (by simp [Action.Opens]) (by simp [Action.Takes]) ?_
        (h.served.snoc (by simp [Action.IsSwap])) ?_
      · simpa [fetches_snoc, Action.isSuccessfulFetch] using hgeneration
      · rintro r ⟨⟩
  | @take t query hfree =>
      refine h.setReading (by simp [Action.Opens]) (by simp [Action.IsSwap]) ?_ rfl rfl rfl ?_
      · intro t' hne
        simp [Action.Takes, hne.symm]
      · rintro r ⟨⟩
        exact ⟨⟨history, lastOf_snoc _ _ _⟩, rfl⟩
  | @evaluate t r context rest c result hreading hpending heval =>
      cases heval
      refine h.setReading (by simp [Action.Opens]) (by simp [Action.IsSwap])
        (by simp [Action.Takes]) rfl rfl rfl ?_
      rintro r' ⟨⟩
      have hkept := (h.readings t r hreading).snoc (a := .evaluate t) (by simp [Action.Takes])
      refine ⟨hkept.taken, ?_⟩
      rw [← hkept.evaluated, hpending]
      simp
  | answer hreading hanswer =>
      refine h.setReading (by simp [Action.Opens]) (by simp [Action.IsSwap])
        (by simp [Action.Takes]) rfl rfl rfl ?_
      rintro r ⟨⟩

theorem Faithful.run {start : SharedCache Task} (h : Faithful first [] start)
    (hrun : Run start history s) : Faithful first history s := by
  induction hrun with
  | nil => exact h
  | snoc _ hstep ih => exact ih.step hstep

/-- Whatever refreshes and other readers do in between, a reader takes the snapshot of
all flags of the one refresh that swapped last before it, and its whole answer, be it of
a large batch, is that of the snapshot it took. -/
theorem exists_lastSwap_of_take_and_answer {validator : Option Validator} {c : Cache}
    {stats : RefreshStats} (hload : Cache.load validator (.ok first) = (c, .ok stats))
    (hrun : Run (idle c) history s) :
    (∀ before t query held after, history = before ++ .take t query held :: after →
      ∃! served : List Flag × Nat, LastSwap first before served.1 served.2 ∧
        (Snapshot.build served.1 served.2).2 = .ok held) ∧
    ∀ before t answer after, history = before ++ .answer t answer :: after →
      ∃ start query held, LastOf (Action.Takes t) before start (.take t query held) ∧
        answer = query.answerOn held := by
  have hidle : Faithful first [] (idle c : SharedCache Task) := faithful_idle hload
  constructor
  · rintro before t query held after rfl
    obtain ⟨m, m', hbefore, hstep, -⟩ := hrun.cut
    obtain ⟨flags, generation, hlast, hbuild⟩ := (hidle.run hbefore).served
    rw [hstep.held_eq]
    refine ⟨(flags, generation), ⟨hlast, hbuild⟩, ?_⟩
    rintro ⟨flags', generation'⟩ ⟨hlast', -⟩
    obtain ⟨rfl, rfl⟩ := hlast'.unique hlast
    rfl
  · rintro before t answer after rfl
    obtain ⟨m, m', hbefore, hstep, -⟩ := hrun.cut
    obtain ⟨r, hreading, hanswer⟩ := hstep.exists_reading
    have hkept := (hidle.run hbefore).readings t r hreading
    obtain ⟨start, hlast⟩ := hkept.taken
    exact ⟨start, r.query, r.held, hlast, hkept.answer_eq hanswer⟩

end FeatureFlags.SharedCache

namespace FeatureFlags.SharedCache

open History

def plainBatch : BatchRequest :=
  ⟨[⟨"e", "", []⟩], [7], [], [], .any, false⟩

/-- A reader begins a batch before a swap and answers it after. -/
def swapDuringBatch (old : Snapshot) : List (Action Nat) :=
  [.take 0 (.batch plainBatch) old, .begin 1, .fetch 1 (.ok [.plain 7 "plain" []]), .prepare 1,
    .swap 1, .evaluate 0, .answer 0 (.batch [.error (.flagNotFound (.id 7))])]

theorem exists_lastSwap_of_swapDuringBatch :
    ∃ (c : Cache) (s : SharedCache Nat) (new : Snapshot),
      Cache.load none (.ok []) = (c, .ok ⟨0, 1⟩) ∧
      Run (idle c) (swapDuringBatch c.snapshot ++ [.take 0 .snapshot new]) s ∧
      ∃! served : List Flag × Nat,
        LastSwap [] (swapDuringBatch c.snapshot) served.1 served.2 ∧
        (Snapshot.build served.1 served.2).2 = .ok new := by
  obtain ⟨c, hload⟩ : ∃ c, Cache.load none (.ok []) = (c, .ok ⟨0, 1⟩) :=
    Cache.exists_load_eq_ok none (rfl : (Snapshot.build [] 1).2 = .ok (.empty 1))
  obtain ⟨new, hbuild⟩ : ∃ new, (Snapshot.build [.plain 7 "plain" []] 2).2 = .ok new := by
    simp [Snapshot.exists_build_eq_ok_iff]
  obtain ⟨hempty, -, hgeneration, hfree, -⟩ := Cache.load_eq_ok hload
  have hold : c.snapshot = .empty 1 := (Except.ok.inj hempty).symm
  let held : Cache := { c with refreshing := true }
  let r : Reading := ⟨.batch plainBatch, c.snapshot, plainBatch.contexts c.snapshot, []⟩
  let evaluated : Reading := { r with
    pending := [], results := (plainBatch.contexts c.snapshot).map c.snapshot.evaluate }
  have hanswered : evaluated.answer? = some (.batch [.error (.flagNotFound (.id 7))]) := by
    simp only [evaluated, r, hold]
    rfl
  have htake : Run (idle c) ([] ++ [.take 0 (.batch plainBatch) c.snapshot])
      ((idle c).setReading 0 c (some r)) := .snoc .nil (.take rfl)
  have hbegin := htake.snoc (.begin (t := 1) (c := held) rfl
    (Cache.acquire_eq_some_iff.mpr ⟨hfree, rfl⟩))
  have hfetch := hbegin.snoc (.proceed (t := 1) (r := .fetching) (by simp)
    (rfl : Action.fetch 1 (.ok [.plain 7 "plain" []]) = _) rfl)
  have hprepare := hfetch.snoc (.proceed (t := 1) (r := .preparing [.plain 7 "plain" []] 2)
    (by simp [held, hgeneration]) (rfl : Action.prepare 1 = _)
    (Refresh.step_preparing _ (.ok [.plain 7 "plain" []]) _ _))
  have hswap := hprepare.snoc (.proceed (t := 1) (r := .publishing new) (by simp [hbuild])
    (rfl : Action.swap 1 = Refresh.action 1 (.ok [.plain 7 "plain" []]) _) rfl)
  have hevaluate := hswap.snoc (.evaluate (t := 0) (r := r) (by simp) rfl rfl)
  have hanswer := hevaluate.snoc (.answer (t := 0) (r := evaluated)
    (by rw [setReading_readings, Function.update_self]; rfl) hanswered)
  have hrun := hanswer.snoc (@Step.take Nat _ _ _ 0 .snapshot (by simp))
  refine ⟨c, _, new, hload, hrun, ?_⟩
  exact (exists_lastSwap_of_take_and_answer hload hrun).1 (swapDuringBatch c.snapshot)
    0 .snapshot new [] rfl

end FeatureFlags.SharedCache
