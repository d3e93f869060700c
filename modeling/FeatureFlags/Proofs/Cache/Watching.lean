import FeatureFlags.Pattern.Machine
import FeatureFlags.Proofs.Cache.Reports

namespace FeatureFlags.Deployment

open Ledger

variable [PatternEngine] {Task Loop : Type} [DecidableEq Task] [DecidableEq Loop]

/-- What a cache in use has reported by the end of a run. -/
structure Watches (v : Option Validator) (c : Cache) (history : List (Notice Task Loop))
    (d : Deployment Task Loop) : Prop where
  /-- Of each snapshot that was put up, and of the one that is about to be, all that breaks the
  rules, and nothing else. -/
  reports : ∃ awaited, d.ledger.Awaits awaited ∧ d.cache.reports =
    (c.snapshot :: published (events history) ++ awaited).flatMap (·.breaches v)
  counted : d.cache.metrics.validationFailures = d.cache.reports.length
  complaints : ∀ s ∈ c.snapshot :: published (events history), ∀ id e,
    (id, e) ∈ s.breaches v ↔ ∃ rules ∈ v, ∃ f ∈ s.flags, f.id = id ∧ f.enabled = true ∧
      rules.Breaks f ∧ e = .failed f.key (rules.broken f)
  ordered : ∀ s ∈ c.snapshot :: published (events history),
    (s.breaches v).Pairwise fun a b => a.1 < b.1

variable {d d' : Deployment Task Loop} {history : List (Notice Task Loop)}
  {ops : List (Operation Task Loop)} {v : Option Validator} {flags : List Flag}
  {fetched : Fetched} {c c' : Cache} {stats : RefreshStats}

theorem exists_refresh_of_load (hload : Cache.load v fetched = (c, .ok stats)) :
    ∃ c', (Cache.create v).refresh fetched = (c', .ok stats) ∧ c = c'.markReady := by
  rw [Cache.load] at hload
  rcases hrefresh : (Cache.create v).refresh fetched with ⟨c', e | stats'⟩
  · rw [hrefresh] at hload
    cases hload
  · rw [hrefresh] at hload
    obtain ⟨rfl, hstats⟩ := Prod.mk.inj hload
    exact ⟨c', by rw [Except.ok.inj hstats], rfl⟩

theorem exists_flags_of_load (hload : Cache.load v fetched = (c, .ok stats)) :
    ∃ flags, fetched = .ok flags := by
  obtain ⟨c', hrefresh, -⟩ := exists_refresh_of_load hload
  cases fetched with
  | ok flags => exact ⟨flags, rfl⟩
  | error e =>
      rw [Cache.refresh, Cache.acquire_eq_some_iff.mpr ⟨rfl, rfl⟩] at hrefresh
      dsimp only at hrefresh
      rw [Refresh.run_fetching_error] at hrefresh
      cases hrefresh

theorem reports_of_load (hload : Cache.load v fetched = (c, .ok stats)) :
    c.reports = c.snapshot.breaches v ∧
      c.metrics.validationFailures = c.reports.length ∧ c.validator = v := by
  obtain ⟨c', hrefresh, rfl⟩ := exists_refresh_of_load hload
  obtain ⟨hreports, hcounted, hvalidator⟩ := Cache.refresh_reported hrefresh
  have hall : c'.reports = c'.snapshot.breaches v := by
    rw [hreports]
    rfl
  refine ⟨hall, ?_, hvalidator⟩
  calc
    c'.metrics.validationFailures = 0 + (c'.snapshot.breaches v).length := hcounted
    _ = c'.reports.length := by rw [Nat.zero_add, hall]

theorem Run.watches (hload : Cache.load v (.ok flags) = (c, .ok stats))
    (hrun : Run (loaded c) history d) : Watches v c history d := by
  obtain ⟨hreports, hcounted, rfl⟩ := reports_of_load hload
  obtain ⟨awaited, hawaits, hreported, hbuilt⟩ := Run.reported hload hrun
  refine ⟨⟨awaited, hawaits, ?_⟩, ?_, fun _ _ _ _ => Snapshot.mem_breaches_iff, ?_⟩
  · rw [hreported.reports, hreports, List.cons_append, List.flatMap_cons]
  · rw [hreported.counted, hreported.reports, List.length_append, hcounted]
  · intro s hs
    obtain ⟨hbuild, -, -, -, -⟩ := Cache.load_eq_ok hload
    have hgeneration := Snapshot.generation_of_build hbuild
    have hbuild : ∃ flags, (Snapshot.build flags s.generation).2 = .ok s := by
      rcases List.mem_cons.mp hs with rfl | hs
      · exact ⟨flags, hgeneration ▸ hbuild⟩
      · exact hbuilt s (List.mem_append_left _ hs)
    obtain ⟨flags, hbuild⟩ := hbuild
    exact Snapshot.breaches_pairwise hbuild _

theorem exists_performAll_of_alike {e : Deployment Task Loop} (halike : e.unwatched = d.unwatched)
    (hops : d.performAll ops = some (history, d')) :
    ∃ e', e.performAll ops = some (history, e') ∧ e'.unwatched = d'.unwatched := by
  have hsame : (e.performAll ops).map (Prod.map id unwatched) = some (history, d'.unwatched) := by
    rw [← performAll_unwatched, halike, performAll_unwatched, hops]
    rfl
  obtain ⟨⟨history', e'⟩, he, hnext⟩ := Option.map_eq_some_iff.mp hsame
  obtain ⟨rfl, hunwatched⟩ := Prod.mk.inj hnext
  exact ⟨e', he, hunwatched⟩

/-- A validator changes nothing. Two caches that are loaded with what one fetch came to, each with
its own validator or none, do the same with the same operations, and of each only its validator
makes what it has reported. -/
theorem watches_of_load (v v' : Option Validator) (fetched : Fetched) :
    (Cache.load v fetched).2 = (Cache.load v' fetched).2 ∧
    (∀ c c' stats, Cache.load v fetched = (c, .ok stats) →
      Cache.load v' fetched = (c', .ok stats) →
      ∀ (ops : List (Operation Task Loop)) history d,
        (loaded c).performAll ops = some (history, d) →
        Watches v c history d ∧
        ∃ d', (loaded c').performAll ops = some (history, d') ∧ Watches v' c' history d' ∧
          d'.unwatched = d.unwatched ∧ d'.cache.snapshot = d.cache.snapshot ∧
          d'.cache.generation = d.cache.generation ∧ d'.cache.ready = d.cache.ready) ∧
    ∀ (c c' : Cache) outcome result, c.refresh outcome = (c', result) →
      c.Reported (if result.isOk then c'.snapshot.breaches c.validator else []) c' := by
  have hload : (Cache.load v fetched).map Cache.unwatched id =
      (Cache.load v' fetched).map Cache.unwatched id := by
    rw [Cache.load_unwatched v, Cache.load_unwatched v']
  refine ⟨(Prod.mk.inj hload).2, ?_, fun _ _ _ _ => Cache.refresh_reported⟩
  intro c c' stats hc hc' ops history d hops
  obtain ⟨flags, rfl⟩ := exists_flags_of_load hc
  rw [hc, hc'] at hload
  have halike : (loaded c' : Deployment Task Loop).unwatched = (loaded c).unwatched :=
    congrArg loaded (Prod.mk.inj hload).1.symm
  obtain ⟨d', hops', hd'⟩ := exists_performAll_of_alike halike hops
  have hsame : d'.cache.unwatched = d.cache.unwatched := by
    change d'.unwatched.cache = d.unwatched.cache
    rw [hd']
  refine ⟨Run.watches hc (run_iff.mpr ⟨ops, hops⟩), d', hops',
    Run.watches hc' (run_iff.mpr ⟨ops, hops'⟩), hd', ?_, ?_, ?_⟩
  · exact (congrArg Cache.snapshot hsame :)
  · exact (congrArg Cache.generation hsame :)
  · exact (congrArg Cache.ready hsame :)

end FeatureFlags.Deployment

namespace FeatureFlags.Deployment

open Ledger

/-- A rule that no flag without tags keeps. -/
def owned : Validator :=
  ⟨.all, [(.hasTag "owned", .hasTag "owned")]⟩

/-- A refresh whose fetch fails, and a poll after it. -/
def timedOut : List (Operation Nat Nat) :=
  [.refresh 0, .proceed 0 (.error (.timeout ⟨500⟩)), .proceed 0 (.ok []), .poll]

theorem watches_of_timedOut : ∃ (c c' : Cache) (d d' : Deployment Nat Nat) (stats : RefreshStats)
    (history : List (Notice Nat Nat)),
    Cache.load (some owned) (.ok [.plain 1 "a" []]) = (c, .ok stats) ∧
      Cache.load none (.ok [.plain 1 "a" []]) = (c', .ok stats) ∧
      (loaded c).performAll timedOut = some (history, d) ∧
      (loaded c').performAll timedOut = some (history, d') ∧
      Watches (some owned) c history d ∧ Watches none c' history d' ∧
      (1, .failed "a" [.hasTag "owned"]) ∈ d.cache.reports := by
  obtain ⟨s, hbuild⟩ : ∃ s, (Snapshot.build [.plain 1 "a" []] 1).2 = .ok s := by
    simp [Snapshot.exists_build_eq_ok_iff]
  obtain ⟨c, hc⟩ := Cache.exists_load_eq_ok (some owned) hbuild
  obtain ⟨c', hc'⟩ := Cache.exists_load_eq_ok none hbuild
  obtain ⟨hserved, -, -, hfree, -⟩ := Cache.load_eq_ok hc
  obtain ⟨history, d, hops⟩ : ∃ history d,
      (loaded c : Deployment Nat Nat).performAll timedOut = some (history, d) := by
    obtain ⟨snapshot, generation, refreshing, ready, validator, metrics, events⟩ := c
    obtain rfl : refreshing = false := hfree
    exact ⟨_, _, rfl⟩
  obtain ⟨hwatches, d', hops', hwatches', -⟩ :=
    (watches_of_load (some owned) none (.ok [.plain 1 "a" []])).2.1 c c' s.stats hc hc' timedOut
      history d hops
  refine ⟨c, c', d, d', s.stats, history, hc, hc', hops, hops', hwatches, hwatches', ?_⟩
  obtain ⟨awaited, -, hreports⟩ := hwatches.reports
  have hflag : Flag.plain 1 "a" [] ∈ c.snapshot.flags :=
    (Snapshot.mem_flags_iff hserved).mpr ⟨_, rfl, Flag.sorted_plain 1 "a" []⟩
  rw [hreports]
  refine List.mem_flatMap.mpr ⟨c.snapshot, List.mem_cons_self, ?_⟩
  refine Snapshot.mem_breaches_iff.mpr ⟨owned, rfl, _, hflag, rfl, rfl, ?_, rfl⟩
  exact ⟨_, List.mem_cons_self, rfl⟩

end FeatureFlags.Deployment
