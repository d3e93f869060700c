import FeatureFlags.Proofs.Cache.Refresh
import FeatureFlags.Proofs.Snapshot.Index
import Mathlib.Logic.Function.Basic
import Mathlib.Order.Nat

/-!
The books of refreshing: the permit, the counter and the published snapshot, and how far
each party has come that refreshes. Everything else that a cache holds is left out.
-/

namespace FeatureFlags

inductive Event (Party : Type) where
  | rejected (p : Party)
  | began (p : Party)
  | fetched (p : Party) (outcome : Fetched)
  | prepared (p : Party)
  | published (p : Party) (s : Snapshot)
  | ended (p : Party) (result : Except CacheError RefreshStats)
  | abandoned (p : Party)
  | read (s : Snapshot)
  /-- Anything that has nothing to do with a refresh. -/
  | aside

def Refresh.event {Party : Type} (p : Party) (fetched : Fetched) : Refresh → Event Party
  | fetching => .fetched p fetched
  | preparing .. => .prepared p
  | publishing s => .published p s
  | finishing result => .ended p result

namespace Event

variable {Party : Type}

def isSuccessfulFetch : Event Party → Bool
  | .fetched _ (.ok _) => true
  | _ => false

def published? : Event Party → Option Snapshot
  | .published _ s => some s
  | _ => none

def read? : Event Party → Option Snapshot
  | .read s => some s
  | _ => none

/-- Begins or ends the fetch of a party, or puts up what it built. -/
def Advances (p : Party) (e : Event Party) : Prop :=
  e = .began p ∨ (∃ outcome, e = .fetched p outcome) ∨ ∃ s, e = .published p s

def Ends : Event Party → Prop
  | .ended .. | .abandoned _ => True
  | _ => False

end Event

structure Ledger (Party : Type) where
  snapshot : Snapshot
  generation : Nat
  refreshing : Bool
  underway : Party → Option Refresh

namespace Ledger

variable {Party : Type}

section History

def fetches (history : List (Event Party)) : Nat :=
  history.countP Event.isSuccessfulFetch

def published (history : List (Event Party)) : List Snapshot :=
  history.filterMap Event.published?

def reads (history : List (Event Party)) : List Snapshot :=
  history.filterMap Event.read?

/-- The last step forward of a party is `e`, and `before` is what came before it. -/
def Latest (p : Party) (history before : List (Event Party)) (e : Event Party) : Prop :=
  ∃ since, history = before ++ e :: since ∧ ∀ e' ∈ since, ¬ e'.Advances p

/-- What a party fetched last, and the number it drew: one more than there were successful
fetches before. -/
def Drew (history : List (Event Party)) (p : Party) (flags : List Flag) (generation : Nat) :
    Prop :=
  ∃ before, Latest p history before (.fetched p (.ok flags)) ∧
    generation = fetches before + 1

/-- What must have come before an event: a published snapshot was built from what its party
fetched, and has the number that it drew, and a success tells of what its party published. -/
def Warrants [PatternEngine] (before : List (Event Party)) : Event Party → Prop
  | .published p s => ∃ flags, Drew before p flags s.generation ∧
      (Snapshot.build flags s.generation).2 = .ok s
  | .ended p (.ok stats) => ∃ earlier s, Latest p before earlier (.published p s) ∧
      stats = ⟨s.flags.length, s.generation⟩
  | _ => True

variable {p : Party} {history before : List (Event Party)} {e e' : Event Party}
  {flags : List Flag} {generation : Nat}

@[simp]
theorem fetches_snoc (history : List (Event Party)) (e : Event Party) :
    fetches (history ++ [e]) = fetches history + if e.isSuccessfulFetch then 1 else 0 := by
  simp [fetches, List.countP_append, List.countP_cons]

@[simp]
theorem published_snoc (history : List (Event Party)) (e : Event Party) :
    published (history ++ [e]) = published history ++ e.published?.toList := by
  cases h : e.published? <;> simp [published, h]

@[simp]
theorem reads_snoc (history : List (Event Party)) (e : Event Party) :
    reads (history ++ [e]) = reads history ++ e.read?.toList := by
  cases h : e.read? <;> simp [reads, h]

theorem latest_snoc (p : Party) (history : List (Event Party)) (e : Event Party) :
    Latest p (history ++ [e]) history e :=
  ⟨[], rfl, by simp⟩

theorem Latest.snoc (h : Latest p history before e) (he : ¬ e'.Advances p) :
    Latest p (history ++ [e']) before e := by
  obtain ⟨since, rfl, hsince⟩ := h
  refine ⟨since ++ [e'], by simp, ?_⟩
  intro b hb
  rcases List.mem_append.mp hb with hb | hb
  · exact hsince b hb
  · rw [List.mem_singleton.mp hb]
    exact he

theorem Drew.snoc (h : Drew history p flags generation) (he : ¬ e.Advances p) :
    Drew (history ++ [e]) p flags generation := by
  obtain ⟨before, hlatest, hgeneration⟩ := h
  exact ⟨before, hlatest.snoc he, hgeneration⟩

end History

section Steps

variable [DecidableEq Party]

def set (k : Ledger Party) (p : Party) (r : Option Refresh) : Ledger Party :=
  { k with underway := Function.update k.underway p r }

theorem set_self {k : Ledger Party} {p : Party} {r : Option Refresh} (h : k.underway p = r) :
    k.set p r = k := by
  rw [set, ← h, Function.update_eq_self]

variable [PatternEngine]

/-- One step of one party, as far as the books show it. -/
inductive Step : Ledger Party → Event Party → Ledger Party → Prop
  | rejected {k p} (hfree : k.underway p = none) (hheld : k.refreshing = true) :
      Step k (.rejected p) k
  | began {k p} (hfree : k.underway p = none) (hpermit : k.refreshing = false) :
      Step k (.began p) ({ k with refreshing := true }.set p (some .fetching))
  | failed {k p e} (hrefresh : k.underway p = some .fetching) :
      Step k (.fetched p (.error e)) (k.set p (some (.finishing (.error e))))
  | drew {k p flags} (hrefresh : k.underway p = some .fetching) :
      Step k (.fetched p (.ok flags))
        ({ k with generation := k.generation + 1 }.set p
          (some (.preparing flags (k.generation + 1))))
  | prepared {k p flags generation}
      (hrefresh : k.underway p = some (.preparing flags generation)) :
      Step k (.prepared p) (k.set p (some
        (match (Snapshot.build flags generation).2 with
        | .ok s => .publishing s
        | .error e => .finishing (.error (.compile e)))))
  | published {k p s} (hrefresh : k.underway p = some (.publishing s)) :
      Step k (.published p s)
        ({ k with snapshot := s }.set p (some (.finishing (.ok s.stats))))
  | ended {k p result} (hrefresh : k.underway p = some (.finishing result)) :
      Step k (.ended p result) ({ k with refreshing := false }.set p none)
  | abandoned {k p} (hrefresh : k.underway p = some .fetching) :
      Step k (.abandoned p) ({ k with refreshing := false }.set p none)
  | read {k} : Step k (.read k.snapshot) k
  | aside {k} : Step k .aside k

theorem Step.of_rejected {k k' : Ledger Party} {p : Party} (h : Step k (.rejected p) k') :
    k' = k ∧ k.refreshing = true := by
  cases h with
  | rejected hfree hheld => exact ⟨rfl, hheld⟩

end Steps

end Ledger

def Cache.ledger {Party : Type} (c : Cache) (u : Party → Option Refresh) : Ledger Party :=
  ⟨c.snapshot, c.generation, c.refreshing, u⟩

theorem Refresh.step_ledger [PatternEngine] {Party : Type} [DecidableEq Party] {p : Party}
    {u : Party → Option Refresh} {c c' : Cache} {r : Refresh} {fetched : Fetched}
    {next : Refresh ⊕ Except CacheError RefreshStats} (hrefresh : u p = some r)
    (hstep : r.step c fetched = (c', next)) :
    Ledger.Step (c.ledger u) (r.event p fetched) ((c'.ledger u).set p next.getLeft?) := by
  cases r with
  | fetching =>
      cases fetched with
      | error e =>
          cases hstep
          exact .failed hrefresh
      | ok flags =>
          cases hstep
          exact .drew hrefresh
  | preparing flags generation =>
      rw [step_preparing] at hstep
      cases hstep
      have hledger : (c.prepare flags generation).1.ledger u = c.ledger u := by
        simp [Cache.ledger]
      rw [hledger]
      exact .prepared hrefresh
  | publishing s =>
      cases hstep
      exact .published hrefresh
  | finishing result =>
      cases hstep
      exact .ended hrefresh

namespace Snapshot

theorem stats_eq (s : Snapshot) : s.stats = ⟨s.flags.length, s.generation⟩ := by
  rw [stats, size_eq_length_flags]

theorem generation_foldl_insert (ps : List PreparedFlag) (s : Snapshot) :
    (ps.foldl insert s).generation = s.generation := by
  induction ps generalizing s with
  | nil => rfl
  | cons p rest ih =>
      rw [List.foldl_cons, ih]
      rfl

variable [PatternEngine]

theorem generation_of_build {flags : List Flag} {generation : Nat} {s : Snapshot}
    (hbuild : (build flags generation).2 = .ok s) : s.generation = generation := by
  obtain ⟨ps, -, rfl⟩ := build_eq_ok_iff.mp hbuild
  exact generation_foldl_insert ps _

end Snapshot

namespace Ledger

variable {Party : Type} {history : List (Event Party)} {k k' : Ledger Party} {p : Party}
  {e : Event Party}

/-- What the published and the read snapshots have to do with the books. -/
structure Ordered (history : List (Event Party)) (k : Ledger Party) : Prop where
  generation : k.generation = fetches history
  served : k.snapshot.generation ≤ k.generation
  increasing : (published history).Pairwise fun s s' => s.generation < s'.generation
  published_le : ∀ s ∈ published history, s.generation ≤ k.snapshot.generation
  nondecreasing : (reads history).Pairwise fun s s' => s.generation ≤ s'.generation
  reads_le : ∀ s ∈ reads history, s.generation ≤ k.snapshot.generation

section Ordered

theorem pairwise_snoc {α : Type} {R : α → α → Prop} {xs : List α} {x : α} (h : xs.Pairwise R)
    (hx : ∀ a ∈ xs, R a x) : (xs ++ [x]).Pairwise R :=
  List.pairwise_append.mpr
    ⟨h, List.pairwise_singleton R x, fun a ha => List.forall_mem_singleton.mpr (hx a ha)⟩

theorem Ordered.snoc (h : Ordered history k) (hsnapshot : k'.snapshot = k.snapshot)
    (hgeneration : k'.generation = k.generation + if e.isSuccessfulFetch then 1 else 0)
    (hpublished : e.published? = none) (hread : e.read? = none) :
    Ordered (history ++ [e]) k' := by
  refine ⟨?_, ?_, ?_, ?_, ?_, ?_⟩
  · rw [hgeneration, h.generation, fetches_snoc]
  · rw [hsnapshot, hgeneration]
    exact Nat.le_add_right_of_le h.served
  · simpa [hpublished] using h.increasing
  · simpa [hpublished, hsnapshot] using h.published_le
  · simpa [hread] using h.nondecreasing
  · simpa [hread, hsnapshot] using h.reads_le

/-- What is published has the last number drawn, which nobody has seen before. -/
theorem Ordered.publish (h : Ordered history k) {s : Snapshot}
    (hgeneration : s.generation = k.generation)
    (hnew : k.snapshot.generation < k.generation) (hsnapshot : k'.snapshot = s)
    (hcounter : k'.generation = k.generation) :
    Ordered (history ++ [.published p s]) k' := by
  have hserved : k.snapshot.generation < s.generation := hgeneration ▸ hnew
  have hpublished : published (history ++ [.published p s]) = published history ++ [s] := by
    simp [Event.published?]
  have hreads : reads (history ++ [.published p s]) = reads history := by simp [Event.read?]
  refine ⟨?_, ?_, ?_, ?_, ?_, ?_⟩
  · simpa [hcounter, Event.isSuccessfulFetch] using h.generation
  · rw [hsnapshot, hcounter, hgeneration]
  · rw [hpublished]
    exact pairwise_snoc h.increasing fun s' hs' => (h.published_le s' hs').trans_lt hserved
  · rw [hpublished, hsnapshot]
    refine List.forall_mem_append.mpr ⟨?_, List.forall_mem_singleton.mpr le_rfl⟩
    exact fun s' hs' => ((h.published_le s' hs').trans_lt hserved).le
  · rw [hreads]
    exact h.nondecreasing
  · rw [hreads, hsnapshot]
    exact fun s' hs' => ((h.reads_le s' hs').trans_lt hserved).le

theorem Ordered.read (h : Ordered history k) : Ordered (history ++ [.read k.snapshot]) k := by
  have hpublished : published (history ++ [.read k.snapshot]) = published history := by
    simp [Event.published?]
  have hreads : reads (history ++ [.read k.snapshot]) = reads history ++ [k.snapshot] := by
    simp [Event.read?]
  refine ⟨?_, h.served, ?_, ?_, ?_, ?_⟩
  · simpa [Event.isSuccessfulFetch] using h.generation
  · rw [hpublished]
    exact h.increasing
  · rw [hpublished]
    exact h.published_le
  · rw [hreads]
    exact pairwise_snoc h.nondecreasing h.reads_le
  · rw [hreads]
    exact List.forall_mem_append.mpr ⟨h.reads_le, List.forall_mem_singleton.mpr le_rfl⟩

theorem Ordered.lt_of_fetches_lt (h : Ordered history k) {bound : Nat}
    (hbound : fetches history < bound) :
    k.generation < bound ∧ ∀ s ∈ published history ++ reads history, s.generation < bound := by
  have hcounter : k.generation < bound := h.generation ▸ hbound
  refine ⟨hcounter, fun s hs => lt_of_le_of_lt ?_ hcounter⟩
  rcases List.mem_append.mp hs with hs | hs
  · exact (h.published_le s hs).trans h.served
  · exact (h.reads_le s hs).trans h.served

end Ordered

variable [PatternEngine]

/-- What the books must show of a refresh that holds the permit. The number that it drew
is still the last one, and what is published is older. -/
def Backed (history : List (Event Party)) (k : Ledger Party) (p : Party) : Refresh → Prop
  | .fetching => True
  | .preparing flags generation => Drew history p flags generation ∧
      generation = k.generation ∧ k.snapshot.generation < k.generation
  | .publishing s => (∃ flags, Drew history p flags s.generation ∧
      (Snapshot.build flags s.generation).2 = .ok s) ∧
      s.generation = k.generation ∧ k.snapshot.generation < k.generation
  | .finishing (.ok stats) => ∃ earlier s, Latest p history earlier (.published p s) ∧
      stats = s.stats
  | .finishing (.error _) => True

/-- Either the permit is free and nothing is under way, or one refresh is and holds it. -/
inductive Holding [DecidableEq Party] (history : List (Event Party)) (k : Ledger Party) : Prop
  | free (hpermit : k.refreshing = false) (hnone : k.underway = fun _ => none)
  | held (p : Party) (r : Refresh) (hpermit : k.refreshing = true)
      (hone : k.underway = Function.update (fun _ => none) p (some r))
      (hbacked : Backed history k p r)

structure Balanced [DecidableEq Party] (history : List (Event Party)) (k : Ledger Party) :
    Prop where
  holding : Holding history k
  ordered : Ordered history k

section Holding

variable {r next : Refresh}

theorem Backed.snoc (h : Backed history k p r) (he : ¬ e.Advances p) :
    Backed (history ++ [e]) k p r := by
  cases r with
  | fetching => trivial
  | preparing flags generation => exact ⟨h.1.snoc he, h.2⟩
  | publishing s =>
      obtain ⟨⟨flags, hdrew, hbuild⟩, hnumbers⟩ := h
      exact ⟨⟨flags, hdrew.snoc he, hbuild⟩, hnumbers⟩
  | finishing result =>
      cases result with
      | error e => trivial
      | ok stats =>
          obtain ⟨earlier, s, hlatest, hstats⟩ := h
          exact ⟨earlier, s, hlatest.snoc he, hstats⟩

variable [DecidableEq Party]

/-- A refresh that is under way is the only one, and holds the permit. -/
theorem Holding.of_underway (h : Holding history k) (hrefresh : k.underway p = some r) :
    k.refreshing = true ∧ k.underway = Function.update (fun _ => none) p (some r) ∧
      Backed history k p r := by
  cases h with
  | free hpermit hnone =>
      rw [hnone] at hrefresh
      cases hrefresh
  | held q r' hpermit hone hbacked =>
      obtain rfl : p = q := by
        by_contra hne
        rw [hone, Function.update_of_ne hne] at hrefresh
        cases hrefresh
      rw [hone, Function.update_self] at hrefresh
      cases hrefresh
      exact ⟨hpermit, hone, hbacked⟩

theorem Holding.eq_of_underway {q : Party} (h : Holding history k) (hp : k.underway p ≠ none)
    (hq : k.underway q ≠ none) : p = q := by
  obtain ⟨r, hr⟩ := Option.ne_none_iff_exists'.mp hp
  by_contra hne
  rw [(h.of_underway hr).2.1, Function.update_of_ne (Ne.symm hne)] at hq
  exact hq rfl

theorem Holding.refreshing_iff (h : Holding history k) :
    k.refreshing = true ↔ ∃ p, k.underway p ≠ none := by
  constructor
  · intro hpermit
    cases h with
    | free hfree => exact absurd hpermit (by simp [hfree])
    | held p r _ hone => exact ⟨p, by simp [hone]⟩
  · rintro ⟨p, hp⟩
    obtain ⟨r, hr⟩ := Option.ne_none_iff_exists'.mp hp
    exact (h.of_underway hr).1

theorem Holding.eq_none_of_free (h : Holding history k) (hfree : k.refreshing = false) (p : Party) :
    k.underway p = none := by
  by_contra hp
  exact absurd (h.refreshing_iff.mpr ⟨p, hp⟩) (by simp [hfree])

theorem Holding.snoc (h : Holding history k) (he : ∀ p, ¬ e.Advances p) :
    Holding (history ++ [e]) k := by
  cases h with
  | free hpermit hnone => exact .free hpermit hnone
  | held p r hpermit hone hbacked => exact .held p r hpermit hone (hbacked.snoc (he p))

theorem Holding.advance (h : Holding history k) (hrefresh : k.underway p = some r)
    (hrefreshing : k'.refreshing = k.refreshing)
    (hunderway : k'.underway = Function.update k.underway p (some next))
    (hbacked : Backed (history ++ [e]) k' p next) : Holding (history ++ [e]) k' := by
  obtain ⟨hpermit, hone, -⟩ := h.of_underway hrefresh
  refine .held p next (hrefreshing.trans hpermit) ?_ hbacked
  rw [hunderway, hone, Function.update_idem]

theorem Holding.release (h : Holding history k) (hrefresh : k.underway p = some r)
    (hrefreshing : k'.refreshing = false)
    (hunderway : k'.underway = Function.update k.underway p none) :
    Holding (history ++ [e]) k' := by
  obtain ⟨-, hone, -⟩ := h.of_underway hrefresh
  refine .free hrefreshing ?_
  rw [hunderway, hone, Function.update_idem, Function.update_eq_self_iff]

end Holding

section Balanced

variable [DecidableEq Party] {r : Refresh}

theorem Balanced.step (h : Balanced history k) (hstep : Step k e k') :
    Balanced (history ++ [e]) k' := by
  obtain ⟨hholding, hordered⟩ := h
  -- only a publication and a read touch the order, all other steps are about the permit
  cases hstep with
  | rejected hfree hheld =>
      exact ⟨hholding.snoc (by simp [Event.Advances]), hordered.snoc rfl rfl rfl rfl⟩
  | @began p hfree hpermit =>
      refine ⟨?_, hordered.snoc rfl rfl rfl rfl⟩
      cases hholding with
      | free _ hnone => exact .held p .fetching rfl (by simp [set, hnone]) trivial
      | held _ _ hheld => exact absurd hheld (by simp [hpermit])
  | failed hrefresh =>
      exact ⟨hholding.advance hrefresh rfl rfl trivial, hordered.snoc rfl rfl rfl rfl⟩
  | @drew p flags hrefresh =>
      refine ⟨hholding.advance hrefresh rfl rfl ?_, hordered.snoc rfl rfl rfl rfl⟩
      refine ⟨⟨history, latest_snoc _ _ _, by rw [hordered.generation]⟩, rfl, ?_⟩
      exact Nat.lt_succ_of_le hordered.served
  | @prepared p flags generation hrefresh =>
      refine ⟨hholding.advance hrefresh rfl rfl ?_, hordered.snoc rfl rfl rfl rfl⟩
      obtain ⟨hdrew, hlast, hnew⟩ := (hholding.of_underway hrefresh).2.2
      cases hbuild : (Snapshot.build flags generation).2 with
      | error e => trivial
      | ok s =>
          obtain rfl := Snapshot.generation_of_build hbuild
          exact ⟨⟨flags, hdrew.snoc (by simp [Event.Advances]), hbuild⟩, hlast, hnew⟩
  | @published p s hrefresh =>
      obtain ⟨-, hlast, hnew⟩ := (hholding.of_underway hrefresh).2.2
      refine ⟨hholding.advance hrefresh rfl rfl ?_, hordered.publish hlast hnew rfl rfl⟩
      exact ⟨history, s, latest_snoc _ _ _, rfl⟩
  | ended hrefresh =>
      exact ⟨hholding.release hrefresh rfl rfl, hordered.snoc rfl rfl rfl rfl⟩
  | abandoned hrefresh =>
      exact ⟨hholding.release hrefresh rfl rfl, hordered.snoc rfl rfl rfl rfl⟩
  | read => exact ⟨hholding.snoc (by simp [Event.Advances]), hordered.read⟩
  | aside =>
      exact ⟨hholding.snoc (by simp [Event.Advances]), hordered.snoc rfl rfl rfl rfl⟩

theorem Balanced.warrants (h : Balanced history k) (hstep : Step k e k') :
    Warrants history e := by
  cases hstep with
  | published hrefresh => exact (h.holding.of_underway hrefresh).2.2.1
  | @ended p result hrefresh =>
      cases result with
      | error e => trivial
      | ok stats =>
          obtain ⟨earlier, s, hlatest, rfl⟩ := (h.holding.of_underway hrefresh).2.2
          exact ⟨earlier, s, hlatest, s.stats_eq⟩
  | _ => trivial

theorem Balanced.underway_of_fetched {flags : List Flag} (h : Balanced history k)
    (hstep : Step k (.fetched p (.ok flags)) k') :
    k'.underway p = some (.preparing flags (fetches history + 1)) := by
  cases hstep with
  | drew hrefresh => simp [set, h.ordered.generation]

theorem Balanced.free_of_ends (h : Balanced history k) (hstep : Step k e k') (he : e.Ends)
    (p : Party) : k'.underway p = none := by
  have hholding := (h.step hstep).holding
  cases hstep with
  | ended => exact hholding.eq_none_of_free rfl p
  | abandoned => exact hholding.eq_none_of_free rfl p
  | _ => exact absurd he (by simp [Event.Ends])

end Balanced

end Ledger

end FeatureFlags
