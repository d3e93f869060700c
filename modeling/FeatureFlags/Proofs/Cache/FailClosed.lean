import Mathlib
import FeatureFlags.Pattern.Machine
import FeatureFlags.Proofs.Cache.Bookkeeping
import FeatureFlags.Proofs.Flag.Fault

namespace FeatureFlags

/-- The error that a flag which cannot be prepared makes of a list, with its number and its
key. -/
def Flag.Rejected [PatternEngine] (f : Flag) (e : CompileError) : Prop :=
  ∃ cause, PreparedFlag.prepare f = .error cause ∧ e = ⟨f.id, f.key, cause⟩

namespace Snapshot

variable [PatternEngine]

theorem addAll_eq_error_iff {s : Snapshot} {flags : List Flag} {e : CompileError} :
    (s.addAll flags).2 = .error e ↔ FirstFault Flag.Rejected flags e := by
  induction flags generalizing s with
  | nil => simp [addAll]
  | cons f rest ih =>
      rw [firstFault_cons_iff, addAll]
      cases hprepare : PreparedFlag.prepare f with
      | error cause => simp [Flag.Rejected, hprepare, eq_comm]
      | ok p => simp [Flag.Rejected, hprepare, ih]

theorem build_eq_error_iff {flags : List Flag} {generation : Nat} {e : CompileError} :
    (build flags generation).2 = .error e ↔ FirstFault Flag.Rejected flags e :=
  addAll_eq_error_iff

end Snapshot

/-- A refresh that fetched flags which make no snapshot, and can end with no other error. -/
def Refresh.Fails [PatternEngine] (e : CompileError) : Refresh → Prop
  | .preparing flags _ => FirstFault Flag.Rejected flags e
  | .finishing result => result = .error (.compile e)
  | _ => False

theorem Cache.exists_refresh_eq_error [PatternEngine] {c : Cache} {flags : List Flag}
    {e : CompileError} (hfree : c.refreshing = false) (hfirst : FirstFault Flag.Rejected flags e) :
    ∃ c', c.refresh (.ok flags) = (c', .error (.compile e)) ∧ c'.snapshot = c.snapshot ∧
      c'.ready = c.ready := by
  have hacquire : c.acquire = some { c with refreshing := true } :=
    acquire_eq_some_iff.mpr ⟨hfree, rfl⟩
  rw [refresh, hacquire]
  dsimp only
  rw [Refresh.run_fetching_ok,
    Refresh.run_preparing_of_build_eq_error (Snapshot.build_eq_error_iff.mpr hfirst)]
  exact ⟨_, rfl, by simp, prepare_ready _ _ _⟩

namespace Ledger

variable [PatternEngine]
variable {Party : Type} [DecidableEq Party] {history : List (Event Party)} {k k' : Ledger Party}
  {p q : Party} {r r' : Refresh} {event : Event Party} {e : CompileError}

theorem Holding.unique (h : Holding history k) (hp : k.underway p = some r)
    (hq : k.underway q = some r') : q = p ∧ r' = r := by
  obtain rfl : q = p := h.eq_of_underway (by simp [hq]) (by simp [hp])
  exact ⟨rfl, Option.some.inj (hq.symm.trans hp)⟩

theorem Step.of_fails (hholding : Holding history k) (hrefresh : k.underway p = some r)
    (hfails : r.Fails e) (hstep : Step k event k') :
    k'.snapshot = k.snapshot ∧
      (event = .ended p (.error (.compile e)) ∨
        (∀ result, event ≠ .ended p result) ∧ ∃ r', k'.underway p = some r' ∧ r'.Fails e) := by
  have hgoes : ∃ r, k.underway p = some r ∧ r.Fails e := ⟨r, hrefresh, hfails⟩
  -- a step of any refresh is one of this one, as no other is under way
  cases hstep with
  | rejected hfree hheld => exact ⟨rfl, .inr ⟨nofun, hgoes⟩⟩
  | began hfree hpermit => exact absurd (hholding.of_underway hrefresh).1 (by simp [hpermit])
  | failed hother =>
      obtain ⟨rfl, rfl⟩ := hholding.unique hrefresh hother
      exact hfails.elim
  | drew hother =>
      obtain ⟨rfl, rfl⟩ := hholding.unique hrefresh hother
      exact hfails.elim
  | prepared hother =>
      obtain ⟨rfl, rfl⟩ := hholding.unique hrefresh hother
      refine ⟨rfl, .inr ⟨nofun, _, Function.update_self .., ?_⟩⟩
      rw [Snapshot.build_eq_error_iff.mpr hfails]
      rfl
  | published hother =>
      obtain ⟨rfl, rfl⟩ := hholding.unique hrefresh hother
      exact hfails.elim
  | ended hother =>
      obtain ⟨rfl, rfl⟩ := hholding.unique hrefresh hother
      exact ⟨rfl, .inl (by rw [show _ = _ from hfails])⟩
  | abandoned hother =>
      obtain ⟨rfl, rfl⟩ := hholding.unique hrefresh hother
      exact hfails.elim
  | read => exact ⟨rfl, .inr ⟨nofun, hgoes⟩⟩
  | aside => exact ⟨rfl, .inr ⟨nofun, hgoes⟩⟩

end Ledger

section Readiness

variable [PatternEngine]

theorem Refresh.step_ready {c c' : Cache} {r : Refresh} {fetched : Fetched}
    {next : Refresh ⊕ Except CacheError RefreshStats} (hstep : r.step c fetched = (c', next)) :
    c'.ready = c.ready := by
  cases r with
  | fetching => cases fetched <;> cases hstep <;> rfl
  | preparing flags generation =>
      rw [step_preparing] at hstep
      cases hstep
      exact Cache.prepare_ready _ _ _
  | publishing s =>
      cases hstep
      rfl
  | finishing result =>
      cases hstep
      rfl

namespace Serving

variable (s : Serving) (job : Job)

omit [PatternEngine] in
theorem settle_ready (result : Except CacheError RefreshStats) :
    (s.settle job result).cache.ready = s.cache.ready := by
  cases result <;> rfl

omit [PatternEngine] in
theorem begin_ready : (s.begin job).cache.ready = s.cache.ready := by
  cases hpermit : s.cache.refreshing with
  | true => rw [begin_of_refreshing _ _ hpermit, settle_ready]
  | false => rw [begin_of_free _ _ hpermit]

variable {s job}

theorem resume_ready {r : Refresh} (fetched : Fetched) (hcurrent : s.loop.current = some (job, r)) :
    (s.resume fetched).cache.ready = s.cache.ready := by
  rcases hstep : r.step s.cache fetched with ⟨c, next | result⟩
  · simp only [resume, hcurrent, hstep]
    exact Refresh.step_ready hstep
  · simp only [resume, hcurrent, hstep, settle_ready]
    exact Refresh.step_ready hstep

end Serving

end Readiness

namespace Service

open Ledger

variable [PatternEngine]
variable {Task Loop : Type} [DecidableEq Task] [DecidableEq Loop] {s s' : Service Task Loop}
  {history rest : List (Event (Refresher Task Loop))} {event : Event (Refresher Task Loop)}
  {p : Refresher Task Loop} {r : Refresh} {e : CompileError}

theorem Step.ready (hstep : Step s event s') :
    s'.cache.ready = s.cache.ready ∨
      event = .aside ∧ ∃ ready, s'.cache = { s.cache with ready := ready } := by
  cases hstep with
  | begin hfree hacquire =>
      obtain ⟨-, rfl⟩ := Cache.acquire_eq_some_iff.mp hacquire
      exact .inl rfl
  | proceed fetched hrefresh hstep => exact .inl (Refresh.step_ready hstep)
  | tick hloop hidle =>
      rw [Serving.tick, if_pos hidle]
      exact .inl (Serving.begin_ready _ _)
  | takeRequest hloop hidle hinbox =>
      simp only [Serving.take, hidle, if_true, hinbox]
      exact .inl (Serving.begin_ready _ _)
  | @takeOther l loop hloop hidle hinbox =>
      rcases Serving.take_eq (s := ⟨s.cache, loop⟩) hinbox with htake | htake
      · rw [htake]
        exact .inl rfl
      · rw [htake]
        exact .inr ⟨rfl, false, rfl⟩
  | @resume l loop job r fetched hloop hcurrent =>
      exact .inl (Serving.resume_ready (s := ⟨s.cache, loop⟩) fetched hcurrent)
  | markReady => exact .inr ⟨rfl, true, rfl⟩
  | _ => exact .inl rfl

theorem Run.of_fails (hbalanced : Balanced history s.ledger) (hrefresh : s.underway p = some r)
    (hfails : r.Fails e) (hrun : Run s rest s') (hopen : ∀ result, .ended p result ∉ rest) :
    Balanced (history ++ rest) s'.ledger ∧ s'.cache.snapshot = s.cache.snapshot ∧
      ∃ r', s'.underway p = some r' ∧ r'.Fails e := by
  induction hrun with
  | nil => exact ⟨by simpa using hbalanced, rfl, r, hrefresh, hfails⟩
  | @snoc earlier m event s' hrun hstep ih =>
      simp only [List.mem_append, List.mem_singleton, not_or] at hopen
      obtain ⟨hbooks, hsame, r', hrefresh', hfails'⟩ := ih fun result => (hopen result).1
      obtain ⟨hkept, hended | ⟨-, hgoes⟩⟩ :=
        hstep.ledger.of_fails hbooks.holding hrefresh' hfails'
      · exact absurd hended.symm (hopen _).2
      · refine ⟨?_, hkept.trans hsame, hgoes⟩
        rw [← List.append_assoc]
        exact hbooks.step hstep.ledger

/-- However a service goes on while a party refreshes, it serves the snapshot that it served
until the refresh ends, which it does with an error. Readiness changes only in a step that
switches it and has nothing to do with a refresh. -/
structure Withstands (s : Service Task Loop) (p : Refresher Task Loop) (e : CompileError) :
    Prop where
  meanwhile : ∀ rest s', Run s rest s' → (∀ result, .ended p result ∉ rest) →
    s'.cache.snapshot = s.cache.snapshot
  afterwards : ∀ rest result s', Run s (rest ++ [.ended p result]) s' →
    (∀ result, .ended p result ∉ rest) →
      result = .error (.compile e) ∧ s'.cache.snapshot = s.cache.snapshot
  ready : ∀ rest m event s', Run s rest m → Step m event s' →
    s'.cache.ready = m.cache.ready ∨
      event = .aside ∧ ∃ ready, s'.cache = { m.cache with ready := ready }

theorem withstands_of_fails (hbalanced : Balanced history s.ledger)
    (hrefresh : s.underway p = some r) (hfails : r.Fails e) : s.Withstands p e := by
  refine ⟨?_, ?_, fun _ _ _ _ _ hstep => hstep.ready⟩
  · intro rest s' hrun hopen
    exact (hrun.of_fails hbalanced hrefresh hfails hopen).2.1
  · intro rest result s' hrun hopen
    obtain ⟨m, hbefore, hstep⟩ := hrun.exists_last
    obtain ⟨hbooks, hsame, r', hrefresh', hfails'⟩ :=
      hbefore.of_fails hbalanced hrefresh hfails hopen
    obtain ⟨hkept, hended | ⟨hopen', -⟩⟩ :=
      hstep.ledger.of_fails hbooks.holding hrefresh' hfails'
    · cases hended
      exact ⟨rfl, hkept.trans hsame⟩
    · exact absurd rfl (hopen' result)

/-- Loading fails closed. A list makes a snapshot just if each of its flags can be prepared;
otherwise its error is that of its first flag that cannot, which is that of the first bad
segment of the flag. A cache that fetched such a list serves what it served, in a refresh with
nothing in between and in every order of events. -/
theorem withstands_of_rejected (flags : List Flag) (generation : Nat) :
    ((∃ s, (Snapshot.build flags generation).2 = .ok s) ↔
      ∀ f ∈ flags, ∃ p, PreparedFlag.prepare f = .ok p) ∧
    (∀ e, (Snapshot.build flags generation).2 = .error e ↔ FirstFault Flag.Rejected flags e) ∧
    (∀ f cause, PreparedFlag.prepare f = .error cause ↔ f.Fault cause) ∧
    ∀ e, FirstFault Flag.Rejected flags e →
      (∀ c : Cache, c.refreshing = false →
        ∃ c', c.refresh (.ok flags) = (c', .error (.compile e)) ∧ c'.snapshot = c.snapshot ∧
          c'.ready = c.ready) ∧
      ∀ validator history (s : Service Task Loop) p drawn, Run (unloaded validator) history s →
        s.underway p = some (.preparing flags drawn) → s.Withstands p e := by
  refine ⟨Snapshot.exists_build_eq_ok_iff, fun e => Snapshot.build_eq_error_iff,
    fun f cause => PreparedFlag.prepare_eq_error_iff, fun e hfirst => ⟨?_, ?_⟩⟩
  · intro c hfree
    exact Cache.exists_refresh_eq_error hfree hfirst
  · intro validator history s p drawn hrun hrefresh
    exact withstands_of_fails hrun.balanced hrefresh hfirst

end Service

namespace Service

open Ledger

/-- Between two flags that can be prepared, one that the second of them would replace. The
distributions of a segment and a constraint of the other are wrong, and the other segment
ranks first. -/
def spoiledFlags : List Flag :=
  [.plain 1 "a" [],
    { Flag.plain 2 "b" [] with
      segments :=
        [⟨20, 2, "", 1, 100, [], [⟨1, 20, 7, "x", 60⟩, ⟨2, 20, 8, "y", 60⟩]⟩,
          ⟨10, 2, "", 0, 100, [⟨1, 10, "country", "LIKE", "\"AT\""⟩], []⟩] },
    .plain 2 "b" []]

def spoiledError : CompileError :=
  ⟨2, "b", .constraint (.unsupportedOperator "LIKE")⟩

theorem withstands_of_spoiledFlags :
    (Snapshot.build spoiledFlags 1).2 = .error spoiledError ∧
      ∃ s : Service Nat Nat,
        s.underway (.caller 0) = some (.preparing spoiledFlags 1) ∧
          s.Withstands (.caller 0) spoiledError := by
  obtain ⟨-, herror, -, hwithstands⟩ := @withstands_of_rejected _ Nat Nat _ _ spoiledFlags 1
  have hbuild : (Snapshot.build spoiledFlags 1).2 = .error spoiledError := by cbv
  have hbegan : Run (unloaded none : Service Nat Nat) ([] ++ [.began (.caller 0)]) _ :=
    .snoc .nil (.begin rfl rfl)
  have hfetched := hbegan.snoc (.proceed (t := 0) (.ok spoiledFlags) rfl rfl)
  exact ⟨hbuild, _, rfl,
    (hwithstands _ ((herror _).mp hbuild)).2 none _ _ (.caller 0) 1 hfetched rfl⟩

end Service

end FeatureFlags
