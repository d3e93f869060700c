import FeatureFlags.Cache.Basic

namespace FeatureFlags

theorem Metrics.foldl_recordEvaluation_eq (results : List (Except EvalError EvalResult))
    (m : Metrics) :
    results.foldl recordEvaluation m =
      { m with
        evaluations := (results.foldl recordEvaluation m).evaluations
        evaluationErrors := (results.foldl recordEvaluation m).evaluationErrors } := by
  induction results generalizing m with
  | nil => rfl
  | cons result rest ih =>
      rw [List.foldl_cons, ih]
      cases result <;> rfl

namespace Cache

section Frame

variable (c : Cache) (s : Snapshot) (flags : List Flag) (generation : Nat)

@[simp]
theorem draw_snapshot : c.draw.snapshot = c.snapshot := rfl

@[simp]
theorem draw_generation : c.draw.generation = c.generation + 1 := rfl

@[simp]
theorem publish_snapshot : (c.publish s).snapshot = s := rfl

@[simp]
theorem publish_generation : (c.publish s).generation = c.generation := rfl

@[simp]
theorem finish_snapshot (result : Except CacheError RefreshStats) :
    (c.finish result).snapshot = c.snapshot := rfl

@[simp]
theorem finish_generation (result : Except CacheError RefreshStats) :
    (c.finish result).generation = c.generation := rfl

@[simp]
theorem abandon_snapshot : c.abandon.snapshot = c.snapshot := rfl

@[simp]
theorem abandon_generation : c.abandon.generation = c.generation := rfl

variable [PatternEngine]

@[simp]
theorem evaluateOn_snapshot (context : Context) :
    (c.evaluateOn s context).1.snapshot = c.snapshot := rfl

@[simp]
theorem evaluateOn_generation (context : Context) :
    (c.evaluateOn s context).1.generation = c.generation := rfl

theorem checkFlags_eq :
    c.checkFlags s =
      { c with
        metrics := (c.checkFlags s).metrics
        events := (c.checkFlags s).events } := by
  unfold checkFlags
  generalize s.flags = checked
  induction checked generalizing c with
  | nil => rfl
  | cons f rest ih =>
      rw [List.foldl_cons, ih]

theorem prepare_eq :
    (c.prepare flags generation).1 =
      { c with
        metrics := (c.prepare flags generation).1.metrics
        events := (c.prepare flags generation).1.events } := by
  unfold prepare
  rcases Snapshot.build flags generation with ⟨taken, e | built⟩
  · rfl
  · dsimp only
    rw [checkFlags_eq]

@[simp]
theorem prepare_snapshot : (c.prepare flags generation).1.snapshot = c.snapshot := by
  rw [prepare_eq]

@[simp]
theorem prepare_generation :
    (c.prepare flags generation).1.generation = c.generation := by
  rw [prepare_eq]

@[simp]
theorem prepare_refreshing :
    (c.prepare flags generation).1.refreshing = c.refreshing := by
  rw [prepare_eq]

@[simp]
theorem prepare_ready : (c.prepare flags generation).1.ready = c.ready := by
  rw [prepare_eq]

theorem prepare_result :
    (c.prepare flags generation).2 =
      (Snapshot.build flags generation).2.mapError CacheError.compile := by
  unfold prepare
  rcases Snapshot.build flags generation with ⟨taken, e | built⟩ <;> rfl

end Frame

theorem acquire_eq_some_iff {c c' : Cache} :
    c.acquire = some c' ↔ c.refreshing = false ∧ c' = { c with refreshing := true } := by
  cases h : c.refreshing <;> simp [acquire, h, eq_comm]

theorem acquire_eq_none_iff {c : Cache} : c.acquire = none ↔ c.refreshing = true := by
  cases h : c.refreshing <;> simp [acquire, h]

end Cache

namespace Refresh

variable [PatternEngine]

theorem run_finishing (c : Cache) (fetched : Fetched)
    (result : Except CacheError RefreshStats) :
    (finishing result).run c fetched = (c.finish result, result) := by
  rw [run]
  rfl

theorem run_publishing (c : Cache) (fetched : Fetched) (s : Snapshot) :
    (publishing s).run c fetched = ((c.publish s).finish (.ok s.stats), .ok s.stats) := by
  rw [run]
  exact run_finishing _ fetched _

/-- What is built aside decides how a refresh goes on. -/
theorem step_preparing (c : Cache) (fetched : Fetched) (flags : List Flag)
    (generation : Nat) :
    (preparing flags generation).step c fetched =
      ((c.prepare flags generation).1, .inl
        (match (Snapshot.build flags generation).2 with
        | .ok s => publishing s
        | .error e => finishing (.error (.compile e)))) := by
  have hresult := Cache.prepare_result c flags generation
  rcases hprepare : c.prepare flags generation with ⟨c', e | s⟩ <;>
    rcases hbuild : (Snapshot.build flags generation).2 with e' | s' <;>
    rw [hprepare, hbuild] at hresult <;> cases hresult <;>
    simp only [step, hprepare]

theorem run_preparing_of_build_eq_ok {c : Cache} {fetched : Fetched} {flags : List Flag}
    {generation : Nat} {s : Snapshot} (hbuild : (Snapshot.build flags generation).2 = .ok s) :
    (preparing flags generation).run c fetched =
      (((c.prepare flags generation).1.publish s).finish (.ok s.stats), .ok s.stats) := by
  rw [run, step_preparing, hbuild]
  exact run_publishing _ fetched s

theorem run_preparing_of_build_eq_error {c : Cache} {fetched : Fetched} {flags : List Flag}
    {generation : Nat} {e : CompileError}
    (hbuild : (Snapshot.build flags generation).2 = .error e) :
    (preparing flags generation).run c fetched =
      ((c.prepare flags generation).1.finish (.error (.compile e)), .error (.compile e)) := by
  rw [run, step_preparing, hbuild]
  exact run_finishing _ fetched _

theorem run_fetching_ok (c : Cache) (flags : List Flag) :
    fetching.run c (.ok flags) =
      (preparing flags c.draw.generation).run c.draw (.ok flags) := by
  rw [run]
  rfl

end Refresh

namespace Cache

variable [PatternEngine]

theorem exists_refresh_create_eq (validator : Option Validator) (flags : List Flag) :
    ∃ drawn : Cache, drawn.generation = 1 ∧
      (create validator).refresh (.ok flags) =
        (Refresh.preparing flags 1).run drawn (.ok flags) := by
  obtain ⟨held, hacquire, hdrawn⟩ : ∃ held, (create validator).acquire = some held ∧
      held.draw.generation = 1 := ⟨_, rfl, rfl⟩
  refine ⟨held.draw, hdrawn, ?_⟩
  rw [← hdrawn, ← Refresh.run_fetching_ok, refresh, hacquire]

theorem load_eq_ok {validator : Option Validator} {flags : List Flag} {c : Cache}
    {stats : RefreshStats} (hload : load validator (.ok flags) = (c, .ok stats)) :
    (Snapshot.build flags 1).2 = .ok c.snapshot ∧ stats = c.snapshot.stats ∧
      c.generation = 1 ∧ c.refreshing = false ∧ c.ready = true := by
  obtain ⟨drawn, hdrawn, hrun⟩ := exists_refresh_create_eq validator flags
  rw [load, hrun] at hload
  cases hbuild : (Snapshot.build flags 1).2 with
  | error e =>
      rw [Refresh.run_preparing_of_build_eq_error hbuild] at hload
      cases hload
  | ok s =>
      rw [Refresh.run_preparing_of_build_eq_ok hbuild] at hload
      cases hload
      refine ⟨rfl, rfl, ?_, rfl, rfl⟩
      calc
        _ = (drawn.prepare flags 1).1.generation := rfl
        _ = 1 := by rw [prepare_generation, hdrawn]

theorem exists_load_eq_ok (validator : Option Validator) {flags : List Flag} {s : Snapshot}
    (hbuild : (Snapshot.build flags 1).2 = .ok s) :
    ∃ c, load validator (.ok flags) = (c, .ok s.stats) := by
  obtain ⟨drawn, -, hrun⟩ := exists_refresh_create_eq validator flags
  rw [load, hrun, Refresh.run_preparing_of_build_eq_ok hbuild]
  exact ⟨_, rfl⟩

end Cache

end FeatureFlags
