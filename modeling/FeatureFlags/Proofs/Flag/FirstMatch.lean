import FeatureFlags.Pattern.Machine
import FeatureFlags.Proofs.Flag.Assignment
import FeatureFlags.Proofs.Flag.Preparation
import FeatureFlags.Proofs.Flag.RampUp
import FeatureFlags.Proofs.Pairing
import FeatureFlags.Proofs.Sorting

namespace FeatureFlags

namespace PreparedSegment

variable [PatternEngine]

/-- The segment fails, does not match or leaves the entity out. -/
inductive Declines (x : PreparedSegment) (c : Context) : Prop where
  | fails (e : SegmentError) (h : x.evaluate c = .error e)
  | unmatched (h : x.evaluate c = .ok .unmatched)
  | excludes (d : Rollout.Decision) (h : x.evaluate c = .ok (.rollout d))
      (hnone : d.variantId? = none)

/-- The segment matches and admits the entity to a variant. -/
inductive Gives (x : PreparedSegment) (c : Context) (variantId : Id) : Prop where
  | admits (bucket low high percent : UInt32)
      (h : x.evaluate c = .ok (.rollout (.admitted bucket low high variantId percent)))

theorem declines_iff {x : PreparedSegment} {c : Context} :
    x.Declines c ↔ x.variantId? c = none := by
  unfold variantId?
  constructor
  · rintro (⟨e, h⟩ | h | ⟨d, h, hnone⟩)
    · rw [h]
    · rw [h]; rfl
    · rw [h]; exact hnone
  · intro hnone
    cases h : x.evaluate c with
    | error e => exact .fails e h
    | ok verdict =>
        rw [h] at hnone
        cases verdict with
        | unmatched => exact .unmatched h
        | rollout d => exact .excludes d h hnone

theorem gives_iff {x : PreparedSegment} {c : Context} {variantId : Id} :
    x.Gives c variantId ↔ x.variantId? c = some variantId := by
  unfold variantId?
  constructor
  · rintro ⟨bucket, low, high, percent, h⟩
    rw [h]
    rfl
  · intro hsome
    rcases h : x.evaluate c with e | _ | d
    · simp [h] at hsome
    · simp [h, Verdict.variantId?] at hsome
    · rw [h] at hsome
      cases d with
      | admitted bucket low high variantId' percent =>
          obtain rfl : variantId' = variantId := Option.some.inj hsome
          exact ⟨bucket, low, high, percent, h⟩
      | emptyEntityId => cases hsome
      | closed => cases hsome
      | noShares => cases hsome
      | outside => cases hsome
      | excluded => cases hsome

end PreparedSegment

namespace Segment

theorem before_iff {a b : Segment} :
    a.before b ↔ a.rank < b.rank ∨ a.rank = b.rank ∧ a.id ≤ b.id := by
  simp [before]

end Segment

namespace PreparedFlag

variable [PatternEngine]

/-- Which segments are visited, and what the last of them assigns: all, if none gives the entity
a variant, or else those up to the first that does. -/
inductive Decides (c : Context) :
    List PreparedSegment → List PreparedSegment → Option (Id × Id) → Prop where
  | nobody {segments : List PreparedSegment} (hall : ∀ x ∈ segments, x.Declines c) :
      Decides c segments segments none
  | winner {sooner later : List PreparedSegment} {x : PreparedSegment} {variantId : Id}
      (hsooner : ∀ y ∈ sooner, y.Declines c) (hx : x.Gives c variantId) :
      Decides c (sooner ++ x :: later) (sooner ++ [x]) (some (x.segmentId, variantId))

section Segments

variable {c : Context} {segments visited : List PreparedSegment} {assigned : Option (Id × Id)}

theorem giving?_eq_none_iff : giving? c segments = none ↔ ∀ x ∈ segments, x.Declines c := by
  simp [giving?, PreparedSegment.declines_iff]

theorem assigned?_of_decides (h : Decides c segments visited assigned) :
    assigned? c segments = assigned := by
  cases h with
  | nobody hall =>
      rw [← giving?_eq_none_iff, ← index_last_visit, Option.map_eq_none_iff] at hall
      exact hall
  | winner hsooner hx =>
      exact assigned?_append_cons (giving?_eq_none_iff.mpr hsooner)
        (PreparedSegment.gives_iff.mp hx)

theorem visits_append {sooner : List PreparedSegment} (hsooner : ∀ y ∈ sooner, y.Declines c)
    (later : List PreparedSegment) :
    visits c (sooner ++ later) = sooner.map (fun y => ⟨y, y.evaluate c⟩) ++ visits c later := by
  induction sooner with
  | nil => rfl
  | cons y sooner ih =>
      obtain ⟨hy, hsooner⟩ := List.forall_mem_cons.mp hsooner
      rw [List.cons_append, visits_cons, PreparedSegment.declines_iff.mp hy, ih hsooner]
      rfl

theorem visits_of_decides (h : Decides c segments visited assigned) :
    visits c segments = visited.map fun x => ⟨x, x.evaluate c⟩ := by
  cases h with
  | nobody hall => simpa [visits] using visits_append hall []
  | winner hsooner hx =>
      rw [visits_append hsooner, visits_cons, PreparedSegment.gives_iff.mp hx, List.map_append]
      rfl

theorem forall_declines_of_decides (h : Decides c segments visited none) :
    ∀ x ∈ segments, x.Declines c := by
  cases h with
  | nobody hall => exact hall

/-- Segments behind the one that decides are not visited. -/
theorem Decides.append {later : List PreparedSegment} {given : Id × Id}
    (h : Decides c segments visited (some given)) :
    Decides c (segments ++ later) visited (some given) := by
  cases h with
  | winner hsooner hx =>
      rw [List.append_assoc, List.cons_append]
      exact .winner hsooner hx

theorem exists_decides (c : Context) (segments : List PreparedSegment) :
    ∃ visited assigned, Decides c segments visited assigned := by
  cases hgiving : giving? c segments with
  | none => exact ⟨segments, none, .nobody (giving?_eq_none_iff.mp hgiving)⟩
  | some i =>
      obtain ⟨hi, hx, hbefore⟩ := List.findIdx?_eq_some_iff_getElem.mp hgiving
      obtain ⟨variantId, hvariantId⟩ := Option.isSome_iff_exists.mp hx
      have hsooner : ∀ y ∈ segments.take i, y.Declines c := by
        intro y hy
        obtain ⟨j, hj, rfl⟩ := List.mem_take_iff_getElem.mp hy
        simpa [PreparedSegment.declines_iff] using hbefore j (by omega)
      have hdecides : Decides c (segments.take i ++ segments[i] :: segments.drop (i + 1)) _ _ :=
        .winner hsooner (PreparedSegment.gives_iff.mpr hvariantId)
      rw [← List.drop_eq_getElem_cons hi, List.take_append_drop] at hdecides
      exact ⟨_, _, hdecides⟩

end Segments

theorem evaluate_of_decides {p : PreparedFlag} {c : Context} {visited : List PreparedSegment}
    {assigned : Option (Id × Id)} (henabled : p.flag.enabled) (hsegments : p.segments ≠ [])
    (hentity : c.entityId ≠ "")
    (hdecides : Decides (p.flag.override c) p.segments visited assigned) :
    p.evaluate c = .ok { resultOf p.flag (p.flag.override c) assigned with
      log :=
        if (p.flag.override c).debug then
          some ⟨"", visited.map fun x =>
            x.log (p.flag.override c) (x.evaluate (p.flag.override c))⟩
        else none } := by
  simp only [evaluate, henabled, hsegments, hentity, assignment?_visits,
    assigned?_of_decides hdecides, List.isEmpty_iff, String.isEmpty_iff, Bool.not_true,
    Bool.false_eq_true, if_false]
  simp only [visits_of_decides hdecides, List.map_map]
  rfl

theorem evaluate_of_idle {p : PreparedFlag} (c : Context)
    (hidle : ¬p.flag.enabled ∨ p.segments = []) :
    ∃ reason, p.evaluate c = .ok (p.blank (p.flag.override c) reason) := by
  unfold evaluate
  cases henabled : p.flag.enabled with
  | false => exact ⟨_, rfl⟩
  | true =>
      have hsegments : p.segments = [] := hidle.resolve_left (by simp [henabled])
      simp [hsegments]

theorem evaluate_eq_error_iff {p : PreparedFlag} {c : Context} {e : EvalError} :
    p.evaluate c = .error e ↔
      e = .emptyContext "entity id" ∧ p.flag.enabled ∧ p.segments ≠ [] ∧ c.entityId = "" := by
  have hevaluate := p.evaluate_withoutLog c
  split at hevaluate
  · next hempty =>
      cases hresult : p.evaluate c with
      | ok r => simp [hresult, Except.map] at hevaluate
      | error e' =>
          obtain rfl : e' = .emptyContext "entity id" := by
            simpa [hresult, Except.map] using hevaluate
          simp [hempty, eq_comm]
  · next hempty =>
      cases hresult : p.evaluate c with
      | ok r => simp [hempty]
      | error e' => simp [hresult, Except.map] at hevaluate

/-- What every evaluation of an accepted flag comes to. -/
structure FirstMatch (f : Flag) (p : PreparedFlag) : Prop where
  /-- The prepared segments are those of the flag by rank and then by number, those of one rank
  and number as they were given. -/
  order : ∃ order : List Segment, order.Perm f.segments ∧
    order.Pairwise (fun a b => a.rank < b.rank ∨ a.rank = b.rank ∧ a.id ≤ b.id) ∧
    (∀ a b, a.rank = b.rank → a.id = b.id → [a, b].Sublist f.segments → [a, b].Sublist order) ∧
    List.Forall₂ (fun s x => PreparedSegment.prepare f.id s = .ok x) order p.segments
  error_iff : ∀ c e, p.evaluate c = .error e ↔
    e = .emptyContext "entity id" ∧ f.enabled ∧ f.segments ≠ [] ∧ c.entityId = ""
  idle : ¬f.enabled ∨ f.segments = [] → ∀ c, ∃ r, p.evaluate c = .ok r ∧
    r.segmentId = none ∧ r.variantId = none ∧ r.variantKey = none ∧ r.variantAttachment = none ∧
    ∃ reason, r.log = some ⟨reason, []⟩
  /-- The segments see the context that the result shows. -/
  decided : f.enabled → f.segments ≠ [] → ∀ c, c.entityId ≠ "" →
    ∃ r visited assigned, p.evaluate c = .ok r ∧ Decides r.context p.segments visited assigned ∧
      r.segmentId = assigned.map Prod.fst ∧ r.variantId = assigned.map Prod.snd ∧
      r.log = if c.debug then
        some ⟨"", visited.map fun x => x.log r.context (x.evaluate r.context)⟩
      else none
  paired : ∀ c r, p.evaluate c = .ok r → (r.segmentId.isSome ↔ r.variantId.isSome)
  context : ∀ c r, p.evaluate c = .ok r →
    r.context = { c with entityType := (f.entityType.filter (· ≠ "")).getD c.entityType }
  /-- Taking out a segment that declines changes nothing but the log, and taking out one behind
  the segment that decides changes nothing at all. -/
  without : ∀ before s after, f.segments = before ++ s :: after →
    ∃ p' sooner x later, prepare { f with segments := before ++ after } = .ok p' ∧
      PreparedSegment.prepare f.id s = .ok x ∧ p.segments = sooner ++ x :: later ∧
      p'.segments = sooner ++ later ∧
      ∀ c, c.entityId ≠ "" →
        (x.Declines (f.override c) → (p'.evaluate c).map EvalResult.withoutLog =
          (p.evaluate c).map EvalResult.withoutLog) ∧
        ((∃ y ∈ sooner, ∃ variantId, y.Gives (f.override c) variantId) →
          p'.evaluate c = p.evaluate c)

section Prepared

variable {f : Flag} {p : PreparedFlag}

theorem segments_eq_nil_iff_of_prepare (h : prepare f = .ok p) :
    p.segments = [] ↔ f.segments = [] := by
  have hlength := (prepare_eq_ok_iff_forall₂.mp h).2.length_eq
  rw [List.length_mergeSort] at hlength
  rw [← List.length_eq_zero_iff, ← List.length_eq_zero_iff, hlength]

omit [PatternEngine] in
theorem override_eq (f : Flag) (c : Context) : f.override c =
    { c with entityType := (f.entityType.filter (· ≠ "")).getD c.entityType } := by
  unfold Flag.override
  cases f.entityType with
  | none => rfl
  | some entityType =>
      by_cases hempty : entityType = ""
      · simp [hempty, Option.filter]
      · simp [hempty, Option.filter]

theorem context_of_evaluate {c : Context} {r : EvalResult} (h : p.evaluate c = .ok r) :
    r.context = p.flag.override c := by
  have hevaluate := p.evaluate_withoutLog c
  rw [h] at hevaluate
  split at hevaluate
  · simp [Except.map] at hevaluate
  · exact congrArg EvalResult.context (Except.ok.inj hevaluate)

theorem isSome_segmentId_iff {c : Context} {r : EvalResult} (h : p.evaluate c = .ok r) :
    r.segmentId.isSome ↔ r.variantId.isSome := by
  have hevaluate := p.evaluate_withoutLog c
  rw [h] at hevaluate
  split at hevaluate
  · simp [Except.map] at hevaluate
  · have hr : r.withoutLog = _ := Except.ok.inj hevaluate
    change r.withoutLog.segmentId.isSome ↔ r.withoutLog.variantId.isSome
    rw [hr]
    simp [resultOf]

theorem exists_prepare_without {before after : List Segment} {s : Segment}
    (hsegments : f.segments = before ++ s :: after) (hprepare : prepare f = .ok p) :
    ∃ p' sooner x later, prepare { f with segments := before ++ after } = .ok p' ∧
      PreparedSegment.prepare f.id s = .ok x ∧ p.segments = sooner ++ x :: later ∧
      p'.segments = sooner ++ later := by
  obtain ⟨before', after', hwith, hwithout⟩ :=
    exists_mergeSort_without Segment.before_trans Segment.before_total before after s
  obtain ⟨-, hprepared⟩ := prepare_eq_ok_iff_forall₂.mp hprepare
  rw [hsegments, hwith] at hprepared
  obtain ⟨sooner, x, later, hsplit, hsooner, hx, hlater⟩ := forall₂_append_cons hprepared
  let f' : Flag := { f with segments := before ++ after }
  refine ⟨⟨f'.sorted, sooner ++ later⟩, sooner, x, later, ?_, hx, hsplit, rfl⟩
  refine prepare_eq_ok_iff_forall₂.mpr ⟨rfl, ?_⟩
  rw [hwithout]
  exact List.rel_append hsooner hlater

section Without

variable {p' : PreparedFlag} {sooner later : List PreparedSegment} {x : PreparedSegment}
  {c : Context} (hface : p.flag.SameFace p'.flag) (hsplit : p.segments = sooner ++ x :: later)
  (hwithout : p'.segments = sooner ++ later) (hentity : c.entityId ≠ "")

include hface hsplit hwithout hentity

theorem withoutLog_of_declines (hx : x.Declines (p.flag.override c)) :
    (p'.evaluate c).map EvalResult.withoutLog = (p.evaluate c).map EvalResult.withoutLog := by
  have hassigned : assigned? (p.flag.override c) (sooner ++ later) =
      assigned? (p.flag.override c) (sooner ++ x :: later) := by
    simp [assigned?, List.findSome?_append, PreparedSegment.declines_iff.mp hx]
  simp only [evaluate_withoutLog, resultOf, hface.override, hface.enabled, hface.id, hface.key,
    hface.variant?, hentity, and_false, if_false, hsplit, hwithout, hassigned]

theorem evaluate_of_giver
    (hgives : ∃ y ∈ sooner, ∃ variantId, y.Gives (p.flag.override c) variantId) :
    p'.evaluate c = p.evaluate c := by
  obtain ⟨visited, assigned, hdecides⟩ := exists_decides (p.flag.override c) sooner
  cases assigned with
  | none =>
      obtain ⟨y, hy, variantId, hgives⟩ := hgives
      have hnone := PreparedSegment.declines_iff.mp (forall_declines_of_decides hdecides y hy)
      rw [PreparedSegment.gives_iff.mp hgives] at hnone
      cases hnone
  | some assigned =>
      by_cases henabled : p.flag.enabled
      · have hwith : Decides (p.flag.override c) p.segments visited (some assigned) := by
          rw [hsplit]
          exact hdecides.append
        have hlacking : Decides (p'.flag.override c) p'.segments visited (some assigned) := by
          rw [hface.override, hwithout]
          exact hdecides.append
        have hnonempty : p'.segments ≠ [] := by
          intro hnil
          rw [hnil] at hlacking
          exact absurd (assigned?_of_decides hlacking) (by simp [assigned?])
        rw [evaluate_of_decides henabled (by simp [hsplit]) hentity hwith,
          evaluate_of_decides (hface.enabled.trans henabled) hnonempty hentity hlacking]
        simp only [resultOf, hface.override, hface.id, hface.key, hface.variant?]
      · simp [evaluate, blank, henabled, hface.enabled, hface.override, hface.id, hface.key]

end Without

/-- The first segment by rank and number that gives the entity a variant decides. -/
theorem firstMatch_of_prepare (hprepare : prepare f = .ok p) : FirstMatch f p := by
  obtain ⟨hflag, hprepared⟩ := prepare_eq_ok_iff_forall₂.mp hprepare
  have henabled : p.flag.enabled = f.enabled := by rw [hflag]; rfl
  have hoverride : ∀ c, p.flag.override c = f.override c := by
    intro c
    rw [hflag]
    rfl
  have hnil := segments_eq_nil_iff_of_prepare hprepare
  constructor
  case order =>
    refine ⟨_, List.mergeSort_perm f.segments Segment.before, ?_, ?_, hprepared⟩
    · have hsorted := List.pairwise_mergeSort Segment.before_trans Segment.before_total f.segments
      exact hsorted.imp Segment.before_iff.mp
    · intro a b hrank hid
      have hab : a.before b := Segment.before_iff.mpr (.inr ⟨hrank, hid ▸ UInt64.le_refl _⟩)
      exact List.pair_sublist_mergeSort Segment.before_trans Segment.before_total hab
  case error_iff =>
    intro c e
    rw [evaluate_eq_error_iff, henabled, ne_eq, hnil]
  case idle =>
    intro hidle c
    rw [← henabled, ← hnil] at hidle
    obtain ⟨reason, hresult⟩ := evaluate_of_idle c hidle
    exact ⟨_, hresult, rfl, rfl, rfl, rfl, _, rfl⟩
  case decided =>
    intro hon hsegments c hentity
    obtain ⟨visited, assigned, hdecides⟩ := exists_decides (p.flag.override c) p.segments
    have hresult := evaluate_of_decides (henabled.trans hon) (hnil.not.mpr hsegments) hentity
      hdecides
    refine ⟨_, visited, assigned, hresult, hdecides, rfl, rfl, ?_⟩
    simp only [resultOf, hoverride, override_eq]
  case paired =>
    intro c r hresult
    exact isSome_segmentId_iff hresult
  case context =>
    intro c r hresult
    rw [context_of_evaluate hresult, hoverride, override_eq]
  case without =>
    intro before s after hsegments
    obtain ⟨p', sooner, x, later, hprepare', hx, hsplit, hwithout⟩ :=
      exists_prepare_without hsegments hprepare
    have hface : p.flag.SameFace p'.flag := by
      rw [hflag, flag_of_prepare hprepare']
      exact ⟨rfl, rfl, rfl, rfl, fun _ => rfl⟩
    refine ⟨p', sooner, x, later, hprepare', hx, hsplit, hwithout, ?_⟩
    intro c hentity
    rw [← hoverride]
    exact ⟨withoutLog_of_declines hface hsplit hwithout hentity,
      evaluate_of_giver hface hsplit hwithout hentity⟩

end Prepared

end PreparedFlag

namespace PreparedFlag

/-- A flag for robots: of its segments the first fails for want of a country, the second is for
users, the third is closed, and the last stands behind the one that decides. -/
def robotFlag : Flag :=
  ⟨1, "robots", "", true, some "robot",
    [⟨50, 1, "", 3, 100, [], [⟨5, 50, 9, "c", 100⟩]⟩,
      ⟨40, 1, "", 2, 100, [⟨3, 40, "@entity_type", "EQ", "'robot'"⟩], [⟨4, 40, 8, "b", 100⟩]⟩,
      ⟨30, 1, "", 2, 0, [], [⟨3, 30, 7, "a", 100⟩]⟩,
      ⟨20, 1, "", 1, 100, [⟨2, 20, "@entity_type", "EQ", "'user'"⟩], [⟨2, 20, 7, "a", 100⟩]⟩,
      ⟨10, 1, "", 0, 100, [⟨1, 10, "country", "EQ", "'CA'"⟩], [⟨1, 10, 7, "a", 100⟩]⟩],
    [⟨7, 1, "a", none⟩, ⟨8, 1, "b", none⟩, ⟨9, 1, "c", none⟩], []⟩

def robotFlagPrepared : PreparedFlag :=
  ⟨robotFlag.sorted,
    [⟨10, 0, 100, [⟨"country", .equal, .value (.text "CA")⟩], ⟨#[⟨7, 1000⟩]⟩, "1"⟩,
      ⟨20, 1, 100, [⟨"@entity_type", .equal, .value (.text "user")⟩], ⟨#[⟨7, 1000⟩]⟩, "1"⟩,
      ⟨30, 2, 0, [], ⟨#[⟨7, 1000⟩]⟩, "1"⟩,
      ⟨40, 2, 100, [⟨"@entity_type", .equal, .value (.text "robot")⟩], ⟨#[⟨8, 1000⟩]⟩, "1"⟩,
      ⟨50, 3, 100, [], ⟨#[⟨9, 1000⟩]⟩, "1"⟩]⟩

theorem firstMatch_of_robotFlag :
    prepare robotFlag = .ok robotFlagPrepared ∧ FirstMatch robotFlag robotFlagPrepared ∧
      (robotFlagPrepared.evaluate
        { Context.ofEntity "r2" with entityType := "user", debug := true }).toOption.map
          (fun r => (r.segmentId, r.variantId, r.log.map (·.segments.map SegmentLog.segmentId))) =
        some (some 40, some 8, some [10, 20, 30, 40]) := by
  have hprepare : prepare robotFlag = .ok robotFlagPrepared := by cbv
  exact ⟨hprepare, firstMatch_of_prepare hprepare, by decide +kernel⟩

end PreparedFlag

end FeatureFlags
