import Mathlib
import FeatureFlags.Pattern.Machine
import FeatureFlags.Proofs.Flag.Assignment
import FeatureFlags.Proofs.Flag.Preparation
import FeatureFlags.Proofs.Pairing
import FeatureFlags.Proofs.Rollout.Ranges
import FeatureFlags.Proofs.Sorting

namespace FeatureFlags

namespace Segment

def atRollout (s : Segment) (percent : UInt32) : Segment :=
  { s with rolloutPercent := percent }

theorem exists_sorted_atRollout (before after : List Segment) (s : Segment)
    (percent : UInt32) :
    ∃ sooner later,
      (before ++ s :: after).mergeSort Segment.before = sooner ++ s :: later ∧
        (before ++ s.atRollout percent :: after).mergeSort Segment.before =
          sooner ++ s.atRollout percent :: later :=
  exists_mergeSort_replace (a := s) (b := s.atRollout percent) (fun _ => rfl) (fun _ => rfl)
    before after

end Segment

namespace PreparedSegment

variable [PatternEngine]

def atRollout (s : PreparedSegment) (percent : UInt32) : PreparedSegment :=
  { s with rolloutPercent := percent }

theorem fields_of_prepare {flagId : Id} {s : Segment} {x : PreparedSegment}
    (h : prepare flagId s = .ok x) :
    x.segmentId = s.id ∧ x.rolloutPercent = s.rolloutPercent := by
  obtain ⟨shares, conditions, -, -, rfl⟩ := prepare_eq_ok_iff.mp h
  exact ⟨rfl, rfl⟩

theorem prepare_atRollout {flagId : Id} {s : Segment} {x : PreparedSegment}
    (h : prepare flagId s = .ok x) (percent : UInt32) :
    prepare flagId (s.atRollout percent) = .ok (x.atRollout percent) := by
  obtain ⟨shares, conditions, hshares, hconditions, rfl⟩ := prepare_eq_ok_iff.mp h
  exact prepare_eq_ok_iff.mpr ⟨shares, conditions, hshares, hconditions, rfl⟩

theorem variantId?_atRollout {x : PreparedSegment} {percent : UInt32} {c : Context}
    {variantId : Id} (hle : x.rolloutPercent ≤ percent)
    (h : x.variantId? c = some variantId) :
    (x.atRollout percent).variantId? c = some variantId := by
  rw [variantId?_eq_some_iff] at h ⊢
  obtain ⟨hentity, hmet, hgiven⟩ := h
  exact ⟨hentity, hmet, Shares.decideBucket_mono hle hgiven⟩

end PreparedSegment

namespace PreparedFlag

variable [PatternEngine]

/-- Evaluations of two flags that end at the same segment, with the same error or with
results that differ at most in their logs. -/
structure SameOutcome (p p' : PreparedFlag) (c : Context) : Prop where
  place? : p'.place? c = p.place? c
  evaluate :
    (p'.evaluate c).map EvalResult.withoutLog = (p.evaluate c).map EvalResult.withoutLog

section Segments

variable {c : Context} {sooner later : List PreparedSegment} {x x' : PreparedSegment}

theorem giving?_append_of_isSome (h : (giving? c sooner).isSome) :
    giving? c (sooner ++ later) = giving? c sooner := by
  obtain ⟨i, hi⟩ := Option.isSome_iff_exists.mp h
  rw [giving?, List.findIdx?_append, ← giving?, hi, Option.some_or]

theorem assigned?_append_of_isSome (h : (giving? c sooner).isSome) :
    assigned? c (sooner ++ later) = assigned? c sooner := by
  rw [← index_last_visit, Option.isSome_map, Option.isSome_iff_exists] at h
  obtain ⟨assigned, hassigned⟩ := h
  rw [assigned?, List.findSome?_append, ← assigned?, hassigned, Option.some_or]

theorem giving?_append_cons (hsooner : giving? c sooner = none)
    (hx : (x.variantId? c).isSome) :
    giving? c (sooner ++ x :: later) = some sooner.length := by
  rw [giving?, List.findIdx?_append, ← giving?, hsooner, Option.none_or, List.findIdx?_cons,
    if_pos hx, Option.map_some, Nat.zero_add]

theorem assigned?_append_cons {variantId : Id} (hsooner : giving? c sooner = none)
    (hx : x.variantId? c = some variantId) :
    assigned? c (sooner ++ x :: later) = some (x.segmentId, variantId) := by
  rw [← index_last_visit, Option.map_eq_none_iff] at hsooner
  rw [assigned?, List.findSome?_append, ← assigned?, hsooner, Option.none_or,
    List.findSome?_cons, hx, Option.map_some]

theorem length_lt_of_giving? (hsooner : giving? c sooner = none) (hx : x.variantId? c = none)
    {i : Nat} (h : giving? c (sooner ++ x :: later) = some i) : sooner.length < i := by
  rw [giving?, List.findIdx?_append, ← giving?, hsooner, Option.none_or, List.findIdx?_cons,
    hx] at h
  simp only [Option.isSome_none, Bool.false_eq_true, if_false, Option.map_map,
    Option.map_eq_some_iff, Function.comp_apply] at h
  obtain ⟨j, -, rfl⟩ := h
  omega

theorem giving?_append_cons_congr (hgives : x'.variantId? c = x.variantId? c) :
    giving? c (sooner ++ x' :: later) = giving? c (sooner ++ x :: later) := by
  simp only [giving?, List.findIdx?_append, List.findIdx?_cons, hgives]

theorem assigned?_append_cons_congr (hgives : x'.variantId? c = x.variantId? c)
    (hid : x'.segmentId = x.segmentId) :
    assigned? c (sooner ++ x' :: later) = assigned? c (sooner ++ x :: later) := by
  simp only [assigned?, List.findSome?_append, List.findSome?_cons, hgives, hid]

end Segments

variable {p p' : PreparedFlag} {c : Context}

theorem sameOutcome_of_assigned? (hface : p.flag.SameFace p'.flag)
    (hempty : p'.segments = [] ↔ p.segments = [])
    (hsame : p.flag.enabled →
      giving? (p.flag.override c) p'.segments = giving? (p.flag.override c) p.segments ∧
        assigned? (p.flag.override c) p'.segments = assigned? (p.flag.override c) p.segments) :
    p.SameOutcome p' c := by
  refine ⟨?_, evaluate_withoutLog_congr hface hempty fun henabled => (hsame henabled).2⟩
  rw [place?_eq, place?_eq, hface.override, hface.enabled]
  by_cases henabled : p.flag.enabled
  · rw [(hsame henabled).1]
  · simp [henabled]

section Raised

variable {sooner later : List PreparedSegment} {x : PreparedSegment} {percent : UInt32}

theorem newcomer_of_raised (hface : p.flag.SameFace p'.flag)
    (hsegments : p.segments = sooner ++ x :: later)
    (hraised : p'.segments = sooner ++ x.atRollout percent :: later) {variantId : Id}
    (henabled : p.flag.enabled) (hsooner : giving? (p.flag.override c) sooner = none)
    (hx : x.variantId? (p.flag.override c) = none)
    (hgives : (x.atRollout percent).variantId? (p.flag.override c) = some variantId) :
    (∀ i, p.place? c = some i → sooner.length < i) ∧ p'.place? c = some sooner.length ∧
      ∃ r, p'.evaluate c = .ok r ∧ r.segmentId = some x.segmentId := by
  have hentity := (PreparedSegment.variantId?_eq_some_iff.mp hgives).1
  rw [Flag.override_entityId] at hentity
  refine ⟨?_, ?_, ?_⟩
  · intro i hi
    rw [place?_eq, if_pos ⟨henabled, hentity⟩, hsegments] at hi
    exact length_lt_of_giving? hsooner hx hi
  · rw [place?_eq, hface.enabled, hface.override, if_pos ⟨henabled, hentity⟩, hraised]
    exact giving?_append_cons hsooner (by simp [hgives])
  · have hassigned : assigned? (p'.flag.override c) p'.segments =
        some (x.segmentId, variantId) := by
      rw [hface.override, hraised]
      exact assigned?_append_cons hsooner hgives
    obtain ⟨r, hr, hsegment, -⟩ :=
      evaluate_of_assigned? (hface.enabled.trans henabled) hentity hassigned
    exact ⟨r, hr, hsegment⟩

/-- Raising the percentage of a segment changes an outcome only by assigning there, and only
if no segment up to that one did so before. -/
theorem outcome_of_raised (hface : p.flag.SameFace p'.flag)
    (hsegments : p.segments = sooner ++ x :: later)
    (hraised : p'.segments = sooner ++ x.atRollout percent :: later)
    (hle : x.rolloutPercent ≤ percent) (c : Context) :
    p.SameOutcome p' c ∨
      (∀ i, p.place? c = some i → sooner.length < i) ∧ p'.place? c = some sooner.length ∧
        ∃ r, p'.evaluate c = .ok r ∧ r.segmentId = some x.segmentId := by
  have hsame := sameOutcome_of_assigned? (c := c) hface (by simp [hsegments, hraised])
  rw [hsegments, hraised] at hsame
  -- who decides: a segment before, the segment itself, or one behind it
  cases hsooner : giving? (p.flag.override c) sooner with
  | some i =>
      have hsome : (giving? (p.flag.override c) sooner).isSome := by simp [hsooner]
      refine .inl (hsame fun _ => ⟨?_, ?_⟩)
      · rw [giving?_append_of_isSome hsome, giving?_append_of_isSome hsome]
      · rw [assigned?_append_of_isSome hsome, assigned?_append_of_isSome hsome]
  | none =>
      by_cases hgives : (x.atRollout percent).variantId? (p.flag.override c) =
          x.variantId? (p.flag.override c)
      · exact .inl (hsame fun _ =>
          ⟨giving?_append_cons_congr hgives, assigned?_append_cons_congr hgives rfl⟩)
      by_cases henabled : p.flag.enabled
      · have hx : x.variantId? (p.flag.override c) = none := by
          rw [Option.eq_none_iff_forall_ne_some]
          intro variantId hx
          exact hgives (by rw [PreparedSegment.variantId?_atRollout hle hx, hx])
        rw [hx] at hgives
        obtain ⟨variantId, hraisedGives⟩ := Option.ne_none_iff_exists'.mp hgives
        exact .inr (newcomer_of_raised hface hsegments hraised henabled hsooner hx hraisedGives)
      · exact .inl (hsame fun h => absurd h henabled)

end Raised

theorem exists_prepare_raised {f : Flag} {before after : List Segment} {s : Segment}
    (hsegments : f.segments = before ++ s :: after) (percent : UInt32)
    (hprepare : prepare f = .ok p) :
    ∃ p' sooner x later,
      prepare { f with segments := before ++ s.atRollout percent :: after } = .ok p' ∧
        PreparedSegment.prepare f.id s = .ok x ∧
        p.segments = sooner ++ x :: later ∧
        p'.segments = sooner ++ x.atRollout percent :: later := by
  obtain ⟨before', after', hsorted, hraised⟩ :=
    Segment.exists_sorted_atRollout before after s percent
  obtain ⟨-, hprepared⟩ := prepare_eq_ok_iff_forall₂.mp hprepare
  rw [hsegments, hsorted] at hprepared
  obtain ⟨sooner, x, later, hsplit, hsooner, hx, hlater⟩ := forall₂_append_cons hprepared
  let f' : Flag := { f with segments := before ++ s.atRollout percent :: after }
  refine ⟨⟨f'.sorted, sooner ++ x.atRollout percent :: later⟩, sooner, x, later, ?_, hx, hsplit,
    rfl⟩
  refine prepare_eq_ok_iff_forall₂.mpr ⟨rfl, ?_⟩
  rw [hraised]
  exact List.rel_append hsooner
    (.cons (PreparedSegment.prepare_atRollout hx percent) hlater)

/-- Raising the percentage of a segment takes a variant from nobody and gives nobody another:
whoever the flag assigned a variant at that segment or at one tried sooner has the same
outcome, and everybody else has the same outcome or now is assigned one at that segment. -/
theorem sameOutcome_of_raised {f : Flag} {before after : List Segment} {s : Segment}
    {percent : UInt32} (hsegments : f.segments = before ++ s :: after)
    (hle : s.rolloutPercent ≤ percent) (hprepare : prepare f = .ok p) :
    ∃ p' sooner x later,
      prepare { f with segments := before ++ s.atRollout percent :: after } = .ok p' ∧
        PreparedSegment.prepare f.id s = .ok x ∧
        p.segments = sooner ++ x :: later ∧
        p'.segments = sooner ++ x.atRollout percent :: later ∧
        ∀ c,
          ((∃ i ≤ sooner.length, p.place? c = some i) → p.SameOutcome p' c) ∧
            ((¬∃ i ≤ sooner.length, p.place? c = some i) →
              p.SameOutcome p' c ∨
                p'.place? c = some sooner.length ∧
                  ∃ r, p'.evaluate c = .ok r ∧ r.segmentId = some s.id) := by
  obtain ⟨p', sooner, x, later, hprepare', hx, hsplit, hraised⟩ :=
    exists_prepare_raised hsegments percent hprepare
  have hface : p.flag.SameFace p'.flag := by
    rw [flag_of_prepare hprepare, flag_of_prepare hprepare']
    exact ⟨rfl, rfl, rfl, rfl, fun _ => rfl⟩
  obtain ⟨hid, hpercent⟩ := PreparedSegment.fields_of_prepare hx
  rw [← hpercent] at hle
  refine ⟨p', sooner, x, later, hprepare', hx, hsplit, hraised, fun c => ⟨?_, ?_⟩⟩
  · rintro ⟨i, hi, hplace⟩
    rcases outcome_of_raised hface hsplit hraised hle c with hsame | ⟨hlater, -⟩
    · exact hsame
    · exact absurd (hlater i hplace) (by omega)
  · intro _
    rw [← hid]
    exact (outcome_of_raised hface hsplit hraised hle c).imp_right And.right

end PreparedFlag

namespace PreparedFlag

/-- A flag of one variant, for everybody in its percentage. -/
def canaryFlag (percent : UInt32) : Flag :=
  ⟨100, "canary", "", true, none,
    [⟨10, 100, "", 0, percent, [], [⟨1, 10, 7, "on", 100⟩]⟩], [⟨7, 100, "on", none⟩], []⟩

theorem sameOutcome_of_canaryFlag :
    ∃ p p', prepare (canaryFlag 50) = .ok p ∧ prepare (canaryFlag 100) = .ok p' ∧
      p.place? (.ofEntity "entity2") = some 0 ∧ p.SameOutcome p' (.ofEntity "entity2") := by
  let s : Segment := ⟨10, 100, "", 0, 50, [], [⟨1, 10, 7, "on", 100⟩]⟩
  let p : PreparedFlag := ⟨canaryFlag 50, [⟨10, 0, 50, [], ⟨#[⟨7, 1000⟩]⟩, "100"⟩]⟩
  have hsegments : (canaryFlag 50).segments = [] ++ s :: [] := rfl
  have hle : s.rolloutPercent ≤ 100 := by decide
  have hprepare : prepare (canaryFlag 50) = .ok p := by cbv
  have hplace : p.place? (.ofEntity "entity2") = some 0 := by cbv
  obtain ⟨p', sooner, x, later, hprepare', -, -, -, houtcome⟩ :=
    sameOutcome_of_raised hsegments hle hprepare
  exact ⟨p, p', hprepare, hprepare', hplace,
    (houtcome (.ofEntity "entity2")).1 ⟨0, Nat.zero_le _, hplace⟩⟩

end PreparedFlag

end FeatureFlags
