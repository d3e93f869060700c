import FeatureFlags.Flag.Prepared

namespace FeatureFlags

def EvalResult.withoutLog (r : EvalResult) : EvalResult :=
  { r with log := none }

namespace Flag

/-- Flags that differ at most in their segments, their texts and the order in which they
name their variants. -/
structure SameFace (f f' : Flag) : Prop where
  id : f'.id = f.id
  key : f'.key = f.key
  enabled : f'.enabled = f.enabled
  entityType : f'.entityType = f.entityType
  variant? : ∀ id, f'.variant? id = f.variant? id

@[simp]
theorem override_entityId (f : Flag) (c : Context) : (f.override c).entityId = c.entityId := by
  unfold override
  split
  · split <;> rfl
  · rfl

theorem SameFace.override {f f' : Flag} (h : f.SameFace f') (c : Context) :
    f'.override c = f.override c := by
  unfold Flag.override
  rw [h.entityType]

end Flag

namespace Condition

variable [PatternEngine]

/-- Conditions are all met just if each is. Their order decides only whether they fail or
have no answer when one of them is not met. -/
theorem evaluateAll_eq_ok_true_iff {conditions : List Condition} {c : Context} :
    evaluateAll conditions c = .ok true ↔
      ∀ condition ∈ conditions, condition.evaluate c = .ok true := by
  induction conditions with
  | nil => simp [evaluateAll]
  | cons condition rest ih =>
      rw [List.forall_mem_cons, ← ih, evaluateAll]
      rcases condition.evaluate c with e | _ | _
      · simp
      · simp
      · simp

end Condition

namespace PreparedSegment

variable [PatternEngine]

/-- The variant that the segment gives the entity: none also when it has no answer. -/
def variantId? (s : PreparedSegment) (c : Context) : Option Id :=
  match s.evaluate c with
  | .ok verdict => verdict.variantId?
  | .error _ => none

theorem variantId?_eq_some_iff {s : PreparedSegment} {c : Context} {variantId : Id} :
    s.variantId? c = some variantId ↔
      c.entityId ≠ "" ∧ (∀ condition ∈ s.conditions, condition.evaluate c = .ok true) ∧
        (s.shares.decideBucket (Rollout.bucketOf c.entityId s.salt)
          s.rolloutPercent).variantId? = some variantId := by
  rw [← Condition.evaluateAll_eq_ok_true_iff]
  unfold variantId? evaluate
  by_cases hentity : c.entityId = ""
  · simp [hentity]
  · rcases Condition.evaluateAll s.conditions c with e | _ | _
    · simp [hentity]
    · simp [hentity, Verdict.variantId?]
    · simp [hentity, Verdict.variantId?, Shares.decideEntity]

end PreparedSegment

namespace PreparedFlag

variable [PatternEngine]

def assigned? (c : Context) (segments : List PreparedSegment) : Option (Id × Id) :=
  segments.findSome? fun s => (s.variantId? c).map (s.segmentId, ·)

/-- The index of the first segment that gives the entity a variant. -/
def giving? (c : Context) (segments : List PreparedSegment) : Option Nat :=
  segments.findIdx? fun s => (s.variantId? c).isSome

/-- The index of the segment whose variant an evaluation of the flag assigns: that of the
last segment it visits. -/
def place? (p : PreparedFlag) (c : Context) : Option Nat :=
  match p.evaluate c with
  | .ok r => r.variantId.map fun _ => (visits (p.flag.override c) p.segments).length - 1
  | .error _ => none

theorem variantId?_visit (c : Context) (s : PreparedSegment) :
    Visit.variantId? ⟨s, s.evaluate c⟩ = s.variantId? c := rfl

theorem visits_cons (c : Context) (s : PreparedSegment) (rest : List PreparedSegment) :
    visits c (s :: rest) =
      ⟨s, s.evaluate c⟩ :: if (s.variantId? c).isSome then [] else visits c rest := by
  simp only [visits, variantId?_visit]
  cases s.variantId? c with
  | none => rfl
  | some variantId => rfl

theorem assignment?_visits (c : Context) (segments : List PreparedSegment) :
    assignment? (visits c segments) = assigned? c segments := by
  induction segments with
  | nil => rfl
  | cons s rest ih =>
      rw [visits_cons]
      simp only [assigned?, List.findSome?_cons] at ih ⊢
      rw [← ih]
      simp only [assignment?, List.getLast?_cons]
      cases hgiven : s.variantId? c with
      | some variantId => simp [variantId?_visit, hgiven]
      | none =>
          simp only [Option.isSome_none, Bool.false_eq_true, if_false, Option.map_none]
          cases (visits c rest).getLast? with
          | some visit => rfl
          | none => simp [variantId?_visit, hgiven]

theorem length_visits {c : Context} {segments : List PreparedSegment} {i : Nat}
    (h : giving? c segments = some i) : (visits c segments).length = i + 1 := by
  induction segments generalizing i with
  | nil => cases h
  | cons s rest ih =>
      rw [giving?, List.findIdx?_cons] at h
      rw [visits_cons]
      split at h
      · next hgives =>
          obtain rfl := Option.some.inj h
          simp [hgives]
      · next hgives =>
          obtain ⟨j, hj, rfl⟩ := Option.map_eq_some_iff.mp h
          simp [hgives, ih hj]

theorem index_last_visit (c : Context) (segments : List PreparedSegment) :
    ((assigned? c segments).map fun _ => (visits c segments).length - 1) =
      giving? c segments := by
  have hsome : (assigned? c segments).isSome = (giving? c segments).isSome := by
    rw [Bool.eq_iff_iff, assigned?, giving?, List.findSome?_isSome_iff, List.findIdx?_isSome,
      List.any_eq_true]
    simp only [Option.isSome_map]
  cases hgiving : giving? c segments with
  | none =>
      rw [hgiving, Option.isSome_none, Option.isSome_eq_false_iff, Option.isNone_iff_eq_none]
        at hsome
      rw [hsome, Option.map_none]
  | some i =>
      rw [hgiving, Option.isSome_some, Option.isSome_iff_exists] at hsome
      obtain ⟨assigned, hassigned⟩ := hsome
      rw [hassigned, Option.map_some, length_visits hgiving, Nat.add_sub_cancel]

/-- The result of an assignment, or of none. -/
def resultOf (f : Flag) (seen : Context) (assigned : Option (Id × Id)) : EvalResult :=
  let variant := assigned.bind fun (_, variantId) => f.variant? variantId
  { flagId := f.id
    flagKey := f.key
    segmentId := assigned.map Prod.fst
    variantId := assigned.map Prod.snd
    variantKey := variant.map Variant.key
    variantAttachment := variant.bind Variant.attachment
    context := seen
    log := none }

theorem evaluate_withoutLog (p : PreparedFlag) (c : Context) :
    (p.evaluate c).map EvalResult.withoutLog =
      if p.flag.enabled ∧ p.segments ≠ [] ∧ c.entityId = "" then
        .error (.emptyContext "entity id")
      else
        .ok (resultOf p.flag (p.flag.override c)
          (if p.flag.enabled then assigned? (p.flag.override c) p.segments else none)) := by
  unfold evaluate
  cases henabled : p.flag.enabled with
  | false => simp [blank, resultOf, EvalResult.withoutLog, Except.map]
  | true =>
      cases hsegments : p.segments with
      | nil => simp [blank, resultOf, assigned?, EvalResult.withoutLog, Except.map]
      | cons s rest =>
          by_cases hentity : c.entityId = ""
          · simp [hentity, Except.map]
          · simp [hentity, assignment?_visits, resultOf, EvalResult.withoutLog, Except.map]

variable {p p' : PreparedFlag} {c : Context}

theorem evaluate_withoutLog_congr (hface : p.flag.SameFace p'.flag)
    (hempty : p'.segments = [] ↔ p.segments = [])
    (hassigned : p.flag.enabled → assigned? (p.flag.override c) p'.segments =
      assigned? (p.flag.override c) p.segments) :
    (p'.evaluate c).map EvalResult.withoutLog = (p.evaluate c).map EvalResult.withoutLog := by
  simp only [evaluate_withoutLog, resultOf, hface.override, hface.enabled, hface.id, hface.key,
    hface.variant?, ne_eq, hempty]
  cases henabled : p.flag.enabled with
  | false => simp
  | true => simp [hassigned henabled]

theorem evaluate_of_assigned? {segmentId variantId : Id} (henabled : p.flag.enabled)
    (hentity : c.entityId ≠ "")
    (hassigned : assigned? (p.flag.override c) p.segments = some (segmentId, variantId)) :
    ∃ r, p.evaluate c = .ok r ∧ r.segmentId = some segmentId ∧
      r.variantId = some variantId := by
  have hevaluate := p.evaluate_withoutLog c
  rw [if_neg (fun h => hentity h.2.2), if_pos henabled, hassigned] at hevaluate
  cases hresult : p.evaluate c with
  | error e => simp [hresult, Except.map] at hevaluate
  | ok r =>
      rw [hresult] at hevaluate
      have hr : r.withoutLog = _ := Except.ok.inj hevaluate
      refine ⟨r, rfl, ?_, ?_⟩
      · exact congrArg EvalResult.segmentId hr
      · exact congrArg EvalResult.variantId hr

theorem place?_eq (p : PreparedFlag) (c : Context) :
    p.place? c =
      if p.flag.enabled ∧ c.entityId ≠ "" then giving? (p.flag.override c) p.segments
      else none := by
  unfold place? evaluate
  cases henabled : p.flag.enabled with
  | false => simp [blank]
  | true =>
      cases hsegments : p.segments with
      | nil => simp [blank, giving?]
      | cons s rest =>
          by_cases hentity : c.entityId = ""
          · simp [hentity]
          · simp [hentity, assignment?_visits, Option.map_map, Function.comp_def,
              index_last_visit]

end PreparedFlag

end FeatureFlags
