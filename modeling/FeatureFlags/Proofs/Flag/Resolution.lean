import Mathlib
import FeatureFlags.Pattern.Machine
import FeatureFlags.Proofs.Flag.Assignment
import FeatureFlags.Proofs.Flag.Last
import FeatureFlags.Proofs.Flag.Preparation
import FeatureFlags.Proofs.Pairing
import FeatureFlags.Proofs.Rollout.Layout

namespace FeatureFlags

namespace Flag

/-- Every distribution that has a part of the buckets names a variant of the flag. -/
def NamesOwnVariants (f : Flag) : Prop :=
  ∀ s ∈ f.segments, ∀ d ∈ s.distributions, d.percent ≠ 0 → ∃ v ∈ f.variants, v.id = d.variantId

theorem variant?_cases (f : Flag) (variantId : Id) :
    (∃ v, f.Resolves variantId v ∧ (f.variant? variantId).map Variant.key = some v.key ∧
      (f.variant? variantId).bind Variant.attachment = v.attachment) ∨
    (∀ v ∈ f.variants, v.id ≠ variantId) ∧ (f.variant? variantId).map Variant.key = none ∧
      (f.variant? variantId).bind Variant.attachment = none := by
  cases hfound : f.variant? variantId with
  | some v => exact .inl ⟨v, variant?_eq_some_iff_resolves.mp hfound, rfl, rfl⟩
  | none => exact .inr ⟨variant?_eq_none_iff.mp hfound, rfl, rfl⟩

end Flag

theorem PreparedSegment.exists_distribution_of_variantId? [PatternEngine] {flagId variantId : Id}
    {s : Segment} {x : PreparedSegment} {c : Context} (hprepare : prepare flagId s = .ok x)
    (h : x.variantId? c = some variantId) :
    x.segmentId = s.id ∧ s.rolloutPercent ≠ 0 ∧
      ∃ d ∈ s.distributions, d.variantId = variantId ∧ d.percent ≠ 0 := by
  obtain ⟨shares, conditions, hshares, -, rfl⟩ := prepare_eq_ok_iff.mp hprepare
  obtain ⟨-, -, hgiven⟩ := variantId?_eq_some_iff.mp h
  exact ⟨rfl, Shares.exists_distribution_of_decideBucket hshares hgiven⟩

namespace PreparedFlag

variable [PatternEngine]
variable {f : Flag} {p : PreparedFlag} {c : Context} {r : EvalResult} {variantId : Id}

theorem exists_assigned_of_evaluate (hevaluate : p.evaluate c = .ok r)
    (hassigned : r.variantId = some variantId) :
    ∃ segmentId, assigned? (p.flag.override c) p.segments = some (segmentId, variantId) ∧
      r.withoutLog = resultOf p.flag (p.flag.override c) (some (segmentId, variantId)) := by
  have hresult := p.evaluate_withoutLog c
  rw [hevaluate] at hresult
  split at hresult
  · cases hresult
  have hr : r.withoutLog = _ := Except.ok.inj hresult
  have hvariant := congrArg EvalResult.variantId hr
  simp only [EvalResult.withoutLog, resultOf, hassigned] at hvariant
  obtain ⟨⟨segmentId, _⟩, hfound, rfl⟩ := Option.map_eq_some_iff.mp hvariant.symm
  rw [hfound] at hr
  exact ⟨segmentId, (Option.ite_none_right_eq_some.mp hfound).2, hr⟩

theorem exists_distribution_of_assigned? (hprepare : prepare f = .ok p) {segmentId : Id}
    (h : assigned? c p.segments = some (segmentId, variantId)) :
    ∃ s ∈ f.segments, segmentId = s.id ∧ s.rolloutPercent ≠ 0 ∧
      ∃ d ∈ s.distributions, d.variantId = variantId ∧ d.percent ≠ 0 := by
  obtain ⟨x, hx, hgives⟩ := List.exists_of_findSome?_eq_some h
  obtain ⟨given, hgiven, heq⟩ := Option.map_eq_some_iff.mp hgives
  obtain ⟨rfl, rfl⟩ := Prod.mk.inj heq
  obtain ⟨s, hs, hsegment⟩ := exists_of_mem_of_forall₂ (prepare_eq_ok_iff_forall₂.mp hprepare).2 hx
  exact ⟨s, List.mem_mergeSort.mp hs,
    PreparedSegment.exists_distribution_of_variantId? hsegment hgiven⟩

/-- Whoever is assigned a variant gets it from a distribution of the segment that the result
names. The result has the key and the attachment of the variant of that number, or neither of
them if the flag has no such variant; it has one if the distributions name only variants of
the flag. -/
theorem resolves_of_evaluate (hprepare : prepare f = .ok p) (hevaluate : p.evaluate c = .ok r)
    (hassigned : r.variantId = some variantId) :
    (∃ s ∈ f.segments, r.segmentId = some s.id ∧ s.rolloutPercent ≠ 0 ∧
      ∃ d ∈ s.distributions, d.variantId = variantId ∧ d.percent ≠ 0) ∧
    ((∃ v, f.Resolves variantId v ∧ r.variantKey = some v.key ∧
        r.variantAttachment = v.attachment) ∨
      (∀ v ∈ f.variants, v.id ≠ variantId) ∧ r.variantKey = none ∧ r.variantAttachment = none) ∧
    (f.NamesOwnVariants → ∃ v ∈ f.variants, v.id = variantId ∧ r.variantKey = some v.key ∧
      r.variantAttachment = v.attachment) := by
  obtain ⟨segmentId, hfound, hresult⟩ := exists_assigned_of_evaluate hevaluate hassigned
  rw [flag_of_prepare hprepare] at hresult
  obtain ⟨s, hs, rfl, hopen, d, hd, hnamed, hpart⟩ :=
    exists_distribution_of_assigned? hprepare hfound
  have hsegment : r.segmentId = some s.id := congrArg EvalResult.segmentId hresult
  have hkey : r.variantKey = (f.variant? variantId).map Variant.key :=
    congrArg EvalResult.variantKey hresult
  have hattachment : r.variantAttachment = (f.variant? variantId).bind Variant.attachment :=
    congrArg EvalResult.variantAttachment hresult
  have hvariant := f.variant?_cases variantId
  rw [← hkey, ← hattachment] at hvariant
  refine ⟨⟨s, hs, hsegment, hopen, d, hd, hnamed, hpart⟩, hvariant, fun hown => ?_⟩
  rcases hvariant with ⟨v, hv, htold⟩ | ⟨habsent, -⟩
  · exact ⟨v, hv.mem.1, hv.mem.2, htold⟩
  · obtain ⟨v, hv, hvid⟩ := hown s hs d hd hpart
    exact absurd (hvid.trans hnamed) (habsent v hv)

end PreparedFlag

namespace PreparedFlag

/-- A flag that gives everybody variant 7, and gave some variant 9. -/
def splitFlag (variants : List Variant) : Flag :=
  ⟨1, "split", "", true, none,
    [⟨10, 1, "", 0, 100, [], [⟨1, 10, 9, "old", 0⟩, ⟨2, 10, 7, "new", 100⟩]⟩], variants, []⟩

theorem exists_evaluate_splitFlag (variants : List Variant) :
    ∃ p r, prepare (splitFlag variants) = .ok p ∧ p.evaluate (.ofEntity "ann") = .ok r ∧
      r.variantId = some 7 := by
  let x : PreparedSegment := ⟨10, 0, 100, [], ⟨#[⟨7, 1000⟩, ⟨9, 1000⟩]⟩, "1"⟩
  have hprepare : prepare (splitFlag variants) = .ok ⟨(splitFlag variants).sorted, [x]⟩ := by cbv
  have hassigned : assigned? (.ofEntity "ann") [x] = some (10, 7) := by cbv
  obtain ⟨r, hevaluate, -, hvariant⟩ := evaluate_of_assigned?
    (p := ⟨(splitFlag variants).sorted, [x]⟩) rfl (by decide) hassigned
  exact ⟨_, r, hprepare, hevaluate, hvariant⟩

theorem resolves_of_splitFlag :
    ∃ p r, prepare (splitFlag [⟨7, 1, "new", none⟩]) = .ok p ∧
      p.evaluate (.ofEntity "ann") = .ok r ∧ r.variantId = some 7 ∧ r.variantKey = some "new" := by
  have hown : (splitFlag [⟨7, 1, "new", none⟩]).NamesOwnVariants := by
    unfold Flag.NamesOwnVariants
    decide
  obtain ⟨p, r, hprepare, hevaluate, hassigned⟩ := exists_evaluate_splitFlag [⟨7, 1, "new", none⟩]
  obtain ⟨v, hv, -, hkey, -⟩ := (resolves_of_evaluate hprepare hevaluate hassigned).2.2 hown
  obtain rfl := List.mem_singleton.mp hv
  exact ⟨p, r, hprepare, hevaluate, hassigned, hkey⟩

theorem not_forall_resolves :
    ¬ ∀ f p c r variantId, prepare f = .ok p → p.evaluate c = .ok r →
      r.variantId = some variantId → ∃ v ∈ f.variants, v.id = variantId ∧
        r.variantKey = some v.key ∧ r.variantAttachment = v.attachment := by
  intro h
  obtain ⟨p, r, hprepare, hevaluate, hassigned⟩ := exists_evaluate_splitFlag []
  obtain ⟨v, hv, -⟩ := h _ p _ r 7 hprepare hevaluate hassigned
  cases hv

end PreparedFlag

end FeatureFlags
