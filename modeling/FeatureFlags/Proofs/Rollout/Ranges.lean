import FeatureFlags.Proofs.Search
import FeatureFlags.Rollout

namespace FeatureFlags

namespace Rollout

theorem admits_mono {bucket low high percent percent' : UInt32} (hhigh : bucket < high)
    (hlow : low ≤ bucket) (hle : percent ≤ percent')
    (h : admits bucket low high percent) : admits bucket low high percent' := by
  unfold admits at h ⊢
  have hopen : percent' ≠ 0 := by
    rintro rfl
    have hclosed : percent = 0 := by simpa using hle
    simp [hclosed] at h
  rw [if_neg hopen]
  by_cases hfull : 100 ≤ percent'
  · rw [if_pos hfull]
  · have hpart : ¬ 100 ≤ percent := fun hfull' => hfull (UInt32.le_trans hfull' hle)
    rw [if_neg hfull, decide_eq_true_eq]
    simp only [hpart, if_false, Bool.if_false_left, Bool.and_eq_true, decide_eq_true_eq] at h
    -- the range holds the bucket, so it is not empty and its last bucket has an offset
    have hlast : 0 ≤ (high.toNat : Int) - low.toNat - 1 := by
      rw [UInt32.le_iff_toNat_le] at hlow
      rw [UInt32.lt_iff_toNat_lt] at hhigh
      omega
    have hpercent : (percent.toNat : Int) ≤ percent'.toNat :=
      Int.ofNat_le.mpr (UInt32.le_iff_toNat_le.mp hle)
    exact Int.le_trans h.2 (Int.mul_le_mul_of_nonneg_left hpercent hlast)

end Rollout

namespace Shares

open Rollout

/-- The range that a bucket falls into: its first bucket, and its share. -/
def range? (s : Shares) (bucket : UInt32) : Option (UInt32 × Share) :=
  let index := partitionPoint s.shares fun share => share.bound ≤ bucket
  s.shares[index]?.map (s.low index, ·)

variable {s : Shares} {bucket low percent percent' : UInt32} {share : Share}

theorem range?_bounds (h : s.range? bucket = some (low, share)) :
    low ≤ bucket ∧ bucket < share.bound := by
  obtain ⟨found, hfound, heq⟩ := Option.map_eq_some_iff.mp h
  obtain ⟨rfl, rfl⟩ := Prod.mk.inj heq
  refine ⟨?_, ?_⟩
  · cases hindex : partitionPoint s.shares fun share => decide (share.bound ≤ bucket) with
    | zero => exact UInt32.zero_le
    | succ before =>
        cases hbefore : s.shares[before]? with
        | none => simp [Shares.low, hbefore]
        | some previous =>
            have hbound := test_before_partitionPoint hindex hbefore
            simpa [Shares.low, hbefore] using hbound
  · have hbound := test_partitionPoint hfound
    simpa using hbound

theorem variantId?_decideBucket (s : Shares) (bucket percent : UInt32) :
    (s.decideBucket bucket percent).variantId? =
      (s.range? bucket).bind fun (low, share) =>
        if admits bucket low share.bound percent then some share.variantId else none := by
  unfold decideBucket range?
  generalize partitionPoint s.shares _ = index
  by_cases hclosed : percent = 0
  · simp [hclosed, admits, Decision.variantId?]
  · cases hfound : s.shares[index]? with
    | none =>
        simp only [hclosed, hfound, if_false, Option.map_none, Option.bind_none]
        split <;> rfl
    | some share =>
        have hsome : s.isEmpty = false := by
          simp only [isEmpty, Array.isEmpty_eq_false_iff, ne_eq]
          intro hempty
          simp [hempty] at hfound
        simp only [hclosed, hsome, hfound, if_false, Option.map_some, Option.bind_some]
        cases admits bucket (s.low index) share.bound percent with
        | true => rfl
        | false => rfl

theorem decideBucket_mono (hle : percent ≤ percent') {variantId : Id}
    (h : (s.decideBucket bucket percent).variantId? = some variantId) :
    (s.decideBucket bucket percent').variantId? = some variantId := by
  rw [variantId?_decideBucket, Option.bind_eq_some_iff] at h ⊢
  obtain ⟨⟨low, share⟩, hrange, hadmitted⟩ := h
  obtain ⟨hlow, hhigh⟩ := range?_bounds hrange
  obtain ⟨hadmits, hvariant⟩ := Option.ite_none_right_eq_some.mp hadmitted
  refine ⟨(low, share), hrange, ?_⟩
  simp only [admits_mono hhigh hlow hle hadmits, if_true, hvariant]

end Shares

end FeatureFlags
