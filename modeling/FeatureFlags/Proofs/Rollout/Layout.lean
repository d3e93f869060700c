import FeatureFlags.Proofs.Rollout.Ranges

namespace FeatureFlags.Shares

open Rollout

variable {ds : List Distribution} {d : Distribution} {total bucket percent : UInt32}
  {shares : List Share} {share : Share} {s : Shares} {variantId : Id}

theorem layOut_cons_eq_ok_iff :
    layOut total (d :: ds) = .ok shares ↔
      d.percent ≤ 100 ∧ total + d.percent * bucketsPerPercent ≤ buckets ∧
        ∃ rest, layOut (total + d.percent * bucketsPerPercent) ds = .ok rest ∧
          shares = ⟨d.variantId, total + d.percent * bucketsPerPercent⟩ :: rest := by
  rw [layOut]
  by_cases hpercent : 100 < d.percent
  · simp [hpercent, UInt32.not_le.mpr hpercent]
  by_cases hbound : buckets < total + d.percent * bucketsPerPercent
  · simp [hpercent, hbound, UInt32.not_le.mpr hbound]
  simp only [hpercent, hbound, if_false, UInt32.not_lt.mp hpercent, UInt32.not_lt.mp hbound,
    true_and]
  cases layOut (total + d.percent * bucketsPerPercent) ds with
  | error e => simp
  | ok rest => simp [eq_comm]

theorem exists_distribution_of_layOut (h : layOut total ds = .ok shares) {i : Nat}
    (hi : shares[i]? = some share) :
    ∃ d low, ds[i]? = some d ∧ (total :: shares.map Share.bound)[i]? = some low ∧
      share = ⟨d.variantId, low + d.percent * bucketsPerPercent⟩ := by
  induction ds generalizing total shares i with
  | nil =>
      cases h
      cases hi
  | cons d rest ih =>
      obtain ⟨-, -, others, hrest, rfl⟩ := layOut_cons_eq_ok_iff.mp h
      cases i with
      | zero =>
          obtain rfl := Option.some.inj hi
          exact ⟨d, total, rfl, rfl, rfl⟩
      | succ before =>
          obtain ⟨d', low, hd', hlow, hshare⟩ := ih hrest hi
          exact ⟨d', low, hd', hlow, hshare⟩

theorem low_eq (shares : List Share) (index : Nat) :
    low ⟨shares.toArray⟩ index = ((0 :: shares.map Share.bound)[index]?).getD 0 := by
  cases index with
  | zero => rfl
  | succ before => simp [low]

theorem exists_layOut_of_ofDistributions (h : ofDistributions ds = .ok s) :
    ∃ shares, layOut 0 (Distribution.sorted ds) = .ok shares ∧ s = ⟨shares.toArray⟩ := by
  rw [ofDistributions] at h
  cases hlayOut : layOut 0 (Distribution.sorted ds) with
  | error e => simp [hlayOut] at h
  | ok shares => exact ⟨shares, rfl, by simpa [hlayOut, eq_comm] using h⟩

theorem exists_distribution_of_range? (hshares : ofDistributions ds = .ok s) {low : UInt32}
    (hrange : s.range? bucket = some (low, share)) :
    ∃ d ∈ ds, d.variantId = share.variantId ∧ d.percent ≠ 0 := by
  obtain ⟨shares, hlayOut, rfl⟩ := exists_layOut_of_ofDistributions hshares
  obtain ⟨hlow, hhigh⟩ := range?_bounds hrange
  obtain ⟨found, hfound, heq⟩ := Option.map_eq_some_iff.mp hrange
  obtain ⟨rfl, rfl⟩ := Prod.mk.inj heq
  rw [List.getElem?_toArray] at hfound
  obtain ⟨d, start, hd, hstart, rfl⟩ := exists_distribution_of_layOut hlayOut hfound
  rw [low_eq, hstart, Option.getD_some] at hlow
  refine ⟨d, List.mem_mergeSort.mp (List.mem_of_getElem? hd), rfl, fun hzero => ?_⟩
  -- without a part the range would be empty, but it holds the bucket
  rw [hzero, UInt32.zero_mul, UInt32.add_zero] at hhigh
  exact UInt32.not_lt.mpr hlow hhigh

theorem exists_distribution_of_decideBucket (hshares : ofDistributions ds = .ok s)
    (h : (s.decideBucket bucket percent).variantId? = some variantId) :
    percent ≠ 0 ∧ ∃ d ∈ ds, d.variantId = variantId ∧ d.percent ≠ 0 := by
  rw [variantId?_decideBucket, Option.bind_eq_some_iff] at h
  obtain ⟨⟨low, share⟩, hrange, hadmitted⟩ := h
  obtain ⟨hadmits, hvariant⟩ := Option.ite_none_right_eq_some.mp hadmitted
  have hopen : percent ≠ 0 := by
    rintro rfl
    simp [admits] at hadmits
  obtain ⟨d, hd, hnamed, hpart⟩ := exists_distribution_of_range? hshares hrange
  exact ⟨hopen, d, hd, hnamed.trans (Option.some.inj hvariant), hpart⟩

end FeatureFlags.Shares
