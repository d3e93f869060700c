import Mathlib
import FeatureFlags.Proofs.Flag.Preparation
import FeatureFlags.Proofs.Rollout.Layout

/-!
Going through distributions one after the other. The halving search finds the same as a walk
along the distributions that adds up their percentages: the one whose range holds the bucket.
-/

namespace FeatureFlags

namespace Distribution

def percents (ds : List Distribution) : Nat :=
  (ds.map fun d => d.percent.toNat).sum

/-- Whether a bucket is in the range of a distribution that `earlier` percent come before. -/
def Holds (d : Distribution) (earlier bucket : Nat) : Prop :=
  10 * earlier ≤ bucket ∧ bucket < 10 * (earlier + d.percent.toNat)

instance (d : Distribution) (earlier bucket : Nat) : Decidable (d.Holds earlier bucket) :=
  inferInstanceAs (Decidable (_ ∧ _))

/-- The first distribution whose range holds a bucket, with the percentage before it. -/
def scan (bucket earlier : Nat) : List Distribution → Option (Nat × Distribution)
  | [] => none
  | d :: ds =>
    if d.Holds earlier bucket then some (earlier, d)
    else scan bucket (earlier + d.percent.toNat) ds

section Scan

variable {ds : List Distribution} {d d' : Distribution} {bucket earlier before i j : Nat}

@[simp]
theorem percents_nil : percents [] = 0 := rfl

@[simp]
theorem percents_cons (d : Distribution) (ds : List Distribution) :
    percents (d :: ds) = d.percent.toNat + percents ds := by
  simp [percents]

@[simp]
theorem percents_append (ds ds' : List Distribution) :
    percents (ds ++ ds') = percents ds + percents ds' := by
  simp [percents]

theorem percents_of_perm {ds' : List Distribution} (h : ds.Perm ds') :
    percents ds = percents ds' :=
  (h.map _).sum_nat

theorem percent_le_percents (h : d ∈ ds) : d.percent.toNat ≤ percents ds :=
  List.le_sum_of_mem (List.mem_map_of_mem h)

theorem percents_take_succ (h : ds[i]? = some d) :
    percents (ds.take (i + 1)) = percents (ds.take i) + d.percent.toNat := by
  rw [List.take_add_one, h, percents_append, Option.toList_some, percents_cons, percents_nil,
    Nat.add_zero]

theorem percents_take_mono (h : i ≤ j) : percents (ds.take i) ≤ percents (ds.take j) := by
  obtain ⟨k, rfl⟩ := Nat.exists_eq_add_of_le h
  rw [List.take_add, percents_append]
  exact Nat.le_add_right _ _

theorem percents_take_le (ds : List Distribution) (i : Nat) :
    percents (ds.take i) ≤ percents ds := by
  conv_rhs => rw [← List.take_append_drop i ds, percents_append]
  exact Nat.le_add_right _ _

theorem Holds.percent_ne_zero (h : d.Holds earlier bucket) : d.percent ≠ 0 := by
  rintro hzero
  obtain ⟨hlow, hhigh⟩ := h
  rw [hzero, UInt32.toNat_zero] at hhigh
  omega

theorem scan_eq_some_iff : scan bucket earlier ds = some (before, d) ↔
    ∃ i, ds[i]? = some d ∧ before = earlier + percents (ds.take i) ∧ d.Holds before bucket := by
  induction ds generalizing earlier with
  | nil => simp [scan]
  | cons first rest ih =>
      rw [scan]
      constructor
      · intro h
        split at h
        · next hholds =>
            obtain ⟨rfl, rfl⟩ := Prod.mk.inj (Option.some.inj h)
            exact ⟨0, rfl, rfl, hholds⟩
        · obtain ⟨i, hi, rfl, hholds⟩ := ih.mp h
          refine ⟨i + 1, hi, ?_, hholds⟩
          rw [List.take_succ_cons, percents_cons, Nat.add_assoc]
      · rintro ⟨_ | i, hi, hbefore, hholds⟩
        · obtain rfl := Option.some.inj hi
          obtain rfl : before = earlier := hbefore
          exact if_pos hholds
        · rw [List.take_succ_cons, percents_cons, ← Nat.add_assoc] at hbefore
          -- the range of the first one ends before the bucket
          have hpast : ¬ first.Holds earlier bucket := by
            rintro ⟨-, hhigh⟩
            have hlow := hholds.1
            omega
          rw [if_neg hpast]
          exact ih.mpr ⟨i, hi, hbefore, hholds⟩

theorem scan_eq_none_iff (hstart : 10 * earlier ≤ bucket) :
    scan bucket earlier ds = none ↔ 10 * (earlier + percents ds) ≤ bucket := by
  induction ds generalizing earlier with
  | nil => simp [scan, hstart]
  | cons first rest ih =>
      rw [scan, percents_cons, ← Nat.add_assoc]
      by_cases hend : 10 * (earlier + first.percent.toNat) ≤ bucket
      · rw [if_neg fun hholds => Nat.not_lt.mpr hend hholds.2]
        exact ih hend
      · rw [if_pos ⟨hstart, Nat.not_le.mp hend⟩]
        simp only [reduceCtorEq, false_iff]
        omega

theorem Holds.le_of_holds (hi : ds[i]? = some d) (h : d.Holds (percents (ds.take i)) bucket)
    (h' : d'.Holds (percents (ds.take j)) bucket) : j ≤ i := by
  by_contra hlt
  have hnext := percents_take_succ hi
  have hmono : percents (ds.take (i + 1)) ≤ percents (ds.take j) :=
    percents_take_mono (Nat.not_le.mp hlt)
  have hhigh := h.2
  have hlow := h'.1
  omega

/-- Ranges do not overlap: a bucket is in that of one distribution only. -/
theorem Holds.place_unique (hi : ds[i]? = some d) (hj : ds[j]? = some d')
    (h : d.Holds (percents (ds.take i)) bucket) (h' : d'.Holds (percents (ds.take j)) bucket) :
    i = j :=
  Nat.le_antisymm (Holds.le_of_holds hj h' h) (Holds.le_of_holds hi h h')

end Scan

/-- The decision on a bucket that the walk leads to. -/
def decideBucket (ds : List Distribution) (bucket percent : UInt32) : Rollout.Decision :=
  match scan bucket.toNat 0 ds with
  | some (before, d) =>
    let low : UInt32 := .ofNat (10 * before)
    let high : UInt32 := .ofNat (10 * (before + d.percent.toNat))
    if Rollout.admits bucket low high percent then .admitted bucket low high d.variantId percent
    else .excluded bucket low high d.variantId percent
  | none => if ds.isEmpty then .noShares else .outside bucket (.ofNat (10 * percents ds))

end Distribution

namespace Shares

open Rollout FeatureFlags.Distribution

/-- The shares of distributions that `earlier` percent come before. -/
def lay (earlier : Nat) : List Distribution → List Share
  | [] => []
  | d :: ds =>
    ⟨d.variantId, .ofNat (10 * (earlier + d.percent.toNat))⟩ :: lay (earlier + d.percent.toNat) ds

section Layout

variable {ds : List Distribution} {d : Distribution} {shares : List Share} {earlier i : Nat}
  {bucket percent : UInt32}

theorem bound_eq (earlier : Nat) (percent : UInt32) :
    .ofNat (10 * earlier) + percent * bucketsPerPercent =
      UInt32.ofNat (10 * (earlier + percent.toNat)) := by
  rw [Nat.mul_add, UInt32.ofNat_add, UInt32.ofNat_mul 10 percent.toNat, UInt32.ofNat_toNat,
    UInt32.mul_comm percent]
  rfl

theorem toNat_bound (h : earlier ≤ 200) : (UInt32.ofNat (10 * earlier)).toNat = 10 * earlier := by
  have hsize : UInt32.size = 4294967296 := rfl
  exact UInt32.toNat_ofNat_of_lt (by omega)

theorem bound_le_buckets_iff (h : earlier ≤ 200) :
    UInt32.ofNat (10 * earlier) ≤ buckets ↔ earlier ≤ 100 := by
  have hbuckets : buckets.toNat = 10 * 100 := rfl
  rw [UInt32.le_iff_toNat_le, toNat_bound h, hbuckets]
  omega

theorem layOut_eq_ok_iff (hearlier : earlier ≤ 100) :
    layOut (.ofNat (10 * earlier)) ds = .ok shares ↔
      earlier + percents ds ≤ 100 ∧ shares = lay earlier ds := by
  induction ds generalizing earlier shares with
  | nil => simp [layOut, lay, hearlier, eq_comm]
  | cons d rest ih =>
      rw [layOut_cons_eq_ok_iff, bound_eq, lay, percents_cons, ← Nat.add_assoc]
      have hpercent : d.percent ≤ 100 ↔ d.percent.toNat ≤ 100 := UInt32.le_iff_toNat_le
      rw [hpercent]
      constructor
      · rintro ⟨hle, hbound, others, hrest, rfl⟩
        have hsum := (bound_le_buckets_iff (by omega)).mp hbound
        obtain ⟨hall, rfl⟩ := (ih hsum).mp hrest
        exact ⟨hall, rfl⟩
      · rintro ⟨hall, rfl⟩
        have hsum : earlier + d.percent.toNat ≤ 100 := by omega
        refine ⟨by omega, (bound_le_buckets_iff (by omega)).mpr hsum, _, ?_, rfl⟩
        exact (ih hsum).mpr ⟨hall, rfl⟩

theorem getElem?_lay (ds : List Distribution) (earlier i : Nat) : (lay earlier ds)[i]? =
    ds[i]?.map fun d => ⟨d.variantId, .ofNat (10 * (earlier + percents (ds.take (i + 1))))⟩ := by
  induction ds generalizing earlier i with
  | nil => rfl
  | cons d rest ih =>
      cases i with
      | zero => simp [lay]
      | succ i => simp [lay, ih, Nat.add_assoc]

theorem low_lay (h : i ≤ ds.length) :
    low ⟨(lay 0 ds).toArray⟩ i = .ofNat (10 * percents (ds.take i)) := by
  cases i with
  | zero => rfl
  | succ i => simp [low, getElem?_lay, List.getElem?_eq_getElem h]

theorem length_lay (ds : List Distribution) (earlier : Nat) :
    (lay earlier ds).length = ds.length := by
  induction ds generalizing earlier with
  | nil => rfl
  | cons d rest ih => simp [lay, ih]

theorem total_lay (ds : List Distribution) :
    total ⟨(lay 0 ds).toArray⟩ = .ofNat (10 * percents ds) := by
  rw [total, List.back?_toArray, List.getLast?_eq_getElem?, getElem?_lay, length_lay]
  cases ds with
  | nil => rfl
  | cons d rest => simp

theorem total_le_of_range?_eq_none {s : Shares} (h : s.range? bucket = none) :
    s.total ≤ bucket := by
  rw [range?, Option.map_eq_none_iff, Array.getElem?_eq_none_iff] at h
  have hend := Nat.le_antisymm (partitionPoint_le s.shares _) h
  rw [total]
  cases hlast : s.shares.back? with
  | none => exact UInt32.zero_le
  | some share =>
      rw [Array.back?_eq_getElem?] at hlast
      obtain ⟨hsize, -⟩ := Array.getElem?_eq_some_iff.mp hlast
      have hsucc : s.shares.size = s.shares.size - 1 + 1 := by omega
      simpa using test_before_partitionPoint (hend.trans hsucc) hlast

/-- The halving search ends at the distribution that the walk finds. -/
theorem range?_lay (hsum : percents ds ≤ 100) (bucket : UInt32) :
    range? ⟨(lay 0 ds).toArray⟩ bucket = (scan bucket.toNat 0 ds).map fun (before, d) =>
      (.ofNat (10 * before), ⟨d.variantId, .ofNat (10 * (before + d.percent.toNat))⟩) := by
  have htoNat : ∀ i, (UInt32.ofNat (10 * percents (ds.take i))).toNat = 10 * percents (ds.take i) :=
    fun i => toNat_bound (by have := percents_take_le ds i; omega)
  rcases hrange : range? ⟨(lay 0 ds).toArray⟩ bucket with _ | ⟨low, share⟩
  · have hend := total_le_of_range?_eq_none hrange
    rw [total_lay, UInt32.le_iff_toNat_le, toNat_bound (by omega)] at hend
    have hmissed : scan bucket.toNat 0 ds = none := by
      rwa [scan_eq_none_iff (Nat.zero_le _), Nat.zero_add]
    rw [hmissed, Option.map_none]
  · obtain ⟨hlow, hhigh⟩ := range?_bounds hrange
    obtain ⟨found, hfound, heq⟩ := Option.map_eq_some_iff.mp hrange
    obtain ⟨rfl, rfl⟩ := Prod.mk.inj heq
    rw [List.getElem?_toArray, getElem?_lay] at hfound
    generalize partitionPoint _ _ = i at hfound hlow hhigh
    obtain ⟨d, hd, rfl⟩ := Option.map_eq_some_iff.mp hfound
    obtain ⟨hi, -⟩ := List.getElem?_eq_some_iff.mp hd
    rw [low_lay (Nat.le_of_lt hi), UInt32.le_iff_toNat_le, htoNat] at hlow
    rw [Nat.zero_add, UInt32.lt_iff_toNat_lt, htoNat, percents_take_succ hd] at hhigh
    have hfound : scan bucket.toNat 0 ds = some (percents (ds.take i), d) :=
      scan_eq_some_iff.mpr ⟨i, hd, (Nat.zero_add _).symm, hlow, hhigh⟩
    rw [hfound, Option.map_some, low_lay (Nat.le_of_lt hi), percents_take_succ hd, Nat.zero_add]

theorem decideBucket_eq (s : Shares) (bucket : UInt32) (hopen : percent ≠ 0) :
    s.decideBucket bucket percent =
      match s.range? bucket with
      | some (low, share) =>
        if admits bucket low share.bound percent then
          .admitted bucket low share.bound share.variantId percent
        else .excluded bucket low share.bound share.variantId percent
      | none => if s.isEmpty then .noShares else .outside bucket s.total := by
  rw [decideBucket, if_neg hopen, range?]
  cases hempty : s.isEmpty with
  | true =>
      have hshares : s.shares = #[] := Array.isEmpty_iff.mp hempty
      simp [hshares]
  | false =>
      dsimp only
      cases s.shares[partitionPoint s.shares fun share => decide (share.bound ≤ bucket)]? <;> rfl

theorem decideBucket_lay (hsum : percents ds ≤ 100) (bucket : UInt32) (hopen : percent ≠ 0) :
    decideBucket ⟨(lay 0 ds).toArray⟩ bucket percent =
      Distribution.decideBucket ds bucket percent := by
  rw [decideBucket_eq _ _ hopen, range?_lay hsum, Distribution.decideBucket, total_lay]
  cases scan bucket.toNat 0 ds with
  | none => cases ds <;> rfl
  | some found => rfl

end Layout

/-- What becomes of a bucket at a rollout percentage, when `ordered` are the distributions in the
order of their variants. -/
structure Scanned (s : Shares) (ordered : List Distribution) (bucket percent : UInt32) : Prop where
  decision : s.decideBucket bucket percent = Distribution.decideBucket ordered bucket percent
  /-- The candidate is the distribution whose range holds the bucket, and there is only one. -/
  candidate : ∀ before d, scan bucket.toNat 0 ordered = some (before, d) ↔
    ∃ i, ordered[i]? = some d ∧ before = percents (ordered.take i) ∧ d.Holds before bucket.toNat
  one : ∀ (i j : Nat) (d d' : Distribution), ordered[i]? = some d → ordered[j]? = some d' →
    d.Holds (percents (ordered.take i)) bucket.toNat →
    d'.Holds (percents (ordered.take j)) bucket.toNat → i = j
  outside : scan bucket.toNat 0 ordered = none ↔
    ordered = [] ∨ 10 * percents ordered ≤ bucket.toNat
  part : ∀ before d, scan bucket.toNat 0 ordered = some (before, d) → d.percent ≠ 0
  /-- Whatever is compared with the rollout percentage, the bucket is in its range. -/
  bounds : ∀ b low high variantId p,
    s.decideBucket bucket percent = .admitted b low high variantId p ∨
      s.decideBucket bucket percent = .excluded b low high variantId p →
    b = bucket ∧ p = percent ∧ low ≤ bucket ∧ bucket < high
  admitted : ∀ variantId, (s.decideBucket bucket percent).variantId? = some variantId ↔
    ∃ before d, scan bucket.toNat 0 ordered = some (before, d) ∧ d.variantId = variantId ∧
      admits bucket (.ofNat (10 * before)) (.ofNat (10 * (before + d.percent.toNat))) percent

section Walk

variable {ds : List Distribution} {s : Shares} {bucket percent : UInt32}

theorem ofDistributions_eq_ok_iff : ofDistributions ds = .ok s ↔
    percents ds ≤ 100 ∧ s = ⟨(lay 0 (sorted ds)).toArray⟩ := by
  have hperm : percents (sorted ds) = percents ds := percents_of_perm (List.mergeSort_perm ds _)
  have hlay : ∀ shares, layOut 0 (sorted ds) = .ok shares ↔
      percents ds ≤ 100 ∧ shares = lay 0 (sorted ds) := by
    intro shares
    rw [← hperm, ← Nat.zero_add (percents (sorted ds))]
    exact layOut_eq_ok_iff (Nat.zero_le 100)
  constructor
  · intro h
    obtain ⟨shares, hshares, rfl⟩ := exists_layOut_of_ofDistributions h
    obtain ⟨hsum, rfl⟩ := (hlay shares).mp hshares
    exact ⟨hsum, rfl⟩
  · rintro ⟨hsum, rfl⟩
    rw [ofDistributions, (hlay _).mpr ⟨hsum, rfl⟩]

theorem bounds_decideBucket (hopen : percent ≠ 0) {b low high p : UInt32} {variantId : Id}
    (h : s.decideBucket bucket percent = .admitted b low high variantId p ∨
      s.decideBucket bucket percent = .excluded b low high variantId p) :
    b = bucket ∧ p = percent ∧ low ≤ bucket ∧ bucket < high := by
  rw [decideBucket_eq s bucket hopen] at h
  rcases hrange : s.range? bucket with _ | ⟨low', share⟩ <;> rw [hrange] at h <;> dsimp only at h
  · split at h <;> simp at h
  · obtain ⟨hlow, hhigh⟩ := range?_bounds hrange
    split at h
    · rcases h with h | h <;> cases h
      exact ⟨rfl, rfl, hlow, hhigh⟩
    · rcases h with h | h <;> cases h
      exact ⟨rfl, rfl, hlow, hhigh⟩

theorem variantId?_lay (hsum : percents ds ≤ 100) (bucket percent : UInt32) {variantId : Id} :
    (Shares.decideBucket ⟨(lay 0 ds).toArray⟩ bucket percent).variantId? = some variantId ↔
      ∃ before d, scan bucket.toNat 0 ds = some (before, d) ∧ d.variantId = variantId ∧
        admits bucket (.ofNat (10 * before)) (.ofNat (10 * (before + d.percent.toNat)))
          percent := by
  rw [variantId?_decideBucket, range?_lay hsum]
  cases scan bucket.toNat 0 ds with
  | none => simp
  | some found =>
      obtain ⟨before, d⟩ := found
      rw [Option.map_some, Option.bind_some, Option.ite_none_right_eq_some, Option.some.injEq,
        and_comm]
      constructor
      · intro h
        exact ⟨before, d, rfl, h⟩
      · rintro ⟨_, _, hfound, h⟩
        cases hfound
        exact h

theorem scanned_lay (hsum : percents ds ≤ 100) (hopen : percent ≠ 0) (bucket : UInt32) :
    Scanned ⟨(lay 0 ds).toArray⟩ ds bucket percent := by
  refine
    { decision := decideBucket_lay hsum bucket hopen
      candidate := ?_
      one := fun i j d d' hi hj => Holds.place_unique hi hj
      outside := ?_
      part := ?_
      bounds := fun b low high variantId p => bounds_decideBucket hopen
      admitted := fun variantId => variantId?_lay hsum bucket percent }
  · intro before d
    simp only [scan_eq_some_iff, Nat.zero_add]
  · rw [scan_eq_none_iff (Nat.zero_le _), Nat.zero_add, or_iff_right_of_imp]
    rintro rfl
    exact Nat.zero_le _
  · intro before d hscan
    obtain ⟨i, -, -, hholds⟩ := scan_eq_some_iff.mp hscan
    exact hholds.percent_ne_zero

theorem bucketOf_lt (entityId salt : String) : bucketOf entityId salt < buckets :=
  UInt32.mod_lt _ (by decide)

theorem admits_of_full (hfull : 100 ≤ percent) (bucket low high : UInt32) :
    admits bucket low high percent = true := by
  have hopen : percent ≠ 0 := by
    rintro rfl
    exact absurd hfull (by decide)
  rw [admits, if_neg hopen, if_pos hfull]

theorem exists_variantId?_of_full (hshares : ofDistributions ds = .ok s) (hall : percents ds = 100)
    (hfull : 100 ≤ percent) {entityId : String} (hentity : entityId ≠ "") (salt : String) :
    ∃ variantId, (s.decideEntity entityId salt percent).variantId? = some variantId := by
  obtain ⟨hsum, rfl⟩ := ofDistributions_eq_ok_iff.mp hshares
  have hperm : percents (sorted ds) = percents ds := percents_of_perm (List.mergeSort_perm ds _)
  have hbucket : (bucketOf entityId salt).toNat < 10 * 100 :=
    UInt32.lt_iff_toNat_lt.mp (bucketOf_lt entityId salt)
  have hfound : scan (bucketOf entityId salt).toNat 0 (sorted ds) ≠ none := by
    rw [ne_eq, scan_eq_none_iff (Nat.zero_le _), Nat.zero_add, hperm, hall]
    exact Nat.not_le.mpr hbucket
  obtain ⟨⟨before, d⟩, hscan⟩ := Option.ne_none_iff_exists'.mp hfound
  refine ⟨d.variantId, ?_⟩
  rw [decideEntity, if_neg (by simpa using hentity)]
  rw [← hperm] at hsum
  exact (variantId?_lay hsum _ _).mpr ⟨before, d, hscan, rfl, admits_of_full hfull _ _ _⟩

/-- The halving search decides on every bucket what a walk along the distributions in the order of
their variants decides. -/
theorem scanned_of_ofDistributions (hshares : ofDistributions ds = .ok s) :
    (sorted ds).Perm ds ∧ ((sorted ds).Pairwise fun a b => a.variantId ≤ b.variantId) ∧
    (∀ bucket percent, percent ≠ 0 → s.Scanned (sorted ds) bucket percent) ∧
    (percents ds = 100 → ∀ percent, 100 ≤ percent → ∀ entityId salt, entityId ≠ "" →
      ∃ variantId, (s.decideEntity entityId salt percent).variantId? = some variantId) := by
  have hperm : (sorted ds).Perm ds := List.mergeSort_perm ds _
  refine ⟨hperm, ?_, ?_, ?_⟩
  · exact (sorted_pairwise ds).imp of_decide_eq_true
  · obtain ⟨hsum, rfl⟩ := ofDistributions_eq_ok_iff.mp hshares
    rw [← percents_of_perm hperm] at hsum
    exact fun bucket percent hopen => scanned_lay hsum hopen bucket
  · exact fun hall percent hfull entityId salt hentity =>
      exists_variantId?_of_full hshares hall hfull hentity salt

/-- Three variants, not in their order, of which one has no part of the buckets. -/
def unequal : List Distribution :=
  [⟨1, 10, 7, "most", 66⟩, ⟨2, 10, 5, "gone", 0⟩, ⟨3, 10, 3, "some", 34⟩]

theorem ofDistributions_unequal :
    ofDistributions unequal = .ok ⟨#[⟨3, 340⟩, ⟨5, 340⟩, ⟨7, 1000⟩]⟩ := by cbv

theorem scanned_of_unequal : ∃ s, ofDistributions unequal = .ok s ∧
    s.Scanned (sorted unequal) 340 50 ∧ (s.decideBucket 340 50).variantId? = some 7 ∧
    ∃ variantId, (s.decideEntity "ann" "1" 100).variantId? = some variantId := by
  obtain ⟨-, -, hscanned, hfull⟩ := scanned_of_ofDistributions ofDistributions_unequal
  refine ⟨_, ofDistributions_unequal, hscanned 340 50 (by decide), by cbv, ?_⟩
  exact hfull rfl 100 (by decide) "ann" "1" (by decide)

end Walk

end Shares

end FeatureFlags
