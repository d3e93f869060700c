import FeatureFlags.Proofs.Rollout.Scan
import FeatureFlags.Proofs.Sorting

namespace FeatureFlags

namespace Rollout

/-- A product, none if it does not fit 32 bits. -/
def mul? (a b : UInt32) : Option UInt32 :=
  if a.toNat * b.toNat < UInt32.size then some (a * b) else none

/-- A sum, none if it does not fit 32 bits. -/
def add? (a b : UInt32) : Option UInt32 :=
  if a.toNat + b.toNat < UInt32.size then some (a + b) else none

end Rollout

namespace Distribution

open Rollout

def InRange (d : Distribution) : Prop :=
  d.percent ≤ 100

instance (d : Distribution) : Decidable d.InRange :=
  inferInstanceAs (Decidable (_ ≤ _))

/-- What is wrong with distributions that `earlier` percent come before: the first that is out of
range, unless those in front of it add up to too much. -/
def fault? (earlier : Nat) (ds : List Distribution) : Option Rollout.Error :=
  if 100 < earlier + percents (ds.takeWhile fun d => d.InRange) then some .totalOutOfRange
  else (ds.find? fun d => ¬ d.InRange).map fun d => .percentOutOfRange d.variantId d.percent

variable {d : Distribution} {ds : List Distribution} {earlier : Nat}

theorem inRange_iff : d.InRange ↔ d.percent.toNat ≤ 100 :=
  UInt32.le_iff_toNat_le

theorem not_inRange_iff : ¬ d.InRange ↔ 100 < d.percent :=
  UInt32.not_le

theorem fault?_cons_of_inRange (h : d.InRange) :
    fault? earlier (d :: ds) = fault? (earlier + d.percent.toNat) ds := by
  simp [fault?, h, Nat.add_assoc]

theorem fault?_cons_of_not_inRange (h : ¬ d.InRange) (hearlier : earlier ≤ 100) :
    fault? earlier (d :: ds) = some (.percentOutOfRange d.variantId d.percent) := by
  simp [fault?, h, hearlier]

theorem fault?_of_lt (h : 100 < earlier) : fault? earlier ds = some .totalOutOfRange :=
  if_pos (Nat.lt_add_right _ h)

end Distribution

namespace Shares

open Rollout FeatureFlags.Distribution

/-- Laying out distributions in arithmetic that stops at the first number that does not fit. -/
def layOut? (total : UInt32) : List Distribution → Option (Except Rollout.Error (List Share))
  | [] => some (.ok [])
  | d :: ds =>
    if 100 < d.percent then some (.error (.percentOutOfRange d.variantId d.percent))
    else do
      let part ← mul? d.percent bucketsPerPercent
      let bound ← add? total part
      if buckets < bound then some (.error .totalOutOfRange)
      else
        let laid ← layOut? bound ds
        some (laid.map (⟨d.variantId, bound⟩ :: ·))

def variantIds (s : Shares) : List Id :=
  s.shares.toList.map Share.variantId

def bounds (s : Shares) : List UInt32 :=
  s.shares.toList.map Share.bound

/-- The ranges are those of distributions, in the order of their variants. -/
structure SharesOut (s : Shares) (ds : List Distribution) : Prop where
  perm : s.variantIds.Perm (ds.map Distribution.variantId)
  ascending : s.variantIds.Pairwise (· ≤ ·)
  length : s.bounds.length = ds.length
  nondecreasing : s.bounds.Pairwise (· ≤ ·)
  bounded : ∀ bound ∈ s.bounds, bound ≤ 1000
  exact : ∀ i bound, s.bounds[i]? = some bound →
    bound.toNat = 10 * percents ((sorted ds).take (i + 1))

variable {d : Distribution} {ds : List Distribution} {total : UInt32} {earlier : Nat} {s : Shares}
  {e : Rollout.Error}

theorem mul?_bucketsPerPercent (h : d.InRange) :
    mul? d.percent bucketsPerPercent = some (d.percent * bucketsPerPercent) := by
  have hten : bucketsPerPercent.toNat = 10 := rfl
  have hsize : UInt32.size = 4294967296 := rfl
  rw [inRange_iff] at h
  rw [mul?, hten, if_pos (by omega)]

theorem add?_part (htotal : total ≤ buckets) (h : d.InRange) :
    add? total (d.percent * bucketsPerPercent) =
      some (total + d.percent * bucketsPerPercent) := by
  have hbuckets : buckets.toNat = 1000 := rfl
  have hten : bucketsPerPercent.toNat = 10 := rfl
  have hsize : UInt32.size = 4294967296 := rfl
  rw [inRange_iff] at h
  rw [UInt32.le_iff_toNat_le] at htotal
  have hpart : (d.percent * bucketsPerPercent).toNat = d.percent.toNat * 10 := by
    rw [UInt32.toNat_mul, hten]
    omega
  rw [add?, if_pos (by omega)]

theorem layOut_cons_of_inRange (h : d.InRange) :
    layOut total (d :: ds) =
      if buckets < total + d.percent * bucketsPerPercent then .error .totalOutOfRange
      else (layOut (total + d.percent * bucketsPerPercent) ds).map
        (⟨d.variantId, total + d.percent * bucketsPerPercent⟩ :: ·) := by
  rw [layOut, if_neg (UInt32.not_lt.mpr h)]
  dsimp only
  split
  · rfl
  · cases layOut (total + d.percent * bucketsPerPercent) ds <;> rfl

theorem layOut_cons_of_not_inRange (h : ¬ d.InRange) :
    layOut total (d :: ds) = .error (.percentOutOfRange d.variantId d.percent) := by
  rw [layOut, if_pos (not_inRange_iff.mp h)]

/-- The walk keeps its total at no more than all buckets, so nothing that it computes outgrows
32 bits. -/
theorem layOut?_eq (htotal : total ≤ buckets) : layOut? total ds = some (layOut total ds) := by
  induction ds generalizing total with
  | nil => rfl
  | cons d rest ih =>
      rw [layOut?]
      by_cases hrange : d.InRange
      · rw [layOut_cons_of_inRange hrange, if_neg (UInt32.not_lt.mpr hrange),
          mul?_bucketsPerPercent hrange]
        simp only [Option.bind_eq_bind, Option.bind_some, add?_part htotal hrange]
        split
        · rfl
        · next hbound => rw [ih (UInt32.not_lt.mp hbound), Option.bind_some]
      · rw [layOut_cons_of_not_inRange hrange, if_pos (not_inRange_iff.mp hrange)]

theorem layOut_eq_error_iff (hearlier : earlier ≤ 100) :
    layOut (.ofNat (10 * earlier)) ds = .error e ↔ fault? earlier ds = some e := by
  induction ds generalizing earlier with
  | nil => simp [layOut, fault?, hearlier]
  | cons d rest ih =>
      by_cases hrange : d.InRange
      · rw [layOut_cons_of_inRange hrange, fault?_cons_of_inRange hrange, bound_eq]
        rw [inRange_iff] at hrange
        have hfits : buckets < .ofNat (10 * (earlier + d.percent.toNat)) ↔
            100 < earlier + d.percent.toNat := by
          rw [← UInt32.not_le, bound_le_buckets_iff (by omega), Nat.not_le]
        by_cases hsum : 100 < earlier + d.percent.toNat
        · rw [if_pos (hfits.mpr hsum), fault?_of_lt hsum, Except.error.injEq, Option.some.injEq]
        · rw [if_neg (mt hfits.mp hsum), ← ih (Nat.not_lt.mp hsum)]
          cases layOut (.ofNat (10 * (earlier + d.percent.toNat))) rest <;> simp [Except.map]
      · rw [layOut_cons_of_not_inRange hrange, fault?_cons_of_not_inRange hrange hearlier,
          Except.error.injEq, Option.some.injEq]

theorem ofDistributions_eq_error_iff :
    ofDistributions ds = .error e ↔ fault? 0 (sorted ds) = some e := by
  rw [← layOut_eq_error_iff (Nat.zero_le 100), ofDistributions]
  cases layOut 0 (sorted ds) <;> simp

theorem map_variantId_lay (ds : List Distribution) (earlier : Nat) :
    (lay earlier ds).map Share.variantId = ds.map Distribution.variantId := by
  induction ds generalizing earlier with
  | nil => rfl
  | cons d rest ih => rw [lay, List.map_cons, List.map_cons, ih]

theorem sharesOut_of_ofDistributions (h : ofDistributions ds = .ok s) : s.SharesOut ds := by
  obtain ⟨hsum, rfl⟩ := ofDistributions_eq_ok_iff.mp h
  have hperm : (sorted ds).Perm ds := List.mergeSort_perm ds _
  have hids : variantIds ⟨(lay 0 (sorted ds)).toArray⟩ =
      (sorted ds).map Distribution.variantId := map_variantId_lay _ _
  rw [← percents_of_perm hperm] at hsum
  have hexact : ∀ i bound, (bounds ⟨(lay 0 (sorted ds)).toArray⟩)[i]? = some bound →
      bound.toNat = 10 * percents ((sorted ds).take (i + 1)) := by
    intro i bound hbound
    rw [bounds, List.getElem?_map, getElem?_lay, Option.map_map, Option.map_eq_some_iff] at hbound
    obtain ⟨d, -, rfl⟩ := hbound
    have hle := percents_take_le (sorted ds) (i + 1)
    rw [Function.comp_apply, Nat.zero_add, toNat_bound (by omega)]
  refine ⟨?_, ?_, ?_, ?_, ?_, hexact⟩
  · rw [hids]
    exact hperm.map _
  · rw [hids, List.pairwise_map]
    exact (sorted_pairwise ds).imp of_decide_eq_true
  · rw [bounds, List.length_map, length_lay, hperm.length_eq]
  · rw [List.pairwise_iff_getElem]
    intro i j hi hj hlt
    rw [UInt32.le_iff_toNat_le, hexact i _ (List.getElem?_eq_getElem hi),
      hexact j _ (List.getElem?_eq_getElem hj)]
    exact Nat.mul_le_mul_left 10 (percents_take_mono (by omega))
  · intro bound hbound
    obtain ⟨i, hi⟩ := List.mem_iff_getElem?.mp hbound
    have hle := percents_take_le (sorted ds) (i + 1)
    have hthousand : (1000 : UInt32).toNat = 1000 := rfl
    rw [UInt32.le_iff_toNat_le, hexact i bound hi]
    omega

theorem exists_ofDistributions_eq_ok_iff :
    (∃ s, ofDistributions ds = .ok s) ↔ (∀ d ∈ ds, d.percent ≤ 100) ∧ percents ds ≤ 100 := by
  simp only [ofDistributions_eq_ok_iff, exists_and_left, exists_eq, and_true]
  constructor
  · intro hsum
    refine ⟨fun d hd => ?_, hsum⟩
    exact inRange_iff.mpr (Nat.le_trans (percent_le_percents hd) hsum)
  · exact And.right

/-- Distributions are accepted just if no percentage is above 100, nor all of them together. Else
what is wrong with them in the order of their variants is told. Nothing on the way outgrows 32
bits, and what is accepted is shared out exactly. -/
theorem sharesOut_or_fault (ds : List Distribution) :
    layOut? 0 (sorted ds) = some (layOut 0 (sorted ds)) ∧
    StablySorted (fun a b => a.variantId ≤ b.variantId) ds (sorted ds) ∧
    ((∃ s, ofDistributions ds = .ok s) ↔ (∀ d ∈ ds, d.percent ≤ 100) ∧ percents ds ≤ 100) ∧
    (∀ e, ofDistributions ds = .error e ↔ fault? 0 (sorted ds) = some e) ∧
    ∀ s, ofDistributions ds = .ok s → s.SharesOut ds := by
  refine ⟨layOut?_eq (by decide), ?_, exists_ofDistributions_eq_ok_iff,
    fun e => ofDistributions_eq_error_iff, fun s => sharesOut_of_ofDistributions⟩
  exact stablySorted_mergeSort variantId_le_trans variantId_le_total ds

/-- Variant 9 is out of range, and ten times its percentage is no number of 32 bits. -/
def oversized (second : UInt32) : List Distribution :=
  [⟨1, 10, 9, "all", 4294967295⟩, ⟨2, 10, 5, "most", second⟩, ⟨3, 10, 3, "some", 34⟩]

theorem sharesOut_or_fault_of_oversized :
    (∃ s, ofDistributions unequal = .ok s ∧ s.SharesOut unequal ∧ s.bounds = [340, 340, 1000]) ∧
    ofDistributions (oversized 66) = .error (.percentOutOfRange 9 4294967295) ∧
    ofDistributions (oversized 67) = .error .totalOutOfRange := by
  obtain ⟨-, -, -, -, hshares⟩ := sharesOut_or_fault unequal
  obtain ⟨-, -, -, hroom, -⟩ := sharesOut_or_fault (oversized 66)
  obtain ⟨-, -, -, hfull, -⟩ := sharesOut_or_fault (oversized 67)
  refine ⟨⟨_, ofDistributions_unequal, hshares _ ofDistributions_unequal, rfl⟩, ?_, ?_⟩
  · exact (hroom _).mpr (by cbv)
  · exact (hfull _).mpr (by cbv)

end Shares

end FeatureFlags
