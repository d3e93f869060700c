import FeatureFlags.Proofs.Rollout.Scan

namespace FeatureFlags

namespace Rollout

/-- The buckets that a rollout percentage admits of a range of `part` percent of them. -/
def exposure (part percent : Nat) : Nat :=
  if percent = 0 ∨ part = 0 then 0
  else if 100 ≤ percent then 10 * part
  else (10 * part - 1) * percent / 100 + 1

/-- Whether a rollout percentage admits the bucket at a place in a range of `part` percent. -/
def admitsAt (offset part percent : Nat) : Bool :=
  percent ≠ 0 ∧ (100 ≤ percent ∨ 100 * offset ≤ (10 * part - 1) * percent)

section Admission

variable {offset part percent n m : Nat}

theorem admits_eq_admitsAt {bucket low high percent : UInt32}
    (hbucket : bucket.toNat = low.toNat + offset) (hhigh : high.toNat = low.toNat + 10 * part)
    (hpart : part ≠ 0) : admits bucket low high percent = admitsAt offset part percent.toNat := by
  have hopen : percent = 0 ↔ percent.toNat = 0 := UInt32.toNat_inj.symm
  have hfull : 100 ≤ percent ↔ 100 ≤ percent.toNat := UInt32.le_iff_toNat_le
  -- differences of bounds are whole numbers of buckets
  have hoffset : (bucket.toNat : Int) - low.toNat = (offset : Nat) := by omega
  have hwidth : (high.toNat : Int) - low.toNat - 1 = (10 * part - 1 : Nat) := by omega
  have hinside : 100 * (offset : Int) ≤ (10 * part - 1 : Nat) * (percent.toNat : Int) ↔
      100 * offset ≤ (10 * part - 1) * percent.toNat := by norm_cast
  rw [Bool.eq_iff_iff, admits, admitsAt]
  by_cases hclosed : percent.toNat = 0
  · simp [hopen, hclosed]
  · by_cases hall : 100 ≤ percent.toNat
    · simp [hopen, hfull, hclosed, hall]
    · simp only [hopen, hfull, hclosed, hall, if_false, hoffset, hwidth, hinside, decide_eq_true_eq,
        ne_eq, not_false_eq_true, true_and, false_or]

theorem countP_range_lt (h : m ≤ n) : (List.range n).countP (fun k => k < m) = m := by
  obtain ⟨rest, rfl⟩ := Nat.exists_eq_add_of_le h
  have hfirst : (List.range m).countP (fun k => k < m) = m := by
    rw [List.countP_eq_length.mpr (by simp), List.length_range]
  have hrest : (List.range rest).countP ((fun k => decide (k < m)) ∘ (m + ·)) = 0 := by
    rw [List.countP_eq_zero]
    simp
  rw [List.range_add, List.countP_append, List.countP_map, hfirst, hrest, Nat.add_zero]

theorem countP_admitsAt (part percent : Nat) :
    (List.range (10 * part)).countP (fun offset => admitsAt offset part percent) =
      exposure part percent := by
  rw [exposure]
  split
  · next hnone =>
      rw [List.countP_eq_zero]
      rcases hnone with rfl | rfl <;> simp [admitsAt]
  · next hsome =>
      rw [not_or] at hsome
      split
      · next hfull =>
          rw [List.countP_eq_length.mpr, List.length_range]
          simp [admitsAt, hsome.1, hfull]
      · next hpartial =>
          have hle : (10 * part - 1) * percent / 100 + 1 ≤ 10 * part := by
            have hmul : (10 * part - 1) * percent ≤ (10 * part - 1) * 99 :=
              Nat.mul_le_mul_left _ (by omega)
            omega
          rw [← countP_range_lt hle]
          refine List.countP_congr fun offset _ => ?_
          simp only [admitsAt, hsome.1, hpartial, ne_eq, not_false_eq_true, false_or, true_and,
            decide_eq_true_eq]
          omega

/-- Rounding gives or takes less than one bucket. -/
theorem exposure_near (part : Nat) (hpercent : percent ≤ 100) :
    (100 * (exposure part percent : Int) - 10 * part * percent).natAbs < 100 := by
  rw [exposure]
  split
  · next hnone => rcases hnone with rfl | rfl <;> simp
  · next hsome =>
      rw [not_or] at hsome
      split
      · next hfull =>
          obtain rfl : percent = 100 := by omega
          omega
      · next hpartial =>
          have hideal : 10 * part * percent = (10 * part - 1) * percent + percent := by
            rw [← Nat.succ_mul]
            congr
            omega
          have hideal :
              (10 * part * percent : Int) = ((10 * part - 1) * percent : Nat) + percent := by
            exact_mod_cast hideal
          rw [hideal]
          omega

end Admission

end Rollout

namespace Distribution

open Rollout

/-- The variant of a bucket at a rollout percentage, by a walk that `earlier` percent come
before. -/
def given? (percent bucket earlier : Nat) (ds : List Distribution) : Option Id :=
  (scan bucket earlier ds).bind fun (before, d) =>
    if admitsAt (bucket - 10 * before) d.percent.toNat percent then some d.variantId else none

/-- The buckets that a rollout percentage admits of the ranges of distributions. -/
def exposures (percent : Nat) (ds : List Distribution) : Nat :=
  (ds.map fun d => exposure d.percent.toNat percent).sum

variable {ds : List Distribution} {percent earlier n : Nat}

theorem given?_cons_of_lt {d : Distribution} {offset : Nat} (h : offset < 10 * d.percent.toNat) :
    given? percent (10 * earlier + offset) earlier (d :: ds) =
      if admitsAt offset d.percent.toNat percent then some d.variantId else none := by
  have hholds : d.Holds earlier (10 * earlier + offset) := ⟨by omega, by omega⟩
  rw [given?, scan, if_pos hholds, Option.bind_some]
  dsimp only
  rw [Nat.add_sub_cancel_left]

theorem given?_cons_add (d : Distribution) (offset : Nat) :
    given? percent (10 * earlier + (10 * d.percent.toNat + offset)) earlier (d :: ds) =
      given? percent (10 * (earlier + d.percent.toNat) + offset) (earlier + d.percent.toNat)
        ds := by
  have hpast : ¬ d.Holds earlier (10 * earlier + (10 * d.percent.toNat + offset)) := by
    rintro ⟨-, hhigh⟩
    omega
  rw [given?, scan, if_neg hpast, ← Nat.add_assoc, ← Nat.mul_add, given?]

theorem countP_given? (variantId : Id) (h : 10 * percents ds ≤ n) :
    (List.range n).countP (fun offset =>
        given? percent (10 * earlier + offset) earlier ds = some variantId) =
      exposures percent (ds.filter fun d => d.variantId = variantId) := by
  induction ds generalizing earlier n with
  | nil => simp [given?, scan, exposures]
  | cons d rest ih =>
      rw [percents_cons, Nat.mul_add] at h
      obtain ⟨m, rfl⟩ := Nat.exists_eq_add_of_le (Nat.le_of_add_right_le h)
      have hown : (List.range (10 * d.percent.toNat)).countP (fun offset =>
          given? percent (10 * earlier + offset) earlier (d :: rest) = some variantId) =
            if d.variantId = variantId then exposure d.percent.toNat percent else 0 := by
        rw [← countP_admitsAt]
        split
        · next hvariant =>
            refine List.countP_congr fun offset hoffset => ?_
            rw [given?_cons_of_lt (List.mem_range.mp hoffset), hvariant]
            simp
        · next hother =>
            rw [List.countP_eq_zero]
            intro offset hoffset
            rw [given?_cons_of_lt (List.mem_range.mp hoffset)]
            simp [hother]
      have hrest : (List.range m).countP ((fun offset => decide
          (given? percent (10 * earlier + offset) earlier (d :: rest) = some variantId)) ∘
            (10 * d.percent.toNat + ·)) =
          exposures percent (rest.filter fun d => d.variantId = variantId) := by
        have hlater : 10 * percents rest ≤ m := by omega
        simp only [Function.comp_def, given?_cons_add]
        exact ih hlater
      rw [List.range_add, List.countP_append, List.countP_map, hown, hrest, List.filter_cons]
      by_cases hvariant : d.variantId = variantId <;> simp [hvariant, exposures]

end Distribution

namespace Shares

open Rollout FeatureFlags.Distribution

variable {ds : List Distribution} {s : Shares}

theorem variantId?_lay_eq_given? (hsum : percents ds ≤ 100) (bucket percent : UInt32) :
    (Shares.decideBucket ⟨(lay 0 ds).toArray⟩ bucket percent).variantId? =
      given? percent.toNat bucket.toNat 0 ds := by
  rw [variantId?_decideBucket, range?_lay hsum, given?]
  cases hscan : scan bucket.toNat 0 ds with
  | none => rfl
  | some found =>
      obtain ⟨before, d⟩ := found
      obtain ⟨i, hi, hbefore, hholds⟩ := scan_eq_some_iff.mp hscan
      obtain ⟨hlow, hhigh⟩ := hholds
      have hpart : d.percent.toNat ≠ 0 := by omega
      have hend : before + d.percent.toNat ≤ 100 := by
        rw [hbefore, Nat.zero_add, ← percents_take_succ hi]
        exact Nat.le_trans (percents_take_le ds _) hsum
      have hadmits : admits bucket (.ofNat (10 * before))
          (.ofNat (10 * (before + d.percent.toNat))) percent =
            admitsAt (bucket.toNat - 10 * before) d.percent.toNat percent.toNat := by
        apply admits_eq_admitsAt _ _ hpart
        · rw [toNat_bound (by omega), Nat.add_sub_cancel' hlow]
        · rw [toNat_bound (by omega), toNat_bound (by omega), Nat.mul_add]
      simp only [Option.map_some, Option.bind_some, hadmits]

/-- Of all buckets, a variant gets as many as the percentage admits of its distributions. That is
the percentage of each, give or take less than one bucket. -/
theorem countP_decideBucket (hshares : ofDistributions ds = .ok s) (percent : UInt32)
    (variantId : Id) :
    (List.range buckets.toNat).countP (fun bucket =>
        (s.decideBucket (.ofNat bucket) percent).variantId? = some variantId) =
      exposures percent.toNat (ds.filter fun d => d.variantId = variantId) ∧
    (percent ≤ 100 → ∀ d ∈ ds, (100 * (exposure d.percent.toNat percent.toNat : Int) -
      10 * d.percent.toNat * percent.toNat).natAbs < 100) := by
  obtain ⟨hsum, rfl⟩ := ofDistributions_eq_ok_iff.mp hshares
  have hperm : (sorted ds).Perm ds := List.mergeSort_perm ds _
  constructor
  · rw [← percents_of_perm hperm] at hsum
    calc
      _ = (List.range buckets.toNat).countP (fun bucket =>
          given? percent.toNat (10 * 0 + bucket) 0 (sorted ds) = some variantId) := by
        refine List.countP_congr fun bucket hbucket => ?_
        have htoNat : (UInt32.ofNat bucket).toNat = bucket :=
          UInt32.toNat_ofNat_of_lt (Nat.lt_trans (List.mem_range.mp hbucket) (by decide))
        rw [variantId?_lay_eq_given? hsum, htoNat, Nat.mul_zero, Nat.zero_add]
      _ = exposures percent.toNat ((sorted ds).filter fun d => d.variantId = variantId) :=
        countP_given? variantId (Nat.mul_le_mul_left 10 hsum)
      _ = _ := ((hperm.filter _).map _).sum_nat
  · exact fun hpercent d _ => exposure_near _ (UInt32.le_iff_toNat_le.mp hpercent)

theorem countP_decideBucket_unequal : ∃ s, ofDistributions unequal = .ok s ∧
    (List.range buckets.toNat).countP (fun bucket =>
      (s.decideBucket (.ofNat bucket) 1).variantId? = some 3) = 4 ∧
    (List.range buckets.toNat).countP (fun bucket =>
      (s.decideBucket (.ofNat bucket) 1).variantId? = some 7) = 7 ∧
    ∀ d ∈ unequal, (100 * (exposure d.percent.toNat 1 : Int) -
      10 * d.percent.toNat * 1).natAbs < 100 := by
  have hshares := ofDistributions_unequal
  obtain ⟨hthree, hnear⟩ := countP_decideBucket hshares 1 3
  exact ⟨_, hshares, hthree, (countP_decideBucket hshares 1 7).1, hnear (by decide)⟩

end Shares

end FeatureFlags
