import FeatureFlags.Flag.Prepared
import Mathlib.Data.List.Forall2

namespace FeatureFlags

namespace Distribution

theorem variantId_le_trans (a b c : Distribution) (hab : decide (a.variantId ≤ b.variantId))
    (hbc : decide (b.variantId ≤ c.variantId)) : decide (a.variantId ≤ c.variantId) := by
  simp only [decide_eq_true_eq] at *
  exact UInt64.le_trans hab hbc

theorem variantId_le_total (a b : Distribution) :
    decide (a.variantId ≤ b.variantId) || decide (b.variantId ≤ a.variantId) := by
  simp only [Bool.or_eq_true, decide_eq_true_eq]
  exact UInt64.le_total a.variantId b.variantId

theorem sorted_pairwise (ds : List Distribution) :
    (sorted ds).Pairwise fun a b => decide (a.variantId ≤ b.variantId) :=
  List.pairwise_mergeSort variantId_le_trans variantId_le_total ds

theorem sorted_sorted (ds : List Distribution) : sorted (sorted ds) = sorted ds :=
  List.mergeSort_of_pairwise (sorted_pairwise ds)

end Distribution

namespace PreparedSegment

variable [PatternEngine]

theorem prepare_eq_ok_iff {flagId : Id} {s : Segment} {x : PreparedSegment} :
    prepare flagId s = .ok x ↔
      ∃ shares conditions, Shares.ofDistributions s.distributions = .ok shares ∧
        Condition.compileAll s.constraints = .ok conditions ∧
        x = ⟨s.id, s.rank, s.rolloutPercent, conditions, shares, toString flagId⟩ := by
  unfold prepare
  cases Shares.ofDistributions s.distributions with
  | error e => simp
  | ok shares =>
      cases Condition.compileAll s.constraints with
      | error e => simp
      | ok conditions => simp [eq_comm]

@[simp]
theorem prepare_sortedDistributions (flagId : Id) (s : Segment) :
    prepare flagId { s with distributions := Distribution.sorted s.distributions } =
      prepare flagId s := by
  simp only [prepare, Shares.ofDistributions, Distribution.sorted_sorted]

end PreparedSegment

namespace Segment

theorem before_trans (a b c : Segment) (hab : a.before b) (hbc : b.before c) :
    a.before c := by
  simp only [before, Bool.or_eq_true, decide_eq_true_eq, Bool.and_eq_true, beq_iff_eq,
    UInt32.lt_iff_toNat_lt, ← UInt32.toNat_inj, UInt64.le_iff_toNat_le] at *
  omega

theorem before_total (a b : Segment) : a.before b || b.before a := by
  simp only [before, Bool.or_eq_true, decide_eq_true_eq, Bool.and_eq_true, beq_iff_eq,
    UInt32.lt_iff_toNat_lt, ← UInt32.toNat_inj, UInt64.le_iff_toNat_le]
  omega

end Segment

namespace Flag

def plain (id : Id) (key : String) (tags : List Tag) : Flag :=
  ⟨id, key, "", true, none, [], [], tags⟩

@[simp]
theorem sorted_plain (id : Id) (key : String) (tags : List Tag) :
    (plain id key tags).sorted = plain id key tags := by
  simp [sorted, plain]

@[simp]
theorem sorted_id (f : Flag) : f.sorted.id = f.id := rfl

@[simp]
theorem sorted_key (f : Flag) : f.sorted.key = f.key := rfl

@[simp]
theorem sorted_tags (f : Flag) : f.sorted.tags = f.tags := rfl

theorem sorted_segments_pairwise (f : Flag) :
    f.sorted.segments.Pairwise fun a b => a.before b := by
  rw [sorted, List.pairwise_map]
  exact List.pairwise_mergeSort Segment.before_trans Segment.before_total f.segments

theorem sorted_sorted (f : Flag) : f.sorted.sorted = f.sorted := by
  have hsegments : f.sorted.segments.mergeSort Segment.before = f.sorted.segments :=
    List.mergeSort_of_pairwise f.sorted_segments_pairwise
  have hdistributions : ∀ s ∈ f.sorted.segments,
      { s with distributions := Distribution.sorted s.distributions } = s := by
    intro s hs
    obtain ⟨s', -, rfl⟩ := List.mem_map.mp hs
    simp only [Distribution.sorted_sorted]
  calc
    f.sorted.sorted = { f.sorted with segments :=
        (f.sorted.segments.mergeSort Segment.before).map fun s =>
          { s with distributions := Distribution.sorted s.distributions } } := rfl
    _ = f.sorted := by
      rw [hsegments, List.map_congr_left hdistributions, List.map_id']

end Flag

namespace PreparedFlag

variable [PatternEngine]

theorem prepareSegments_eq_ok_iff {flagId : Id} {segments : List Segment}
    {prepared : List PreparedSegment} :
    prepareSegments flagId segments = .ok prepared ↔
      List.Forall₂ (fun s x => PreparedSegment.prepare flagId s = .ok x) segments prepared := by
  induction segments generalizing prepared with
  | nil => simp [prepareSegments, eq_comm]
  | cons s rest ih =>
      rw [List.forall₂_cons_left_iff, prepareSegments]
      simp only [← ih]
      cases PreparedSegment.prepare flagId s with
      | error e => simp
      | ok first =>
          cases prepareSegments flagId rest with
          | error e => simp
          | ok others => simp [eq_comm]

theorem prepare_eq_ok_iff {f : Flag} {p : PreparedFlag} :
    prepare f = .ok p ↔
      p.flag = f.sorted ∧ prepareSegments f.id f.sorted.segments = .ok p.segments := by
  obtain ⟨flag, segments⟩ := p
  unfold prepare
  cases prepareSegments f.id f.sorted.segments with
  | error e => simp
  | ok prepared => simp [eq_comm]

/-- The prepared segments are those of the flag, in order. -/
theorem prepare_eq_ok_iff_forall₂ {f : Flag} {p : PreparedFlag} :
    prepare f = .ok p ↔
      p.flag = f.sorted ∧
        List.Forall₂ (fun s x => PreparedSegment.prepare f.id s = .ok x)
          (f.segments.mergeSort Segment.before) p.segments := by
  rw [prepare_eq_ok_iff, prepareSegments_eq_ok_iff, Flag.sorted, List.forall₂_map_left_iff]
  simp only [PreparedSegment.prepare_sortedDistributions]

theorem flag_of_prepare {f : Flag} {p : PreparedFlag} (h : prepare f = .ok p) :
    p.flag = f.sorted :=
  (prepare_eq_ok_iff.mp h).1

theorem flag_id_of_prepare {f : Flag} {p : PreparedFlag} (h : prepare f = .ok p) :
    p.flag.id = f.id := by
  rw [flag_of_prepare h, Flag.sorted_id]

@[simp]
theorem prepare_plain (id : Id) (key : String) (tags : List Tag) :
    prepare (.plain id key tags) = .ok ⟨.plain id key tags, []⟩ := by
  rw [prepare, Flag.sorted_plain]
  rfl

@[simp]
theorem prepare_sorted (f : Flag) : prepare f.sorted = prepare f := by
  simp only [prepare, Flag.sorted_sorted, Flag.sorted_id]

theorem prepare_flag {f : Flag} {p : PreparedFlag} (h : prepare f = .ok p) :
    prepare p.flag = .ok p := by
  rw [flag_of_prepare h, prepare_sorted, h]

end PreparedFlag

end FeatureFlags
