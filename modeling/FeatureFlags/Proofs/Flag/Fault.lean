import FeatureFlags.Proofs.FirstFault
import FeatureFlags.Proofs.Flag.Preparation
import Mathlib.Tactic.MkIffOfInductiveProp

namespace FeatureFlags

variable [PatternEngine]

def Constraint.Fault (k : Constraint) (e : ConstraintError) : Prop :=
  Condition.compile k.property k.operator k.value = .error e

/-- What is wrong with a segment. The constraints count only if the distributions can be laid
out. -/
@[mk_iff]
inductive Segment.Fault (s : Segment) : PrepareError → Prop
  | distribution {e} (hshares : Shares.ofDistributions s.distributions = .error e) :
      s.Fault (.distribution s.id e)
  | constraint {shares e} (hshares : Shares.ofDistributions s.distributions = .ok shares)
      (hfirst : FirstFault Constraint.Fault s.constraints e) : s.Fault (.constraint e)

/-- What is wrong with a flag: the fault of its first segment, by rank and number, that has
one. -/
def Flag.Fault (f : Flag) (e : PrepareError) : Prop :=
  LeastFault Segment.before Segment.Fault f.segments e

theorem Condition.compileAll_eq_error_iff {cs : List Constraint} {e : ConstraintError} :
    compileAll cs = .error e ↔ FirstFault Constraint.Fault cs e := by
  induction cs with
  | nil => simp [compileAll]
  | cons c rest ih =>
      rw [firstFault_cons_iff, ← ih, compileAll]
      simp only [Constraint.Fault]
      cases compile c.property c.operator c.value with
      | error e' => simp
      | ok condition =>
          cases compileAll rest with
          | error e' => simp
          | ok conditions => simp

theorem PreparedSegment.prepare_eq_error_iff {flagId : Id} {s : Segment} {e : PrepareError} :
    prepare flagId s = .error e ↔ s.Fault e := by
  rw [prepare, Segment.fault_iff]
  simp only [← Condition.compileAll_eq_error_iff]
  cases Shares.ofDistributions s.distributions with
  | error cause => simp [eq_comm]
  | ok shares =>
      cases Condition.compileAll s.constraints with
      | error cause => simp [eq_comm]
      | ok conditions => simp

namespace PreparedFlag

theorem prepareSegments_eq_error_iff {flagId : Id} {segments : List Segment} {e : PrepareError} :
    prepareSegments flagId segments = .error e ↔
      FirstFault (fun s e => PreparedSegment.prepare flagId s = .error e) segments e := by
  induction segments with
  | nil => simp [prepareSegments]
  | cons s rest ih =>
      rw [firstFault_cons_iff, ← ih, prepareSegments]
      cases PreparedSegment.prepare flagId s with
      | error e' => simp
      | ok first =>
          cases prepareSegments flagId rest with
          | error e' => simp
          | ok prepared => simp

theorem prepare_eq_error_iff {f : Flag} {e : PrepareError} : prepare f = .error e ↔ f.Fault e := by
  have hsegments : prepare f = .error e ↔ prepareSegments f.id f.sorted.segments = .error e := by
    unfold prepare
    cases prepareSegments f.id f.sorted.segments <;> simp
  rw [hsegments, prepareSegments_eq_error_iff, Flag.sorted, firstFault_map_iff]
  simp only [PreparedSegment.prepare_sortedDistributions, PreparedSegment.prepare_eq_error_iff]
  exact firstFault_mergeSort_iff Segment.before_trans Segment.before_total

end PreparedFlag

end FeatureFlags
