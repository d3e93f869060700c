import Mathlib
import FeatureFlags.Pattern.Machine
import FeatureFlags.Proofs.Snapshot.RoundTrip
import FeatureFlags.Proofs.Sorting

namespace FeatureFlags

/-- A segment and the same with its distributions in order. -/
structure Segment.Arranged (s s' : Segment) : Prop where
  distributions : StablySorted (fun a b => a.variantId ≤ b.variantId) s.distributions
    s'.distributions
  rest : s' = { s with distributions := s'.distributions }

/-- A flag and the same with its segments, and the distributions of each, in order. -/
structure Flag.Arranged (f f' : Flag) : Prop where
  segments : ∃ segments, StablySorted Segment.before f.segments segments ∧
    List.Forall₂ Segment.Arranged segments f'.segments
  rest : f' = { f with segments := f'.segments }

theorem Flag.arranged_sorted (f : Flag) : f.Arranged f.sorted := by
  refine ⟨⟨f.segments.mergeSort Segment.before, ?_, ?_⟩, rfl⟩
  · exact stablySorted_mergeSort Segment.before_trans Segment.before_total f.segments
  · rw [sorted, List.forall₂_map_right_iff, List.forall₂_same]
    intro s _
    exact ⟨stablySorted_mergeSort Distribution.variantId_le_trans
      Distribution.variantId_le_total s.distributions, rfl⟩

/-- A prepared flag keeps a flag in order, with what each segment of it prepares to, and is
what the flag that it keeps prepares to. -/
structure PreparedFlag.Keeps [PatternEngine] (p : PreparedFlag) (f : Flag) : Prop where
  flag : f.Arranged p.flag
  segments : List.Forall₂ (fun s x => PreparedSegment.prepare p.flag.id s = .ok x)
    p.flag.segments p.segments
  again : prepare p.flag = .ok p

theorem PreparedFlag.keeps_of_prepare [PatternEngine] {f : Flag} {p : PreparedFlag}
    (h : prepare f = .ok p) :
    p.Keeps f := by
  have hagain := prepare_flag h
  refine ⟨?_, ?_, hagain⟩
  · rw [flag_of_prepare h]
    exact f.arranged_sorted
  · obtain ⟨hsorted, hsegments⟩ := prepare_eq_ok_iff.mp hagain
    rw [← hsorted] at hsegments
    exact prepareSegments_eq_ok_iff.mp hsegments

namespace Snapshot

variable [PatternEngine] {flags : List Flag} {generation generation' : Nat} {s s' : Snapshot}

theorem sorted_of_mem_flags (hbuild : (build flags generation).2 = .ok s) {f : Flag}
    (hf : f ∈ s.flags) : f.sorted = f := by
  obtain ⟨g, -, rfl⟩ := (mem_flags_iff hbuild).mp hf
  exact g.sorted_sorted

theorem flags_build_flags (hbuild : (build flags generation).2 = .ok s)
    (hbuild' : (build s.flags generation').2 = .ok s') : s'.flags = s.flags := by
  have hmem : ∀ f, f ∈ s'.flags ↔ f ∈ s.flags := by
    intro f
    rw [mem_flags_iff hbuild']
    constructor
    · rintro ⟨g, hlast, rfl⟩
      have hg := Flag.mem_of_last?_eq_some hlast
      rwa [sorted_of_mem_flags hbuild hg]
    · intro hf
      exact ⟨f, Flag.last?_id_of_nodup (nodup_map_id_flags hbuild) hf,
        sorted_of_mem_flags hbuild hf⟩
  exact eq_of_pairwise_lt (flags_pairwise hbuild') (flags_pairwise hbuild) hmem

/-- Preparation loses nothing, adds nothing and can be repeated: a flag is kept with its
segments and their distributions in order, those that are equal in it as they were given. So
the flags of a snapshot, which are in the order of their numbers, build a snapshot of the
same flags. -/
theorem normalForm_of_prepare :
    (∀ f p, PreparedFlag.prepare f = .ok p → p.Keeps f) ∧
    ∀ flags generation s, (build flags generation).2 = .ok s →
      s.flags.Pairwise (fun f g => f.id < g.id) ∧
      ∀ generation', ∃ s', (build s.flags generation').2 = .ok s' ∧ s'.flags = s.flags := by
  refine ⟨fun f p => PreparedFlag.keeps_of_prepare, ?_⟩
  intro flags generation s hbuild
  refine ⟨flags_pairwise hbuild, fun generation' => ?_⟩
  obtain ⟨s', hbuild'⟩ := exists_build_flags_eq_ok hbuild generation'
  exact ⟨s', hbuild', flags_build_flags hbuild hbuild'⟩

end Snapshot

namespace Snapshot

/-- Segments out of order, two of them of one rank and number, and distributions out of
order. -/
def jumbledFlag : Flag :=
  { Flag.plain 2 "b" [⟨1, "x"⟩] with
    segments :=
      [⟨30, 2, "last", 1, 100, [], []⟩,
        ⟨20, 2, "first", 0, 100, [⟨1, 20, "plan", "EQ", "\"pro\""⟩],
          [⟨1, 20, 8, "y", 40⟩, ⟨2, 20, 7, "x", 60⟩]⟩,
        ⟨20, 2, "second", 0, 50, [], []⟩] }

theorem normalForm_of_jumbledFlag :
    ∃ p s s', PreparedFlag.prepare jumbledFlag = .ok p ∧ p.Keeps jumbledFlag ∧
      p.flag.segments.map Segment.description = ["first", "second", "last"] ∧
      (build [jumbledFlag, .plain 1 "a" []] 1).2 = .ok s ∧ s.flags.map Flag.id = [1, 2] ∧
      (build s.flags 2).2 = .ok s' ∧ s'.flags = s.flags := by
  obtain ⟨hkeeps, hflags⟩ := normalForm_of_prepare
  obtain ⟨p, hprepare, htexts⟩ : ∃ p, PreparedFlag.prepare jumbledFlag = .ok p ∧
      p.flag.segments.map Segment.description = ["first", "second", "last"] :=
    ⟨_, by cbv, by cbv⟩
  obtain ⟨s, hbuild, hids⟩ : ∃ s, (build [jumbledFlag, .plain 1 "a" []] 1).2 = .ok s ∧
      s.flags.map Flag.id = [1, 2] := ⟨_, by cbv, by cbv⟩
  obtain ⟨s', hbuild', hsame⟩ := (hflags _ _ s hbuild).2 2
  exact ⟨p, s, s', hprepare, hkeeps _ p hprepare, htexts, hbuild, hids, hbuild', hsame⟩

end Snapshot

end FeatureFlags
