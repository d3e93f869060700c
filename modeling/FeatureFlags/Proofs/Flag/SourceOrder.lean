import Mathlib
import FeatureFlags.Pattern.Machine
import FeatureFlags.Proofs.Flag.Assignment
import FeatureFlags.Proofs.Flag.Last
import FeatureFlags.Proofs.Flag.Preparation
import FeatureFlags.Proofs.Sorting

/-!
The order in which a source gives the parts of a flag. Segments, distributions and
variants are told apart by their numbers, and conditions that fail or have no answer both
keep a segment from giving a variant; so no arrangement of the parts changes what the flag
assigns.
-/

namespace FeatureFlags

namespace Distribution

theorem sorted_eq_of_perm {ds ds' : List Distribution} (hperm : ds.Perm ds')
    (hvariants : (ds.map variantId).Nodup) : sorted ds = sorted ds' := by
  refine mergeSort_eq_of_perm hperm (sorted_pairwise ds) (sorted_pairwise ds') ?_
  intro a ha b hb hab hba
  simp only [decide_eq_true_eq] at hab hba
  exact List.inj_on_of_nodup_map hvariants ha hb (UInt64.le_antisymm hab hba)

end Distribution

namespace Condition

variable [PatternEngine]

theorem compileAll_eq_ok_iff {cs : List Constraint} {conditions : List Condition} :
    compileAll cs = .ok conditions ↔
      List.Forall₂ (fun c x => compile c.property c.operator c.value = .ok x) cs conditions := by
  induction cs generalizing conditions with
  | nil => simp [compileAll, eq_comm]
  | cons c rest ih =>
      rw [List.forall₂_cons_left_iff, compileAll]
      simp only [← ih]
      cases compile c.property c.operator c.value with
      | error e => simp
      | ok first =>
          cases compileAll rest with
          | error e => simp
          | ok others => simp [eq_comm]

theorem compileAll_of_perm {cs cs' : List Constraint} {conditions : List Condition}
    (hperm : cs.Perm cs') (h : compileAll cs = .ok conditions) :
    ∃ conditions', compileAll cs' = .ok conditions' ∧ conditions'.Perm conditions := by
  obtain ⟨conditions', hcompile, hconditions⟩ :=
    List.perm_comp_forall₂ hperm.symm (compileAll_eq_ok_iff.mp h)
  exact ⟨conditions', compileAll_eq_ok_iff.mpr hcompile, hconditions⟩

end Condition

namespace Segment

/-- The place of a segment in the order in which segments are tried. -/
def place (s : Segment) : UInt32 × Id :=
  (s.rank, s.id)

/-- A segment with its constraints and its distributions in another order. -/
structure Reordered (s s' : Segment) : Prop where
  constraints : s.constraints.Perm s'.constraints
  distributions : s.distributions.Perm s'.distributions
  rest : s' = { s with constraints := s'.constraints, distributions := s'.distributions }

theorem Reordered.symm {s s' : Segment} (h : s.Reordered s') : s'.Reordered s := by
  refine ⟨h.constraints.symm, h.distributions.symm, ?_⟩
  rw [h.rest]

theorem Reordered.place_eq {s s' : Segment} (h : s.Reordered s') : s'.place = s.place := by
  rw [h.rest]
  rfl

theorem before_congr {a b a' b' : Segment} (ha : a'.place = a.place) (hb : b'.place = b.place) :
    a'.before b' = a.before b := by
  simp only [place, Prod.mk.injEq] at ha hb
  simp only [before, ha.1, ha.2, hb.1, hb.2]

theorem place_eq_of_before {a b : Segment} (hab : a.before b) (hba : b.before a) :
    a.place = b.place := by
  simp only [before, Bool.or_eq_true, decide_eq_true_eq, Bool.and_eq_true, beq_iff_eq,
    UInt32.lt_iff_toNat_lt, ← UInt32.toNat_inj, UInt64.le_iff_toNat_le] at hab hba
  rw [place, place, Prod.mk.injEq, ← UInt32.toNat_inj, ← UInt64.toNat_inj]
  omega

end Segment

namespace Flag

/-- A flag with its segments, the constraints and the distributions of each of them, and its
variants in another order. -/
structure Reordered (f f' : Flag) : Prop where
  segments : ∃ segments, f.segments.Perm segments ∧
    List.Forall₂ Segment.Reordered segments f'.segments
  variants : f.variants.Perm f'.variants
  rest : f' = { f with segments := f'.segments, variants := f'.variants }

/-- A flag that has at most one segment in every place, and at most one variant or
distribution of a segment of every number. -/
structure Distinct (f : Flag) : Prop where
  segments : (f.segments.map Segment.place).Nodup
  variants : (f.variants.map Variant.id).Nodup
  distributions : ∀ s ∈ f.segments, (s.distributions.map Distribution.variantId).Nodup

variable {f f' : Flag}

theorem Reordered.symm (h : f.Reordered f') : f'.Reordered f := by
  refine ⟨?_, h.variants.symm, ?_⟩
  · obtain ⟨segments, hperm, hsegments⟩ := h.segments
    have hback : List.Forall₂ Segment.Reordered f'.segments segments :=
      (hsegments.imp fun _ _ hs => hs.symm).flip
    -- reordered one by one and then rearranged is the same as the other way round
    have hboth : Relation.Comp (List.Forall₂ Segment.Reordered) List.Perm f'.segments f.segments :=
      ⟨segments, hback, hperm.symm⟩
    rwa [List.forall₂_comp_perm_eq_perm_comp_forall₂] at hboth
  · rw [h.rest]

theorem Reordered.distinct (h : f.Reordered f') (hdistinct : f.Distinct) : f'.Distinct := by
  obtain ⟨segments, hperm, hsegments⟩ := h.segments
  refine ⟨?_, ?_, ?_⟩
  · have hplaces : f'.segments.map Segment.place = segments.map Segment.place := by
      rw [← List.forall₂_eq_eq_eq, List.forall₂_map_left_iff, List.forall₂_map_right_iff]
      exact (hsegments.imp fun _ _ hs => hs.place_eq).flip
    rw [hplaces, ← (hperm.map Segment.place).nodup_iff]
    exact hdistinct.segments
  · rw [← (h.variants.map Variant.id).nodup_iff]
    exact hdistinct.variants
  · have hvariants : ∀ s ∈ segments, (s.distributions.map Distribution.variantId).Nodup :=
      fun s hs => hdistinct.distributions s (hperm.symm.subset hs)
    have hboth := (List.forall₂_and_left segments f'.segments).mpr ⟨hvariants, hsegments⟩
    have hback : List.Forall₂ (fun s' s =>
        (s'.distributions.map Distribution.variantId).Nodup ∧ s.Reordered s')
        f'.segments segments := by
      refine (hboth.imp ?_).flip
      intro s s' hs
      exact ⟨(hs.2.distributions.map Distribution.variantId).nodup_iff.mp hs.1, hs.2⟩
    exact ((List.forall₂_and_left f'.segments segments).mp hback).1

theorem Reordered.sameFace (h : f.Reordered f') (hdistinct : f.Distinct) :
    f.sorted.SameFace f'.sorted := by
  have hvariant : ∀ id, f'.variant? id = f.variant? id := by
    intro id
    apply Option.ext
    intro v
    rw [variant?_eq_some_iff hdistinct.variants,
      variant?_eq_some_iff (h.distinct hdistinct).variants, h.variants.mem_iff]
  obtain ⟨-, -, hrest⟩ := h
  refine ⟨?_, ?_, ?_, ?_, hvariant⟩
  all_goals rw [hrest]; rfl

theorem Reordered.mergeSort_segments (h : f.Reordered f') (hdistinct : f.Distinct) :
    List.Forall₂ Segment.Reordered (f.segments.mergeSort Segment.before)
      (f'.segments.mergeSort Segment.before) := by
  obtain ⟨segments, hperm, hsegments⟩ := h.segments
  have hsorted : f.segments.mergeSort Segment.before = segments.mergeSort Segment.before := by
    refine mergeSort_eq_of_perm hperm ?_ ?_ ?_
    · exact List.pairwise_mergeSort Segment.before_trans Segment.before_total f.segments
    · exact List.pairwise_mergeSort Segment.before_trans Segment.before_total segments
    · intro a ha b hb hab hba
      exact List.inj_on_of_nodup_map hdistinct.segments ha hb (Segment.place_eq_of_before hab hba)
  rw [hsorted]
  exact forall₂_mergeSort hsegments fun ha hb =>
    (Segment.before_congr ha.place_eq hb.place_eq).symm

end Flag

namespace PreparedSegment

variable [PatternEngine]

/-- Prepared segments that assign the same to every entity. -/
structure AssignsAs (x x' : PreparedSegment) : Prop where
  segmentId : x'.segmentId = x.segmentId
  variantId? : ∀ c, x'.variantId? c = x.variantId? c

theorem prepare_of_reordered {flagId : Id} {s s' : Segment} {x : PreparedSegment}
    (h : s.Reordered s') (hvariants : (s.distributions.map Distribution.variantId).Nodup)
    (hprepare : prepare flagId s = .ok x) :
    ∃ x', prepare flagId s' = .ok x' ∧ x.AssignsAs x' := by
  obtain ⟨shares, conditions, hshares, hconditions, rfl⟩ := prepare_eq_ok_iff.mp hprepare
  obtain ⟨conditions', hconditions', hperm⟩ :=
    Condition.compileAll_of_perm h.constraints hconditions
  have hshares' : Shares.ofDistributions s'.distributions = .ok shares := by
    rw [← hshares, Shares.ofDistributions, Shares.ofDistributions,
      Distribution.sorted_eq_of_perm h.distributions hvariants]
  obtain ⟨-, -, hrest⟩ := h
  refine ⟨⟨s.id, s.rank, s.rolloutPercent, conditions', shares, toString flagId⟩, ?_, rfl, ?_⟩
  · refine prepare_eq_ok_iff.mpr ⟨shares, conditions', hshares', hconditions', ?_⟩
    rw [hrest]
  · intro c
    apply Option.ext
    intro variantId
    simp only [variantId?_eq_some_iff, hperm.mem_iff]

end PreparedSegment

namespace PreparedFlag

variable [PatternEngine]

theorem assigned?_congr {xs xs' : List PreparedSegment}
    (h : List.Forall₂ PreparedSegment.AssignsAs xs xs') (c : Context) :
    assigned? c xs' = assigned? c xs := by
  induction h with
  | nil => rfl
  | cons hx _ ih =>
      simp only [assigned?] at ih ⊢
      rw [List.findSome?_cons, List.findSome?_cons, ih, hx.segmentId, hx.variantId?]

theorem exists_prepared_of_reordered {flagId : Id} {segments segments' : List Segment}
    {xs : List PreparedSegment}
    (h : List.Forall₂ (fun s s' => (s.distributions.map Distribution.variantId).Nodup ∧
      s.Reordered s') segments segments')
    (hprepared : List.Forall₂ (fun s x => PreparedSegment.prepare flagId s = .ok x) segments xs) :
    ∃ xs', List.Forall₂ (fun s x => PreparedSegment.prepare flagId s = .ok x) segments' xs' ∧
      List.Forall₂ PreparedSegment.AssignsAs xs xs' := by
  induction h generalizing xs with
  | nil =>
      obtain rfl := List.forall₂_nil_left_iff.mp hprepared
      exact ⟨[], .nil, .nil⟩
  | cons hs _ ih =>
      obtain ⟨x, rest, hx, hrest, rfl⟩ := List.forall₂_cons_left_iff.mp hprepared
      obtain ⟨x', hx', hassigns⟩ := PreparedSegment.prepare_of_reordered hs.2 hs.1 hx
      obtain ⟨rest', hrest', hassignsRest⟩ := ih hrest
      exact ⟨x' :: rest', .cons hx' hrest', .cons hassigns hassignsRest⟩

theorem exists_prepare_of_reordered {f f' : Flag} {p : PreparedFlag} (hdistinct : f.Distinct)
    (h : f.Reordered f') (hprepare : prepare f = .ok p) :
    ∃ p', prepare f' = .ok p' ∧ ∀ c,
      (p'.evaluate c).map EvalResult.withoutLog = (p.evaluate c).map EvalResult.withoutLog := by
  obtain ⟨hflag, hprepared⟩ := prepare_eq_ok_iff_forall₂.mp hprepare
  have hvariants : ∀ s ∈ f.segments.mergeSort Segment.before,
      (s.distributions.map Distribution.variantId).Nodup :=
    fun s hs => hdistinct.distributions s (List.mem_mergeSort.mp hs)
  obtain ⟨xs, hxs, hassigns⟩ := exists_prepared_of_reordered
    ((List.forall₂_and_left _ _).mpr ⟨hvariants, h.mergeSort_segments hdistinct⟩) hprepared
  have hid : f'.id = f.id := (h.sameFace hdistinct).id
  refine ⟨⟨f'.sorted, xs⟩, prepare_eq_ok_iff_forall₂.mpr ⟨rfl, hid ▸ hxs⟩, fun c => ?_⟩
  refine evaluate_withoutLog_congr ?_ ?_ fun _ => assigned?_congr hassigns _
  · rw [hflag]
    exact h.sameFace hdistinct
  · rw [← List.length_eq_zero_iff, ← hassigns.length_eq, List.length_eq_zero_iff]

/-- However a source arranges the parts of a flag, it is prepared or not, and every context
gets the same error or the same result but for the log. -/
theorem evaluate_of_reordered {f f' : Flag} (hdistinct : f.Distinct) (h : f.Reordered f') :
    ((∃ p, prepare f = .ok p) ↔ ∃ p', prepare f' = .ok p') ∧
      ∀ p p', prepare f = .ok p → prepare f' = .ok p' → ∀ c,
        (p'.evaluate c).map EvalResult.withoutLog =
          (p.evaluate c).map EvalResult.withoutLog := by
  refine ⟨⟨?_, ?_⟩, ?_⟩
  · rintro ⟨p, hp⟩
    obtain ⟨p', hp', -⟩ := exists_prepare_of_reordered hdistinct h hp
    exact ⟨p', hp'⟩
  · rintro ⟨p', hp'⟩
    obtain ⟨p, hp, -⟩ := exists_prepare_of_reordered (h.distinct hdistinct) h.symm hp'
    exact ⟨p, hp⟩
  · intro p p' hp hp' c
    obtain ⟨p'', hp'', hevaluate⟩ := exists_prepare_of_reordered hdistinct h hp
    obtain rfl : p'' = p' := Except.ok.inj (hp''.symm.trans hp')
    exact hevaluate c

end PreparedFlag

namespace PreparedFlag

/-- A flag of two segments, the first for one country and one plan. An entity abroad of no
known plan fails the one constraint and has no answer for the other. -/
def regionalFlag (constraints : List Constraint) (distributions : List Distribution)
    (variants : List Variant) (arrange : List Segment → List Segment) : Flag :=
  ⟨1, "regional", "", true, none,
    arrange [⟨10, 1, "", 0, 100, constraints, distributions⟩,
      ⟨20, 1, "", 1, 50, [], [⟨3, 20, 8, "b", 100⟩]⟩], variants, []⟩

theorem evaluate_of_reversed :
    let country : Constraint := ⟨1, 10, "country", "EQ", "'CA'"⟩
    let plan : Constraint := ⟨2, 10, "plan", "EQ", "'pro'"⟩
    let f := regionalFlag [country, plan] [⟨1, 10, 7, "a", 40⟩, ⟨2, 10, 8, "b", 60⟩]
      [⟨7, 1, "a", none⟩, ⟨8, 1, "b", none⟩] id
    let f' := regionalFlag [plan, country] [⟨2, 10, 8, "b", 60⟩, ⟨1, 10, 7, "a", 40⟩]
      [⟨8, 1, "b", none⟩, ⟨7, 1, "a", none⟩] List.reverse
    ∃ p p', prepare f = .ok p ∧ prepare f' = .ok p' ∧ ∀ c,
      (p'.evaluate c).map EvalResult.withoutLog =
        (p.evaluate c).map EvalResult.withoutLog := by
  intro country plan f f'
  have hdistinct : f.Distinct := ⟨by decide, by decide, by decide⟩
  have hreordered : f.Reordered f' := by
    refine ⟨⟨f.segments.reverse, (List.reverse_perm _).symm, ?_⟩, .swap _ _ _, rfl⟩
    exact .cons ⟨.refl _, .refl _, rfl⟩
      (.cons ⟨.swap _ _ _, .swap _ _ _, rfl⟩ .nil)
  obtain ⟨p, hp⟩ : ∃ p, prepare f = .ok p := ⟨_, by cbv⟩
  obtain ⟨hiff, hevaluate⟩ := evaluate_of_reordered hdistinct hreordered
  obtain ⟨p', hp'⟩ := hiff.mp ⟨p, hp⟩
  exact ⟨p, p', hp, hp', hevaluate p p' hp hp'⟩

end PreparedFlag

end FeatureFlags
