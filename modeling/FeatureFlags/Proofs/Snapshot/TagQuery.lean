import FeatureFlags.Pattern.Machine
import FeatureFlags.Proofs.Snapshot.Agreement
import FeatureFlags.Proofs.Sorting

namespace FeatureFlags

namespace TagOperator

instance (op : TagOperator) (tags : List String) (f : Flag) : Decidable (op.Matches tags f) :=
  match op with
  | .any => inferInstanceAs (Decidable (∃ tag ∈ tags, f.carries tag))
  | .all => inferInstanceAs (Decidable (tags ≠ [] ∧ ∀ tag ∈ tags, f.carries tag))

variable {op : TagOperator} {tags tags' : List String} {f : Flag}

theorem Matches.any_of_all (h : all.Matches tags f) : any.Matches tags f := by
  obtain ⟨tag, htag⟩ := List.exists_mem_of_ne_nil tags h.1
  exact ⟨tag, htag, h.2 tag htag⟩

theorem Matches.any_mono (h : any.Matches tags f) (htags : tags ⊆ tags') :
    any.Matches tags' f := by
  obtain ⟨tag, htag, hcarries⟩ := h
  exact ⟨tag, htags htag, hcarries⟩

theorem Matches.all_anti (h : all.Matches tags' f) (hne : tags ≠ []) (htags : tags ⊆ tags') :
    all.Matches tags f :=
  ⟨hne, fun tag htag => h.2 tag (htags htag)⟩

theorem Matches.of_subset (h : op.Matches tags f) (htags : tags ⊆ tags')
    (htags' : tags' ⊆ tags) : op.Matches tags' f := by
  cases op with
  | any => exact h.any_mono htags
  | all => exact h.all_anti (fun hnil => h.1 (List.subset_nil.mp (hnil ▸ htags))) htags'

end TagOperator

theorem Flag.exists_perm_ordered {flags : List Flag} (hids : (flags.map Flag.id).Nodup) :
    ∃ ordered : List Flag, ordered.Perm flags ∧ ordered.Pairwise fun f g => f.id < g.id := by
  have hperm := flags.mergeSort_perm fun f g => f.id ≤ g.id
  refine ⟨_, hperm, ?_⟩
  have hle : (flags.mergeSort fun f g => f.id ≤ g.id).Pairwise fun f g => f.id ≤ g.id := by
    refine (List.pairwise_mergeSort ?_ ?_ flags).imp of_decide_eq_true
    · intro f g h
      simpa using UInt64.le_trans
    · intro f g
      simpa using UInt64.le_total f.id g.id
  have hne : (flags.mergeSort fun f g => f.id ≤ g.id).Pairwise fun f g => f.id ≠ g.id :=
    List.pairwise_map.mp ((hperm.map Flag.id).nodup_iff.mpr hids)
  exact (hle.and hne).imp fun h => UInt64.lt_of_le_of_ne h.1 h.2

namespace Snapshot

variable [PatternEngine]

section Preparation

variable {flags : List Flag} {ps : List PreparedFlag} {p : PreparedFlag}

theorem Prepares.mem_iff (h : Prepares flags ps) :
    p ∈ ps ↔ ∃ f ∈ flags, PreparedFlag.prepare f = .ok p := by
  constructor
  · intro hp
    obtain ⟨f, hf, hprepare⟩ := exists_of_mem_of_forall₂ h hp
    exact ⟨f, hf, hprepare⟩
  · rintro ⟨f, hf, hprepare⟩
    obtain ⟨q, hq, hprepare'⟩ := exists_of_mem_of_forall₂ h.flip hf
    obtain rfl : q = p := Except.ok.inj (hprepare'.symm.trans hprepare)
    exact hq

theorem Prepares.pairwise (h : Prepares flags ps)
    (hflags : flags.Pairwise fun f g => f.id < g.id) :
    ps.Pairwise fun p q => p.flag.id < q.flag.id := by
  induction h with
  | nil => exact .nil
  | @cons f p flags ps hprepare hrest ih =>
      obtain ⟨hfirst, hflags⟩ := List.pairwise_cons.mp hflags
      refine .cons (fun q hq => ?_) (ih hflags)
      obtain ⟨g, hg, hprepare'⟩ := exists_of_mem_of_forall₂ hrest hq
      rw [PreparedFlag.flag_id_of_prepare hprepare, PreparedFlag.flag_id_of_prepare hprepare']
      exact hfirst g hg

end Preparation

section Query

variable {flags : List Flag} {generation : Nat} {s : Snapshot} {p q : PreparedFlag}
  {tags tags' : List String} {op : TagOperator}

theorem tagged_eq_some_iff_of_nodup (hbuild : (build flags generation).2 = .ok s)
    (hids : (flags.map Flag.id).Nodup) {f : Flag} (hf : f ∈ flags)
    (hprepare : PreparedFlag.prepare f = .ok p) (tag : String) :
    (s.tagged tag)[f.id]? = some q ↔ f.carries tag ∧ q = p := by
  rw [tagged_eq_some_iff hbuild]
  constructor
  · rintro ⟨g, hlast, hprepare'⟩
    obtain ⟨hid, hcarries⟩ := Bool.and_eq_true_iff.mp (Flag.test_of_last?_eq_some hlast)
    obtain rfl : g = f :=
      Flag.eq_of_id_eq hids (Flag.mem_of_last?_eq_some hlast) hf (eq_of_beq hid)
    rw [hprepare] at hprepare'
    exact ⟨hcarries, (Except.ok.inj hprepare').symm⟩
  · rintro ⟨hcarries, rfl⟩
    have hid : ∀ g : Flag, (g.id == f.id && g.carries tag) = true → g.id = f.id :=
      fun g hg => eq_of_beq (Bool.and_eq_true_iff.mp hg).1
    exact ⟨f, Flag.last?_of_nodup hids hid hf (by simp [hcarries]), hprepare⟩

theorem mem_getByTags_of_matches (hbuild : (build flags generation).2 = .ok s)
    (hids : (flags.map Flag.id).Nodup) {f : Flag} (hf : f ∈ flags)
    (hprepare : PreparedFlag.prepare f = .ok p) (hmatches : op.Matches tags f) :
    p ∈ s.getByTags tags op := by
  have htagged : ∀ tag q, (s.tagged tag)[f.id]? = some q ↔ f.carries tag ∧ q = p :=
    fun tag q => tagged_eq_some_iff_of_nodup hbuild hids hf hprepare tag
  cases op with
  | any =>
      obtain ⟨tag, htag, hcarries⟩ := hmatches
      refine s.mem_getByTags_any htag ((htagged tag p).mpr ⟨hcarries, rfl⟩) ?_
      exact fun other _ q hq => ((htagged other q).mp hq).2
  | all =>
      obtain ⟨hne, hcarries⟩ := hmatches
      have hall : ∀ tag ∈ tags, (s.tagged tag)[f.id]? = some p :=
        fun tag htag => (htagged tag p).mpr ⟨hcarries tag htag, rfl⟩
      exact s.mem_getByTags_all hne hall

/-- Where numbers differ, a query finds what the flags that match prepare to. -/
theorem mem_getByTags_iff (hbuild : (build flags generation).2 = .ok s)
    (hids : (flags.map Flag.id).Nodup) :
    p ∈ s.getByTags tags op ↔
      ∃ f ∈ flags, op.Matches tags f ∧ PreparedFlag.prepare f = .ok p := by
  constructor
  · intro hp
    have hagrees := agrees_of_current hbuild (Flag.current_of_nodup hids)
    obtain ⟨hmatches, hid⟩ := hagrees.tags tags op p hp
    obtain ⟨f, hlast, hprepare⟩ := (get?_id_eq_some_iff hbuild _).mp hid
    -- a flag that is sorted carries the tags it carried
    rw [PreparedFlag.flag_of_prepare hprepare] at hmatches
    exact ⟨f, Flag.mem_of_last?_eq_some hlast, hmatches, hprepare⟩
  · rintro ⟨f, hf, hmatches, hprepare⟩
    exact mem_getByTags_of_matches hbuild hids hf hprepare hmatches

theorem getByTags_subset (hbuild : (build flags generation).2 = .ok s)
    (hids : (flags.map Flag.id).Nodup) {op' : TagOperator}
    (h : ∀ f, op.Matches tags f → op'.Matches tags' f) :
    s.getByTags tags op ⊆ s.getByTags tags' op' := by
  intro p hp
  obtain ⟨f, hf, hmatches, hprepare⟩ := (mem_getByTags_iff hbuild hids).mp hp
  exact (mem_getByTags_iff hbuild hids).mpr ⟨f, hf, h f hmatches, hprepare⟩

theorem exists_prepares_getByTags (hbuild : (build flags generation).2 = .ok s)
    (hids : (flags.map Flag.id).Nodup) (tags : List String) (op : TagOperator) :
    ∃ matching, matching.Perm (flags.filter fun f => op.Matches tags f) ∧
      matching.Pairwise (fun f g => f.id < g.id) ∧
      Prepares matching (s.getByTags tags op) := by
  have hidsfilter : ((flags.filter fun f => op.Matches tags f).map Flag.id).Nodup :=
    hids.sublist (List.filter_sublist.map _)
  obtain ⟨matching, hperm, hordered⟩ := Flag.exists_perm_ordered hidsfilter
  have hmem : ∀ f, f ∈ matching ↔ f ∈ flags ∧ op.Matches tags f := by
    intro f
    simp [hperm.mem_iff]
  obtain ⟨ps, hps⟩ : ∃ ps, Prepares matching ps :=
    exists_forall₂_of_forall fun f hf => exists_prepare_of_build_eq_ok hbuild ((hmem f).mp hf).1
  have hequal : ps = s.getByTags tags op := by
    refine eq_of_pairwise_lt (hps.pairwise hordered) (getByTags_pairwise hbuild tags op) ?_
    intro p
    simp only [hps.mem_iff, mem_getByTags_iff hbuild hids, hmem, and_assoc]
  exact ⟨matching, hperm, hordered, hequal ▸ hps⟩

/-- Of flags whose numbers differ, a query finds those that match, each once and in the order of
their numbers, and no tags find none. So the order of the tags and their repetitions do not
count; what all of some tags find, one of them finds; and with more tags, one of them finds no
less and all of them no more. -/
theorem getByTags_of_build (hbuild : (build flags generation).2 = .ok s)
    (hids : (flags.map Flag.id).Nodup) :
    (∀ tags op, ∃ matching, matching.Perm (flags.filter fun f => op.Matches tags f) ∧
      matching.Pairwise (fun f g => f.id < g.id) ∧
      Prepares matching (s.getByTags tags op)) ∧
    (∀ op, s.getByTags [] op = []) ∧
    (∀ tags tags' op, (∀ tag, tag ∈ tags ↔ tag ∈ tags') →
      s.getByTags tags op = s.getByTags tags' op) ∧
    (∀ tags, s.getByTags tags .all ⊆ s.getByTags tags .any) ∧
    (∀ tags tags', tags ⊆ tags' → s.getByTags tags .any ⊆ s.getByTags tags' .any) ∧
    ∀ tags tags', tags ≠ [] → tags ⊆ tags' →
      s.getByTags tags' .all ⊆ s.getByTags tags .all := by
  refine ⟨exists_prepares_getByTags hbuild hids, s.getByTags_nil, ?_, ?_, ?_, ?_⟩
  · intro tags tags' op htags
    have hsubset : tags ⊆ tags' := fun tag htag => (htags tag).mp htag
    have hsubset' : tags' ⊆ tags := fun tag htag => (htags tag).mpr htag
    refine eq_of_pairwise_lt (getByTags_pairwise hbuild tags op)
      (getByTags_pairwise hbuild tags' op) fun p => ⟨fun hp => ?_, fun hp => ?_⟩
    · exact getByTags_subset hbuild hids (fun f hf => hf.of_subset hsubset hsubset') hp
    · exact getByTags_subset hbuild hids (fun f hf => hf.of_subset hsubset' hsubset) hp
  · intro tags
    exact getByTags_subset hbuild hids fun f hf => hf.any_of_all
  · intro tags tags' htags
    exact getByTags_subset hbuild hids fun f hf => hf.any_mono htags
  · intro tags tags' hne htags
    exact getByTags_subset hbuild hids fun f hf => hf.all_anti hne htags

end Query

end Snapshot

namespace Snapshot

theorem getByTags_of_twoTagged :
    ∃ s, (build [.plain 2 "b" [⟨1, "x"⟩, ⟨2, "y"⟩], .plain 1 "a" [⟨1, "x"⟩, ⟨3, "x"⟩]] 1).2 =
        .ok s ∧
      s.getByTags ["y", "x", "y"] .any =
        [⟨.plain 1 "a" [⟨1, "x"⟩, ⟨3, "x"⟩], []⟩, ⟨.plain 2 "b" [⟨1, "x"⟩, ⟨2, "y"⟩], []⟩] ∧
      s.getByTags ["x", "y", "x"] .all = [⟨.plain 2 "b" [⟨1, "x"⟩, ⟨2, "y"⟩], []⟩] ∧
      s.getByTags ["x", "z"] .all = [] ∧
      s.getByTags ["x", "y"] .any = s.getByTags ["y", "x", "y"] .any := by
  obtain ⟨s, hbuild⟩ : ∃ s, (build [.plain 2 "b" [⟨1, "x"⟩, ⟨2, "y"⟩],
      .plain 1 "a" [⟨1, "x"⟩, ⟨3, "x"⟩]] 1).2 = .ok s := by
    simp [exists_build_eq_ok_iff]
  obtain ⟨hmatching, -, hsame, -⟩ := getByTags_of_build hbuild (by decide)
  refine ⟨s, hbuild, ?_, ?_, ?_, hsame _ _ _ (by simp [or_comm])⟩
  · obtain ⟨matching, hperm, hordered, hprepares⟩ := hmatching ["y", "x", "y"] .any
    obtain rfl := (hperm.trans (.swap _ _ _)).eq_of_pairwise
      (fun _ _ _ _ hlt hgt => (UInt64.lt_asymm hlt hgt).elim) hordered (by decide)
    simpa [Prepares, List.forall₂_cons_left_iff] using hprepares
  · obtain ⟨matching, hperm, -, hprepares⟩ := hmatching ["x", "y", "x"] .all
    obtain rfl := List.perm_singleton.mp hperm
    simpa [Prepares, List.forall₂_cons_left_iff] using hprepares
  · obtain ⟨matching, hperm, -, hprepares⟩ := hmatching ["x", "z"] .all
    obtain rfl := List.perm_nil.mp hperm
    exact List.forall₂_nil_left_iff.mp hprepares

end Snapshot

end FeatureFlags
