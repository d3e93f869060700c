import FeatureFlags.Pattern.Machine
import FeatureFlags.Proofs.Cache.FailClosed
import FeatureFlags.Proofs.Database.Completeness
import FeatureFlags.Proofs.Rollout.Scan

namespace FeatureFlags

namespace PreparedFlag

variable [PatternEngine]

theorem exists_prepare_eq_error {f : Flag} {s : Segment} {d : Distribution}
    (hs : s ∈ f.segments) (hd : d ∈ s.distributions) (hpercent : 100 < d.percent.toNat) :
    ∃ e, prepare f = .error e := by
  cases hprepare : prepare f with
  | error e => exact ⟨e, rfl⟩
  | ok p =>
      obtain ⟨-, hsegments⟩ := prepare_eq_ok_iff_forall₂.mp hprepare
      obtain ⟨x, -, hx⟩ := exists_of_mem_of_forall₂ hsegments.flip (List.mem_mergeSort.mpr hs)
      obtain ⟨shares, -, hshares, -⟩ := PreparedSegment.prepare_eq_ok_iff.mp hx
      have hsum := (Shares.ofDistributions_eq_ok_iff.mp hshares).1
      have hle := Distribution.percent_le_percents hd
      omega

end PreparedFlag

namespace Database

variable [PatternEngine] {db : Database} {fetched : List Flag}

/-- What depends on numbers depends on those in the database: a percentage above 100 ends in
a refresh that is rejected, segments are tried in the order of their ranks, and rows with
different numbers become different flags and segments. -/
structure Faithful (db : Database) (fetched : List Flag) : Prop where
  percents : ∀ row ∈ db.standingDistributions, 100 < row.percent →
    ∀ c : Cache, c.refreshing = false → ∃ c' e,
      c.refresh (.ok fetched) = (c', .error (.compile e)) ∧ c'.snapshot = c.snapshot
  ranks : ∀ f ∈ fetched, ∀ p, PreparedFlag.prepare f = .ok p → ∃ row ∈ db.liveFlags,
    row.Tells Exact f ∧
    Lists (db.liveSegments.filter (·.flagId == row.id)) SegmentRow.Precedes
      (fun segment x => Exact UInt64.size segment.id x.segmentId.toNat ∧
        Exact UInt32.size segment.rank x.rank.toNat) p.segments
  flags : (fetched.map Flag.id).Nodup
  segments : ((fetched.flatMap Flag.segments).map Segment.id).Nodup

omit [PatternEngine] in
theorem Made.exact (h : Made Clipped db fetched) (hrange : db.InRange) :
    Made Exact db fetched where
  flags f hf := by
    obtain ⟨row, hrow, htells⟩ := h.flags f hf
    exact ⟨row, hrow, htells.exact (hrange.flags row hrow)⟩
  segments f hf s hs := by
    obtain ⟨row, hrow, htells⟩ := h.segments f hf s hs
    exact ⟨row, hrow, htells.exact (hrange.segments row hrow)⟩
  constraints f hf s hs c hc := by
    obtain ⟨row, hrow, htells⟩ := h.constraints f hf s hs c hc
    exact ⟨row, hrow, htells.exact (hrange.constraints row hrow)⟩
  distributions f hf s hs d hd := by
    obtain ⟨row, hrow, htells⟩ := h.distributions f hf s hs d hd
    exact ⟨row, hrow, htells.exact (hrange.distributions row hrow)⟩
  variants f hf v hv := by
    obtain ⟨row, hrow, htells⟩ := h.variants f hf v hv
    exact ⟨row, hrow, htells.exact (hrange.variants row hrow)⟩
  tags f hf t ht := by
    obtain ⟨row, hrow, htells⟩ := h.tags f hf t ht
    exact ⟨row, hrow, htells.exact (hrange.tags row hrow)⟩

theorem exists_refresh_eq_error_of_percent (h : EachOnce db fetched) {row : DistributionRow}
    (hrow : row ∈ db.standingDistributions) (hpercent : 100 < row.percent) {c : Cache}
    (hfree : c.refreshing = false) : ∃ c' e,
      c.refresh (.ok fetched) = (c', .error (.compile e)) ∧ c'.snapshot = c.snapshot := by
  obtain ⟨d, hd, htells⟩ := h.distributions.exists_of_mem hrow
  obtain ⟨s, hs, hd⟩ := List.mem_flatMap.mp hd
  obtain ⟨f, hf, hs⟩ := List.mem_flatMap.mp hs
  have hover : 100 < d.percent.toNat := by
    have hexact : (d.percent.toNat : Int) = row.percent.toInt := htells.percent
    rw [Int64.lt_iff_toInt_lt, ← hexact] at hpercent
    exact Int.ofNat_lt.mp hpercent
  obtain ⟨cause, hcause⟩ := PreparedFlag.exists_prepare_eq_error hs hd hover
  cases hbuild : (Snapshot.build fetched 0).2 with
  | ok s =>
      obtain ⟨p, hp⟩ := Snapshot.exists_prepare_of_build_eq_ok hbuild hf
      rw [hcause] at hp
      cases hp
  | error e =>
      obtain ⟨c', hrefresh, hsame, -⟩ :=
        Cache.exists_refresh_eq_error hfree (Snapshot.build_eq_error_iff.mp hbuild)
      exact ⟨c', e, hrefresh, hsame⟩

omit [PatternEngine] in
theorem before_of_precedes {row row' : SegmentRow} {s s' : Segment} (h : row.Tells Exact s)
    (h' : row'.Tells Exact s') (hprecedes : row.Precedes row') : s.before s' := by
  have hid : (s.id.toNat : Int) = row.id.toInt := h.id
  have hid' : (s'.id.toNat : Int) = row'.id.toInt := h'.id
  have hrank : (s.rank.toNat : Int) = row.rank.toInt := h.rank
  have hrank' : (s'.rank.toNat : Int) = row'.rank.toInt := h'.rank
  simp only [SegmentRow.Precedes, Int64.lt_iff_toInt_lt, ← Int64.toInt_inj] at hprecedes
  simp only [Segment.before, Bool.or_eq_true, decide_eq_true_eq, Bool.and_eq_true, beq_iff_eq,
    UInt32.lt_iff_toNat_lt, ← UInt32.toNat_inj, UInt64.le_iff_toNat_le]
  omega

theorem lists_of_prepare {row : FlagRow} {f : Flag} {p : PreparedFlag} (hholds : row.Holds db f)
    (hprepare : PreparedFlag.prepare f = .ok p) :
    Lists (db.liveSegments.filter (·.flagId == row.id)) SegmentRow.Precedes
      (fun segment x => Exact UInt64.size segment.id x.segmentId.toNat ∧
        Exact UInt32.size segment.rank x.rank.toNat) p.segments := by
  obtain ⟨chosen, hperm, hprecedes, htells⟩ := hholds.segments
  have hsorted : f.segments.Pairwise fun a b => a.before b :=
    pairwise_of_forall₂ htells (fun _ _ _ _ h h' => before_of_precedes h.own h'.own) hprecedes
  obtain ⟨-, hsegments⟩ := PreparedFlag.prepare_eq_ok_iff_forall₂.mp hprepare
  rw [List.mergeSort_of_pairwise hsorted] at hsegments
  refine ⟨chosen, hperm, hprecedes, (forall₂_comp htells hsegments).imp ?_⟩
  rintro segment x ⟨s, hs, hx⟩
  obtain ⟨shares, conditions, -, -, rfl⟩ := PreparedSegment.prepare_eq_ok_iff.mp hx
  exact ⟨hs.own.id, hs.own.rank⟩

theorem Stitched.faithful (h : Stitched db fetched) (hkeyed : db.Keyed) :
    Faithful db fetched where
  percents row hrow hpercent c hfree :=
    exists_refresh_eq_error_of_percent (h.eachOnce hkeyed) hrow hpercent hfree
  ranks f hf p hprepare := by
    obtain ⟨chosen, hperm, -, htells⟩ := h
    obtain ⟨row, hrow, hholds⟩ := exists_of_mem_of_forall₂ htells hf
    exact ⟨row, hperm.subset hrow, hholds.own, lists_of_prepare hholds hprepare⟩
  flags := (Lists.told h).nodup_map (fun _ _ hf => hf.own.id) (nodup_present hkeyed.flags)
  segments := (h.told_segments hkeyed).nodup_map (fun _ _ hs => hs.own.id)
    (nodup_standingSegments hkeyed)

/-- A number that fits is told as it is, and any other as zero. -/
theorem faithful_of_fetch (h : db.fetch = .ok fetched) :
    Made Clipped db fetched ∧
      (db.InRange → Made Exact db fetched ∧ (db.Keyed → Faithful db fetched)) := by
  have hmade := made_of_fetch h
  exact ⟨hmade, fun hrange => ⟨hmade.exact hrange, fun hkeyed =>
    (stitched_of_fetch hkeyed hrange h).faithful hkeyed⟩⟩

end Database

namespace Database

/-- Two flags with numbers that fit, one of them with a percentage above 100. -/
def overfull : Database where
  flags := some [⟨2, "b", none, true, none, none⟩, ⟨1, "a", none, true, none, none⟩]
  segments := some [⟨10, 1, none, 4294967295, 100, none⟩, ⟨11, 1, none, 0, 50, none⟩,
    ⟨20, 2, none, 0, 100, none⟩]
  constraints := some []
  distributions := some [⟨100, 20, 9223372036854775807, none, 101, none⟩]
  variants := some []
  tags := some []
  tagLinks := some []

theorem faithful_of_overfull : overfull.InRange ∧ overfull.Keyed ∧
    ∃ fetched, overfull.fetch = .ok fetched ∧ fetched.map Flag.id = [1, 2] ∧
      Made Exact overfull fetched ∧ Faithful overfull fetched ∧
      ∃ c e, (Cache.create none).refresh (.ok fetched) = (c, .error (.compile e)) := by
  have hrange : overfull.InRange := by decide
  have hkeyed : overfull.Keyed := by decide
  obtain ⟨fetched, hfetch, hids⟩ : ∃ fetched, overfull.fetch = .ok fetched ∧
      fetched.map Flag.id = [1, 2] := ⟨_, by cbv, by cbv⟩
  obtain ⟨hexact, hfaithful⟩ := (faithful_of_fetch hfetch).2 hrange
  have hfaithful := hfaithful hkeyed
  have hrow : ⟨100, 20, 9223372036854775807, none, 101, none⟩ ∈
      overfull.standingDistributions := by decide
  obtain ⟨c, e, hrefresh, -⟩ := hfaithful.percents _ hrow (by decide) (Cache.create none) rfl
  exact ⟨hrange, hkeyed, fetched, hfetch, hids, hexact, hfaithful, c, e, hrefresh⟩

/-- A percentage of two to the power of 32. -/
def overflowing : Database where
  flags := some [⟨1, "a", none, true, none, none⟩]
  segments := some [⟨10, 1, none, 0, 100, none⟩]
  constraints := some []
  distributions := some [⟨100, 10, 7, some "v", 4294967296, none⟩]
  variants := some []
  tags := some []
  tagLinks := some []

/-- A percentage that does not fit is told as zero, and nothing fails. -/
theorem not_forall_exact : ¬ ∀ (db : Database) (fetched : List Flag), db.Keyed →
    db.fetch = .ok fetched → Made Exact db fetched := by
  intro h
  have hfetch : overflowing.fetch = .ok [⟨1, "a", "", true, none,
      [⟨10, 1, "", 0, 100, [], [⟨100, 10, 7, "v", 0⟩]⟩], [], []⟩] := by cbv
  obtain ⟨row, hrow, htells⟩ := (h _ _ (by decide) hfetch).distributions _
    (List.mem_singleton_self _) _ (List.mem_singleton_self _) _ (List.mem_singleton_self _)
  have hpercent : ∀ row ∈ overflowing.liveDistributions, ¬ Exact UInt32.size row.percent 0 := by
    decide
  exact hpercent row hrow htells.percent

end Database

end FeatureFlags
