import Mathlib
import FeatureFlags.Proofs.Database.Join

/-!
A fetch loses nothing and misplaces nothing. Every row that is not deleted is in its place,
once, unless what it belongs to is deleted or absent.
-/

namespace FeatureFlags

namespace Database

section Telling

variable {ρ α β ω : Type} {rows : List ρ} {tells : ρ → α → Prop} {listed : List α}
  {ref : ρ → Int64} {before : ρ → ρ → Prop}

/-- Each of the rows is told once. -/
def Told (rows : List ρ) (tells : ρ → α → Prop) (listed : List α) : Prop :=
  ∃ chosen : List ρ, chosen.Perm rows ∧ List.Forall₂ tells chosen listed

/-- Each of the rows is told once, in an order of the rows. -/
def Lists (rows : List ρ) (before : ρ → ρ → Prop) (tells : ρ → α → Prop) (listed : List α) : Prop :=
  ∃ chosen : List ρ, chosen.Perm rows ∧ chosen.Pairwise before ∧ List.Forall₂ tells chosen listed

theorem Lists.told (h : Lists rows before tells listed) : Told rows tells listed := by
  obtain ⟨chosen, hperm, -, htells⟩ := h
  exact ⟨chosen, hperm, htells⟩

theorem Told.imp {tells' : ρ → α → Prop} (h : Told rows tells listed)
    (himp : ∀ row a, tells row a → tells' row a) : Told rows tells' listed := by
  obtain ⟨chosen, hperm, htells⟩ := h
  exact ⟨chosen, hperm, htells.imp himp⟩

theorem Told.exists_of_mem (h : Told rows tells listed) {row : ρ} (hrow : row ∈ rows) :
    ∃ a ∈ listed, tells row a := by
  obtain ⟨chosen, hperm, htells⟩ := h
  exact exists_of_mem_of_forall₂ htells.flip (hperm.mem_iff.mpr hrow)

theorem Told.nodup_map {key : ρ → Int64} {id : α → Id} (h : Told rows tells listed)
    (hexact : ∀ row a, tells row a → Exact UInt64.size (key row) (id a).toNat)
    (hnodup : (rows.map key).Nodup) : (listed.map id).Nodup := by
  obtain ⟨chosen, hperm, htells⟩ := h
  have hsame : listed.map (fun a => ((id a).toNat : Int)) = (chosen.map key).map Int64.toInt := by
    rw [List.map_map, eq_comm, ← List.forall₂_eq_eq_eq, List.forall₂_map_left_iff,
      List.forall₂_map_right_iff]
    exact htells.imp fun row a h => (hexact row a h).symm
  have hnumbers : ((chosen.map key).map Int64.toInt).Nodup :=
    ((hperm.map key).nodup_iff.mpr hnodup).map fun _ _ => Int64.toInt_inj.mp
  rw [← hsame] at hnumbers
  refine List.Nodup.of_map (fun n : Id => (n.toNat : Int)) ?_
  rwa [List.map_map]

theorem lists_map {le : ρ → ρ → Bool} {test : ρ → Bool} {tell : ρ → α}
    (hsorted : (rows.mergeSort le).Pairwise before)
    (htells : ∀ row ∈ rows, tells row (tell row)) :
    Lists (rows.filter test) before tells (((rows.mergeSort le).filter test).map tell) := by
  refine ⟨(rows.mergeSort le).filter test, (List.mergeSort_perm rows le).filter test,
    hsorted.filter test, ?_⟩
  rw [List.forall₂_map_right_iff, List.forall₂_same]
  intro row hrow
  exact htells row (List.mem_mergeSort.mp (List.mem_of_mem_filter hrow))

theorem filter_mem_cons_perm {n : Int64} {ns : List Int64} (hnew : n ∉ ns) (rows : List ρ) :
    (rows.filter (ref · == n) ++ rows.filter fun row => ref row ∈ ns).Perm
      (rows.filter fun row => ref row ∈ n :: ns) := by
  have hperm := List.filter_append_perm (fun row => ref row == n)
    (rows.filter fun row => ref row ∈ n :: ns)
  rw [List.filter_filter, List.filter_filter] at hperm
  convert hperm using 2
  · refine List.filter_congr fun row _ => ?_
    by_cases heq : ref row = n <;> simp [heq]
  · refine List.filter_congr fun row _ => ?_
    by_cases heq : ref row = n <;> simp [heq, hnew]

/-- What belongs to owners with different numbers is told once, if it is for each of them. -/
theorem told_flatMap {owners : List ω} {key : ω → Int64} {as : List β} {parts : β → List α}
    (h : List.Forall₂ (fun owner a => Told (rows.filter (ref · == key owner)) tells (parts a))
      owners as) (hnodup : (owners.map key).Nodup) :
    Told (rows.filter fun row => ref row ∈ owners.map key) tells (as.flatMap parts) := by
  induction h with
  | nil => exact ⟨[], by simp, .nil⟩
  | cons hfirst _ ih =>
      obtain ⟨hnew, hrest⟩ := List.nodup_cons.mp hnodup
      obtain ⟨chosen, hperm, htells⟩ := hfirst
      obtain ⟨others, hothers, htellsOthers⟩ := ih hrest
      refine ⟨chosen ++ others, ?_, ?_⟩
      · exact (hperm.append hothers).trans (filter_mem_cons_perm hnew rows)
      · rw [List.flatMap_cons]
        exact List.rel_append htells htellsOthers

theorem Told.flatMap {owners : List ω} {key : ω → Int64} {owns : ω → β → Prop} {as : List β}
    {parts : β → List α} (h : Told owners owns as)
    (hparts : ∀ owner a, owns owner a →
      Told (rows.filter (ref · == key owner)) tells (parts a))
    (hnodup : (owners.map key).Nodup) :
    Told (rows.filter fun row => ref row ∈ owners.map key) tells (as.flatMap parts) := by
  obtain ⟨chosen, hperm, howns⟩ := h
  have hkeys := hperm.map key
  simp only [← hkeys.mem_iff]
  exact told_flatMap (howns.imp hparts) (hkeys.nodup_iff.mpr hnodup)

theorem flatMap_filter_perm {owners : List ω} {key : ω → Int64}
    (hnodup : (owners.map key).Nodup) :
    (owners.flatMap fun owner => rows.filter (ref · == key owner)).Perm
      (rows.filter fun row => ref row ∈ owners.map key) := by
  have heach : List.Forall₂ (fun owner owner' => Told (rows.filter (ref · == key owner)) Eq
      (rows.filter (ref · == key owner'))) owners owners :=
    List.forall₂_same.mpr fun owner _ => ⟨_, .refl _, List.forall₂_same.mpr fun _ _ => rfl⟩
  obtain ⟨chosen, hperm, hsame⟩ := told_flatMap heach hnodup
  rw [List.forall₂_eq_eq_eq] at hsame
  exact hsame ▸ hperm

theorem flatMap_filter_pairwise {owners : List ω} {key : ω → Int64}
    (hsorted : owners.Pairwise fun a b => key a ≤ key b) :
    (owners.flatMap fun owner => rows.filter (ref · == key owner)).Pairwise
      fun a b => ref a ≤ ref b := by
  have href : ∀ owner, ∀ row ∈ rows.filter (ref · == key owner), ref row = key owner :=
    fun owner row hrow => eq_of_beq (List.mem_filter.mp hrow).2
  refine List.pairwise_flatMap.mpr ⟨fun owner _ => ?_, hsorted.imp fun {a b} hle => ?_⟩
  · refine List.pairwise_of_forall_mem_list fun row hrow other hother => ?_
    rw [href owner row hrow, href owner other hother]
    exact Int64.le_refl _
  · intro row hrow other hother
    rwa [href a row hrow, href b other hother]

end Telling

section Places

variable (db : Database)

def liveLinks : List TagLink :=
  db.links.filter fun link => link.tagId ∈ db.liveTags.map TagRow.id

def standingSegments : List SegmentRow :=
  db.liveSegments.filter fun row => row.flagId ∈ db.liveFlags.map FlagRow.id

def standingConstraints : List ConstraintRow :=
  db.liveConstraints.filter fun row => row.segmentId ∈ db.standingSegments.map SegmentRow.id

def standingDistributions : List DistributionRow :=
  db.liveDistributions.filter fun row => row.segmentId ∈ db.standingSegments.map SegmentRow.id

def standingVariants : List VariantRow :=
  db.liveVariants.filter fun row => row.flagId ∈ db.liveFlags.map FlagRow.id

/-- A segment comes before another by its rank, or by its number if their ranks are equal. -/
def SegmentRow.Precedes (a b : SegmentRow) : Prop :=
  a.rank < b.rank ∨ a.rank = b.rank ∧ a.id < b.id

/-- The segment of a row with all that belongs to it. -/
structure SegmentRow.Holds (row : SegmentRow) (s : Segment) : Prop where
  own : row.Tells Exact s
  constraints : Lists (db.liveConstraints.filter (·.segmentId == row.id))
    (fun a b => a.id < b.id) (ConstraintRow.Tells Exact) s.constraints
  distributions : Lists (db.liveDistributions.filter (·.segmentId == row.id))
    (fun a b => a.variantId ≤ b.variantId) (DistributionRow.Tells Exact) s.distributions

/-- The tag that a link leads to. -/
def TagLink.Tells (link : TagLink) (t : Tag) : Prop :=
  ∃ row ∈ db.liveTags, row.id = link.tagId ∧ row.Tells Exact t

/-- The flag of a row with all that belongs to it. -/
structure FlagRow.Holds (row : FlagRow) (f : Flag) : Prop where
  own : row.Tells Exact f
  segments : Lists (db.liveSegments.filter (·.flagId == row.id)) SegmentRow.Precedes
    (SegmentRow.Holds db) f.segments
  variants : Lists (db.liveVariants.filter (·.flagId == row.id)) (fun a b => a.id < b.id)
    (VariantRow.Tells Exact) f.variants
  tags : Lists (db.liveLinks.filter (·.flagId == row.id)) (fun a b => a.tagId ≤ b.tagId)
    (TagLink.Tells db) f.tags

/-- The flags that are not deleted, each with all that belongs to it. -/
def Stitched (fetched : List Flag) : Prop :=
  Lists db.liveFlags (fun a b => a.id < b.id) (FlagRow.Holds db) fetched

variable {db} {fetched : List Flag}

theorem pairwise_key_le {ρ : Type} (key : ρ → Int64) (rows : List ρ) :
    (rows.mergeSort fun a b => key a ≤ key b).Pairwise fun a b => key a ≤ key b :=
  (List.pairwise_mergeSort (key_le_trans key) (key_le_total key) rows).imp of_decide_eq_true

theorem pairwise_key_lt {ρ : Type} {rows : List ρ} {key : ρ → Int64}
    (hnodup : (rows.map key).Nodup) :
    (rows.mergeSort fun a b => key a ≤ key b).Pairwise fun a b => key a < key b := by
  have hne := List.pairwise_map.mp (nodup_mergeSort (fun a b => key a ≤ key b) hnodup)
  exact ((pairwise_key_le key rows).and hne).imp fun {a b} h => Int64.lt_of_le_of_ne h.1 h.2

theorem pairwise_precedes {rows : List SegmentRow} (hnodup : (rows.map SegmentRow.id).Nodup) :
    (rows.mergeSort SegmentRow.before).Pairwise SegmentRow.Precedes := by
  have hle := List.pairwise_mergeSort SegmentRow.before_trans SegmentRow.before_total rows
  have hne := List.pairwise_map.mp (nodup_mergeSort SegmentRow.before hnodup)
  refine (hle.and hne).imp fun {a b} h => ?_
  rcases SegmentRow.before_iff.mp h.1 with hlt | ⟨heq, hle⟩
  · exact .inl (Int64.lt_iff_toInt_lt.mpr hlt)
  · exact .inr ⟨Int64.toInt_inj.mp heq,
      Int64.lt_of_le_of_ne (Int64.le_iff_toInt_le.mpr hle) h.2⟩

theorem holds_segmentOf (hkeyed : db.Keyed) (hrange : db.InRange) {row : SegmentRow}
    (hrow : row ∈ db.liveSegments) : row.Holds db (db.read.segmentOf row) where
  own := (row.tells_segment _ _).exact (hrange.segments row hrow)
  constraints := lists_map (pairwise_key_lt (nodup_present hkeyed.constraints))
    fun c hc => c.tells_toConstraint.exact (hrange.constraints c hc)
  distributions := lists_map (pairwise_key_le DistributionRow.variantId db.liveDistributions)
    fun d hd => d.tells_toDistribution.exact (hrange.distributions d hd)

theorem lists_tags (hkeyed : db.Keyed) (hrange : db.InRange) (n : Int64) :
    Lists (db.liveLinks.filter (·.flagId == n)) (fun a b => a.tagId ≤ b.tagId)
      (TagLink.Tells db) ((db.read.tags.filter (·.flagId == n)).map fun linked =>
        linked.tag.toTag) := by
  have hnodup : ((db.liveTags.mergeSort fun a b => a.id ≤ b.id).map TagRow.id).Nodup :=
    nodup_mergeSort _ (nodup_present hkeyed.tags)
  have hperm := (List.mergeSort_perm db.liveTags fun a b => a.id ≤ b.id).map TagRow.id
  refine ⟨(db.liveTags.mergeSort fun a b => a.id ≤ b.id).flatMap fun tag =>
    (db.links.filter (·.flagId == n)).filter (·.tagId == tag.id), ?_, ?_, ?_⟩
  · rw [liveLinks, List.filter_comm]
    simp only [← hperm.mem_iff]
    exact flatMap_filter_perm hnodup
  · exact flatMap_filter_pairwise (pairwise_key_le TagRow.id db.liveTags)
  · rw [filter_tags_read, List.map_flatMap]
    refine forall₂_flatMap fun tag htag => ?_
    rw [List.map_map, List.forall₂_map_right_iff, List.forall₂_same]
    intro link hlink
    have hlive := List.mem_mergeSort.mp htag
    exact ⟨tag, hlive, (eq_of_beq (List.mem_filter.mp hlink).2).symm,
      tag.tells_toTag.exact (hrange.tags tag hlive)⟩

theorem holds_flagOf (hkeyed : db.Keyed) (hrange : db.InRange)
    (hlegible : ∀ row ∈ db.liveVariants, row.Legible) {row : FlagRow}
    (hrow : row ∈ db.liveFlags) : row.Holds db (db.read.flagOf row) where
  own := (row.tells_flag _ _ _).exact (hrange.flags row hrow)
  segments := lists_map (pairwise_precedes (nodup_present hkeyed.segments))
    fun _ hs => holds_segmentOf hkeyed hrange hs
  variants := lists_map (pairwise_key_lt (nodup_present hkeyed.variants))
    fun v hv => (VariantRow.tells_variant (hlegible v hv)).exact (hrange.variants v hv)
  tags := lists_tags hkeyed hrange row.id

theorem stitched_of_fetch (hkeyed : db.Keyed) (hrange : db.InRange)
    (h : db.fetch = .ok fetched) : Stitched db fetched := by
  obtain ⟨-, hlegible, rfl⟩ := (fetch_eq_ok_iff hkeyed hrange.numbered).mp h
  refine ⟨db.read.flags, List.mergeSort_perm _ _,
    pairwise_key_lt (nodup_present hkeyed.flags), ?_⟩
  rw [Rows.joined, List.forall₂_map_right_iff, List.forall₂_same]
  intro row hrow
  exact holds_flagOf hkeyed hrange hlegible (List.mem_mergeSort.mp hrow)

/-- The segments of all flags, and all that belongs to those and to the flags, are the rows
that are not deleted and belong to none that is deleted or absent. Each is there once. -/
structure EachOnce (db : Database) (fetched : List Flag) : Prop where
  segments : Told db.standingSegments (SegmentRow.Tells Exact) (fetched.flatMap Flag.segments)
  constraints : Told db.standingConstraints (ConstraintRow.Tells Exact)
    ((fetched.flatMap Flag.segments).flatMap Segment.constraints)
  distributions : Told db.standingDistributions (DistributionRow.Tells Exact)
    ((fetched.flatMap Flag.segments).flatMap Segment.distributions)
  variants : Told db.standingVariants (VariantRow.Tells Exact) (fetched.flatMap Flag.variants)

theorem nodup_standingSegments (hkeyed : db.Keyed) :
    (db.standingSegments.map SegmentRow.id).Nodup :=
  (nodup_present hkeyed.segments).sublist (List.filter_sublist.map _)

theorem Stitched.told_segments (h : Stitched db fetched) (hkeyed : db.Keyed) :
    Told db.standingSegments (SegmentRow.Holds db) (fetched.flatMap Flag.segments) :=
  Lists.told h |>.flatMap (fun _ _ hf => hf.segments.told) (nodup_present hkeyed.flags)

theorem Stitched.eachOnce (h : Stitched db fetched) (hkeyed : db.Keyed) :
    EachOnce db fetched := by
  have hsegments := h.told_segments hkeyed
  have hnodup := nodup_standingSegments hkeyed
  refine ⟨hsegments.imp fun _ _ hs => hs.own, ?_, ?_, ?_⟩
  · exact hsegments.flatMap (fun _ _ hs => hs.constraints.told) hnodup
  · exact hsegments.flatMap (fun _ _ hs => hs.distributions.told) hnodup
  · exact (Lists.told h).flatMap (fun _ _ hf => hf.variants.told) (nodup_present hkeyed.flags)

/-- If all numbers fit, a fetch that succeeds gives one flag for each row that is not deleted,
with exactly what belongs to it, and so do its segments. What belongs to a row that is deleted
or absent is nowhere, and nothing is there twice. -/
theorem stitched_eachOnce_of_fetch (hkeyed : db.Keyed) (hrange : db.InRange)
    (h : db.fetch = .ok fetched) : Stitched db fetched ∧ EachOnce db fetched := by
  have hstitched := stitched_of_fetch hkeyed hrange h
  exact ⟨hstitched, hstitched.eachOnce hkeyed⟩

/-- Rows out of order, some of them deleted, and some that belong to a row that is deleted or
absent. A link may be there twice. -/
def scattered : Database where
  flags := some [⟨2, "b", none, true, some "", none⟩, ⟨1, "a", some "A", true, none, none⟩,
    ⟨3, "c", none, true, none, some "now"⟩]
  segments := some [⟨10, 1, none, 1, 100, none⟩, ⟨11, 1, none, 0, 50, none⟩,
    ⟨12, 1, none, 0, 100, some "now"⟩, ⟨13, 3, none, 0, 100, none⟩, ⟨14, 9, none, 0, 100, none⟩]
  constraints := some [⟨101, 10, "country", "EQ", "\"CA\"", none⟩,
    ⟨100, 10, "plan", "EQ", "\"pro\"", none⟩, ⟨102, 12, "age", "GT", "18", none⟩,
    ⟨103, 13, "age", "GT", "18", none⟩]
  distributions := some [⟨1, 11, 7, some "x", 60, none⟩, ⟨2, 11, 6, none, 40, none⟩]
  variants := some [⟨7, 1, "x", some " \x7b\"limit\": 5\x7d", none⟩, ⟨6, 1, "y", some " ", none⟩,
    ⟨5, 1, "w", none, none⟩, ⟨8, 3, "z", none, none⟩]
  tags := some [⟨2, "u", none⟩, ⟨1, "t", none⟩, ⟨3, "v", some "now"⟩]
  tagLinks := some [⟨1, 2⟩, ⟨2, 1⟩, ⟨1, 1⟩, ⟨1, 3⟩, ⟨1, 2⟩]

theorem stitched_eachOnce_of_scattered :
    scattered.Keyed ∧ scattered.InRange ∧ ∃ fetched, scattered.fetch = .ok fetched ∧
      fetched.map Flag.id = [1, 2] ∧
      (fetched.flatMap Flag.segments).map Segment.id = [11, 10] ∧
      (fetched.flatMap Flag.tags).map Tag.id = [1, 2, 2, 1] ∧
      (fetched.flatMap Flag.variants).map Variant.attachment =
        [none, none, some [("limit", .nat 5)]] ∧
      Stitched scattered fetched ∧ EachOnce scattered fetched := by
  have hkeyed : scattered.Keyed := by decide
  have hrange : scattered.InRange := by decide
  obtain ⟨fetched, hfetch, hflags, hsegments, htags, hattachments⟩ : ∃ fetched,
      scattered.fetch = .ok fetched ∧ fetched.map Flag.id = [1, 2] ∧
      (fetched.flatMap Flag.segments).map Segment.id = [11, 10] ∧
      (fetched.flatMap Flag.tags).map Tag.id = [1, 2, 2, 1] ∧
      (fetched.flatMap Flag.variants).map Variant.attachment =
        [none, none, some [("limit", .nat 5)]] :=
    ⟨_, by cbv, by cbv, by cbv, by cbv, by cbv⟩
  exact ⟨hkeyed, hrange, fetched, hfetch, hflags, hsegments, htags, hattachments,
    stitched_eachOnce_of_fetch hkeyed hrange hfetch⟩

end Places

end Database

end FeatureFlags
