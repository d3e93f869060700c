import FeatureFlags.Proofs.Database.Stitching
import Mathlib.Data.List.Nodup

namespace FeatureFlags

namespace Database

section Pools

variable {α ρ : Type}

def Pool.of (pool : Pool α) (owner : Id) : List α :=
  (pool.filter (·.1 == owner)).map Prod.snd

theorem Pool.take_fst (pool : Pool α) (owner : Id) : (pool.take owner).1 = pool.of owner := by
  rw [take, List.partition_eq_filter_filter]
  rfl

theorem Pool.of_take {pool : Pool α} {owner other : Id} (h : other ≠ owner) :
    Pool.of (pool.take owner).2 other = pool.of other := by
  have hkeep : ∀ entry : Id × α,
      (entry.1 == other && (not ∘ fun entry : Id × α => entry.1 == owner) entry) =
        (entry.1 == other) := by
    intro entry
    by_cases hentry : entry.1 = other <;> simp [hentry, h]
  simp only [take, List.partition_eq_filter_filter, of, List.filter_filter, hkeep]

theorem Pool.of_map_toId {rows : List ρ} {ref : ρ → Int64} {g : ρ → α} {n : Int64}
    (hrefs : ∀ row ∈ rows, Fits UInt64.size (ref row)) (hn : Fits UInt64.size n) :
    Pool.of (rows.map fun row => (toId (ref row), g row)) (toId n) =
      (rows.filter (ref · == n)).map g := by
  have hsame : ∀ row ∈ rows, (toId (ref row) == toId n) = (ref row == n) := by
    intro row hrow
    rw [Bool.eq_iff_iff, beq_iff_eq, beq_iff_eq, toId_inj (hrefs row hrow) hn]
  rw [of, List.filter_map, List.map_map, Function.comp_def, Function.comp_def,
    List.filter_congr hsame]

theorem toSegments_eq_map {rows : List SegmentRow} {constraints : Pool Constraint}
    {distributions : Pool Distribution} (h : (rows.map fun row => toId row.id).Nodup) :
    toSegments rows constraints distributions = rows.map fun row =>
      row.segment (constraints.of (toId row.id)) (distributions.of (toId row.id)) := by
  induction rows generalizing constraints distributions with
  | nil => rfl
  | cons row rows ih =>
      obtain ⟨hnew, hrest⟩ := List.nodup_cons.mp h
      rw [toSegments_cons, ih hrest, List.map_cons, Pool.take_fst, Pool.take_fst]
      congr 1
      refine List.map_congr_left fun other hother => ?_
      have hne : toId other.id ≠ toId row.id := fun heq =>
        hnew (List.mem_map.mpr ⟨other, hother, heq⟩)
      rw [Pool.of_take hne, Pool.of_take hne]

theorem toFlags_eq_map {rows : List FlagRow} {segments : Pool Segment}
    {variants : Pool Variant} {tags : Pool Tag} (h : (rows.map fun row => toId row.id).Nodup) :
    toFlags rows segments variants tags = rows.map fun row =>
      row.flag (segments.of (toId row.id)) (variants.of (toId row.id))
        (tags.of (toId row.id)) := by
  induction rows generalizing segments variants tags with
  | nil => rfl
  | cons row rows ih =>
      obtain ⟨hnew, hrest⟩ := List.nodup_cons.mp h
      rw [toFlags_cons, ih hrest, List.map_cons, Pool.take_fst, Pool.take_fst, Pool.take_fst]
      congr 1
      refine List.map_congr_left fun other hother => ?_
      have hne : toId other.id ≠ toId row.id := fun heq =>
        hnew (List.mem_map.mpr ⟨other, hother, heq⟩)
      rw [Pool.of_take hne, Pool.of_take hne, Pool.of_take hne]

end Pools

section Keys

variable (db : Database)

/-- No two rows of a table have one number, deleted or not. -/
@[mk_iff]
structure Keyed : Prop where
  flags : ((db.flags.getD []).map FlagRow.id).Nodup
  segments : ((db.segments.getD []).map SegmentRow.id).Nodup
  constraints : ((db.constraints.getD []).map ConstraintRow.id).Nodup
  distributions : ((db.distributions.getD []).map DistributionRow.id).Nodup
  variants : ((db.variants.getD []).map VariantRow.id).Nodup
  tags : ((db.tags.getD []).map TagRow.id).Nodup

/-- The numbers fit by which rows find what they belong to. -/
@[mk_iff]
structure Numbered : Prop where
  flags : ∀ row ∈ db.liveFlags, Fits UInt64.size row.id
  segments : ∀ row ∈ db.liveSegments, Fits UInt64.size row.id
  flagOfSegments : ∀ row ∈ db.liveSegments, Fits UInt64.size row.flagId
  segmentOfConstraints : ∀ row ∈ db.liveConstraints, Fits UInt64.size row.segmentId
  segmentOfDistributions : ∀ row ∈ db.liveDistributions, Fits UInt64.size row.segmentId
  flagOfVariants : ∀ row ∈ db.liveVariants, Fits UInt64.size row.flagId
  flagOfLinks : ∀ link ∈ db.links, Fits UInt64.size link.flagId

/-- All numbers fit that are read. -/
@[mk_iff]
structure InRange : Prop where
  flags : ∀ row ∈ db.liveFlags, row.Fits
  segments : ∀ row ∈ db.liveSegments, row.Fits
  constraints : ∀ row ∈ db.liveConstraints, row.Fits
  distributions : ∀ row ∈ db.liveDistributions, row.Fits
  variants : ∀ row ∈ db.liveVariants, row.Fits
  tags : ∀ row ∈ db.liveTags, row.Fits
  flagOfLinks : ∀ link ∈ db.links, Fits UInt64.size link.flagId

instance : Decidable db.Keyed :=
  decidable_of_iff _ db.keyed_iff.symm

instance : Decidable db.Numbered :=
  decidable_of_iff _ db.numbered_iff.symm

instance : Decidable db.InRange :=
  decidable_of_iff _ db.inRange_iff.symm

variable {db}

theorem InRange.numbered (h : db.InRange) : db.Numbered where
  flags := h.flags
  segments row hrow := (h.segments row hrow).id
  flagOfSegments row hrow := (h.segments row hrow).flagId
  segmentOfConstraints row hrow := (h.constraints row hrow).segmentId
  segmentOfDistributions row hrow := (h.distributions row hrow).segmentId
  flagOfVariants row hrow := (h.variants row hrow).flagId
  flagOfLinks := h.flagOfLinks

end Keys

section Join

def Rows.segmentOf (rows : Rows) (row : SegmentRow) : Segment :=
  row.segment
    ((rows.constraints.filter (·.segmentId == row.id)).map ConstraintRow.toConstraint)
    ((rows.distributions.filter (·.segmentId == row.id)).map DistributionRow.toDistribution)

def Rows.flagOf (rows : Rows) (row : FlagRow) : Flag :=
  row.flag ((rows.segments.filter (·.flagId == row.id)).map rows.segmentOf)
    ((rows.variants.filter (·.flagId == row.id)).map VariantRow.variant)
    ((rows.tags.filter (·.flagId == row.id)).map fun linked => linked.tag.toTag)

/-- All flags with what refers to their numbers. -/
def Rows.joined (rows : Rows) : List Flag :=
  rows.flags.map rows.flagOf

variable {db : Database} {flags : List Flag}

theorem nodup_map_toId {α : Type} {rows : List α} {key : α → Int64}
    (hfits : ∀ row ∈ rows, Fits UInt64.size (key row)) (hnodup : (rows.map key).Nodup) :
    (rows.map fun row => toId (key row)).Nodup := by
  have hinj : ∀ n ∈ rows.map key, ∀ m ∈ rows.map key, toId n = toId m → n = m := by
    simp only [List.forall_mem_map]
    intro row hrow other hother
    exact (toId_inj (hfits row hrow) (hfits other hother)).mp
  have hids := hnodup.map_on hinj
  rwa [List.map_map] at hids

theorem nodup_present {α : Type} {deletedAt : α → Option String} {table : Option (List α)}
    {key : α → Int64} (h : ((table.getD []).map key).Nodup) :
    ((present deletedAt table).map key).Nodup :=
  h.sublist (List.filter_sublist.map key)

theorem nodup_mergeSort {α : Type} {rows : List α} (le : α → α → Bool) {key : α → Int64}
    (h : (rows.map key).Nodup) : ((rows.mergeSort le).map key).Nodup :=
  ((List.mergeSort_perm rows le).map key).nodup_iff.mpr h

theorem stitchedSegments_read (hkeyed : db.Keyed) (hnumbered : db.Numbered) :
    db.read.stitchedSegments = db.read.segments.map db.read.segmentOf := by
  have hfits : ∀ row ∈ db.read.segments, Fits UInt64.size row.id := fun row hrow =>
    hnumbered.segments row (List.mem_mergeSort.mp hrow)
  have hnodup := nodup_map_toId hfits (nodup_mergeSort _ (nodup_present hkeyed.segments))
  rw [Rows.stitchedSegments, toSegments_eq_map hnodup]
  refine List.map_congr_left fun row hrow => congrArg₂ row.segment ?_ ?_
  · exact Pool.of_map_toId (fun c hc =>
      hnumbered.segmentOfConstraints c (List.mem_mergeSort.mp hc)) (hfits row hrow)
  · exact Pool.of_map_toId (fun d hd =>
      hnumbered.segmentOfDistributions d (List.mem_mergeSort.mp hd)) (hfits row hrow)

theorem filter_tags_read (db : Database) (n : Int64) :
    db.read.tags.filter (·.flagId == n) =
      (db.liveTags.mergeSort fun a b => a.id ≤ b.id).flatMap fun tag =>
        ((db.links.filter (·.flagId == n)).filter (·.tagId == tag.id)).map fun link =>
          ⟨link.flagId, tag⟩ := by
  simp only [read, List.filter_flatMap, List.filter_map,
    List.filter_comm (fun link : TagLink => link.tagId == _)]
  rfl

theorem flagId_of_mem_tags {linked : LinkedTag} (h : linked ∈ db.read.tags) :
    ∃ link ∈ db.links, link.flagId = linked.flagId := by
  obtain ⟨tag, -, hlinked⟩ := List.mem_flatMap.mp h
  obtain ⟨link, hlink, rfl⟩ := List.mem_map.mp hlinked
  exact ⟨link, List.mem_of_mem_filter hlink, rfl⟩

theorem stitchedFlags_read (hkeyed : db.Keyed) (hnumbered : db.Numbered) :
    db.read.stitchedFlags = db.read.joined := by
  have hfits : ∀ row ∈ db.read.flags, Fits UInt64.size row.id := fun row hrow =>
    hnumbered.flags row (List.mem_mergeSort.mp hrow)
  have hnodup := nodup_map_toId hfits (nodup_mergeSort _ (nodup_present hkeyed.flags))
  rw [Rows.stitchedFlags, toFlags_eq_map hnodup, stitchedSegments_read hkeyed hnumbered,
    List.map_map]
  refine List.map_congr_left fun row hrow => ?_
  rw [Rows.flagOf]
  congr 1
  · exact Pool.of_map_toId (fun s hs =>
      hnumbered.flagOfSegments s (List.mem_mergeSort.mp hs)) (hfits row hrow)
  · exact Pool.of_map_toId (fun v hv =>
      hnumbered.flagOfVariants v (List.mem_mergeSort.mp hv)) (hfits row hrow)
  · refine Pool.of_map_toId (fun t ht => ?_) (hfits row hrow)
    obtain ⟨link, hlink, heq⟩ := flagId_of_mem_tags ht
    exact heq ▸ hnumbered.flagOfLinks link hlink

/-- A fetch succeeds if all tables are there and all attachments can be read, and then it
gives the join of the tables. -/
theorem fetch_eq_ok_iff (hkeyed : db.Keyed) (hnumbered : db.Numbered) :
    db.fetch = .ok flags ↔ db.Complete ∧ (∀ row ∈ db.liveVariants, row.Legible) ∧
      flags = db.read.joined := by
  rw [fetch_eq_ok_iff_stitched, stitchedFlags_read hkeyed hnumbered]

end Join

end Database

end FeatureFlags
