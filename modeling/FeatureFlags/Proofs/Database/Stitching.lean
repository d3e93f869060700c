import FeatureFlags.Proofs.Database.Rows
import FeatureFlags.Proofs.Pairing

namespace FeatureFlags

namespace Database

section Stitching

def SegmentRow.segment (row : SegmentRow) (constraints : List Constraint)
    (distributions : List Distribution) : Segment :=
  ⟨toId row.id, toId row.flagId, row.description.getD "", toSmall row.rank,
    toSmall row.rolloutPercent, constraints, distributions⟩

def FlagRow.flag (row : FlagRow) (segments : List Segment) (variants : List Variant)
    (tags : List Tag) : Flag :=
  ⟨toId row.id, row.key, row.description.getD "", row.enabled,
    row.entityType.filter (!·.isEmpty), segments, variants, tags⟩

def TagRow.toTag (row : TagRow) : Tag :=
  ⟨toId row.id, row.value⟩

/-- The variant of a row, without attachment if that cannot be read. -/
def VariantRow.variant (row : VariantRow) : Variant :=
  ⟨toId row.id, toId row.flagId, row.key, (attachment? row.attachment).toOption.join⟩

/-- The attachment can be read, or there is none. -/
def VariantRow.Legible (row : VariantRow) : Prop :=
  ∃ attachment, attachment? row.attachment = .ok attachment

theorem VariantRow.toVariant_eq_ok_iff {row : VariantRow} {v : Variant} :
    row.toVariant = .ok v ↔ row.Legible ∧ v = row.variant := by
  unfold toVariant Legible variant
  cases attachment? row.attachment with
  | error e => simp
  | ok attachment => simp [Except.toOption, eq_comm]

theorem toVariants_eq_ok_iff_forall₂ {rows : List VariantRow} {variants : List Variant} :
    toVariants rows = .ok variants ↔
      List.Forall₂ (fun row v => row.toVariant = .ok v) rows variants := by
  induction rows generalizing variants with
  | nil => simp [toVariants, eq_comm]
  | cons row rows ih =>
      rw [List.forall₂_cons_left_iff, toVariants]
      simp only [← ih]
      cases row.toVariant with
      | error e => simp
      | ok variant =>
          cases toVariants rows with
          | error e => simp
          | ok others => simp [eq_comm]

theorem toVariants_eq_ok_iff {rows : List VariantRow} {variants : List Variant} :
    toVariants rows = .ok variants ↔
      (∀ row ∈ rows, row.Legible) ∧ variants = rows.map VariantRow.variant := by
  rw [toVariants_eq_ok_iff_forall₂]
  simp only [VariantRow.toVariant_eq_ok_iff, eq_comm (b := VariantRow.variant _)]
  rw [List.forall₂_and_left, ← List.forall₂_map_left_iff, List.forall₂_eq_eq_eq, eq_comm]

/-- The segments of all rows, with what belongs to them. -/
def Rows.stitchedSegments (rows : Rows) : List Segment :=
  toSegments rows.segments
    (rows.constraints.map fun row => (toId row.segmentId, row.toConstraint))
    (rows.distributions.map fun row => (toId row.segmentId, row.toDistribution))

/-- The flags of all rows, as if all attachments could be read. -/
def Rows.stitchedFlags (rows : Rows) : List Flag :=
  toFlags rows.flags (rows.stitchedSegments.map fun s => (s.flagId, s))
    (rows.variants.map fun row => (toId row.flagId, row.variant))
    (rows.tags.map fun linked => (toId linked.flagId, linked.tag.toTag))

theorem Rows.stitch_eq_ok_iff {rows : Rows} {flags : List Flag} :
    rows.stitch = .ok flags ↔
      (∀ row ∈ rows.variants, row.Legible) ∧ flags = rows.stitchedFlags := by
  have hlegible : (∀ row ∈ rows.variants, row.Legible) ↔
      ∃ variants, toVariants rows.variants = .ok variants := by
    simp [toVariants_eq_ok_iff]
  rw [stitch, List.map_map, List.map_map, hlegible]
  cases hvariants : toVariants rows.variants with
  | error e => simp
  | ok variants =>
      obtain ⟨-, rfl⟩ := toVariants_eq_ok_iff.mp hvariants
      dsimp only
      rw [List.map_map, stitchedFlags, Except.ok.injEq, eq_comm]
      exact (and_iff_right ⟨_, rfl⟩).symm

theorem toSegments_cons (row : SegmentRow) (rows : List SegmentRow)
    (constraints : Pool Constraint) (distributions : Pool Distribution) :
    toSegments (row :: rows) constraints distributions =
      row.segment (constraints.take (toId row.id)).1 (distributions.take (toId row.id)).1 ::
        toSegments rows (constraints.take (toId row.id)).2
          (distributions.take (toId row.id)).2 := rfl

theorem toFlags_cons (row : FlagRow) (rows : List FlagRow) (segments : Pool Segment)
    (variants : Pool Variant) (tags : Pool Tag) :
    toFlags (row :: rows) segments variants tags =
      row.flag (segments.take (toId row.id)).1 (variants.take (toId row.id)).1
          (tags.take (toId row.id)).1 ::
        toFlags rows (segments.take (toId row.id)).2 (variants.take (toId row.id)).2
          (tags.take (toId row.id)).2 := rfl

end Stitching

section Contents

def present {α : Type} (deletedAt : α → Option String) (table : Option (List α)) : List α :=
  (table.getD []).filter fun row => (deletedAt row).isNone

variable (db : Database)

def liveFlags : List FlagRow :=
  present FlagRow.deletedAt db.flags

def liveSegments : List SegmentRow :=
  present SegmentRow.deletedAt db.segments

def liveConstraints : List ConstraintRow :=
  present ConstraintRow.deletedAt db.constraints

def liveDistributions : List DistributionRow :=
  present DistributionRow.deletedAt db.distributions

def liveVariants : List VariantRow :=
  present VariantRow.deletedAt db.variants

def liveTags : List TagRow :=
  present TagRow.deletedAt db.tags

def links : List TagLink :=
  db.tagLinks.getD []

@[mk_iff]
structure Complete : Prop where
  flags : db.flags.isSome
  segments : db.segments.isSome
  constraints : db.constraints.isSome
  distributions : db.distributions.isSome
  variants : db.variants.isSome
  tags : db.tags.isSome
  tagLinks : db.tagLinks.isSome

/-- Whether a segment is read before another: by rank, then by number. -/
def SegmentRow.before (a b : SegmentRow) : Bool :=
  a.rank < b.rank || (a.rank == b.rank && a.id ≤ b.id)

def read : Rows where
  flags := db.liveFlags.mergeSort fun a b => a.id ≤ b.id
  segments := db.liveSegments.mergeSort SegmentRow.before
  constraints := db.liveConstraints.mergeSort fun a b => a.id ≤ b.id
  distributions := db.liveDistributions.mergeSort fun a b => a.variantId ≤ b.variantId
  variants := db.liveVariants.mergeSort fun a b => a.id ≤ b.id
  tags := (db.liveTags.mergeSort fun a b => a.id ≤ b.id).flatMap fun tag =>
    (db.links.filter (·.tagId == tag.id)).map fun link => ⟨link.flagId, tag⟩

variable {db}

theorem fetch_of_complete (h : db.Complete) : db.fetch = db.read.stitch := by
  obtain ⟨flags, segments, constraints, distributions, variants, tags, tagLinks⟩ := db
  obtain ⟨flags, rfl⟩ := Option.isSome_iff_exists.mp h.flags
  obtain ⟨segments, rfl⟩ := Option.isSome_iff_exists.mp h.segments
  obtain ⟨constraints, rfl⟩ := Option.isSome_iff_exists.mp h.constraints
  obtain ⟨distributions, rfl⟩ := Option.isSome_iff_exists.mp h.distributions
  obtain ⟨variants, rfl⟩ := Option.isSome_iff_exists.mp h.variants
  obtain ⟨tags, rfl⟩ := Option.isSome_iff_exists.mp h.tags
  obtain ⟨tagLinks, rfl⟩ := Option.isSome_iff_exists.mp h.tagLinks
  rfl

theorem complete_of_fetch {flags : List Flag} (h : db.fetch = .ok flags) : db.Complete := by
  obtain ⟨flags, segments, constraints, distributions, variants, tags, tagLinks⟩ := db
  rcases flags with _ | flags <;> [cases h; skip]
  rcases segments with _ | segments <;> [cases h; skip]
  rcases constraints with _ | constraints <;> [cases h; skip]
  rcases distributions with _ | distributions <;> [cases h; skip]
  rcases variants with _ | variants <;> [cases h; skip]
  rcases tags with _ | tags <;> [cases h; skip]
  rcases tagLinks with _ | tagLinks <;> [cases h; skip]
  exact ⟨rfl, rfl, rfl, rfl, rfl, rfl, rfl⟩

theorem fetch_eq_ok_iff_stitched {flags : List Flag} :
    db.fetch = .ok flags ↔
      db.Complete ∧ (∀ row ∈ db.liveVariants, row.Legible) ∧ flags = db.read.stitchedFlags := by
  have hlegible : (∀ row ∈ db.read.variants, row.Legible) ↔
      ∀ row ∈ db.liveVariants, row.Legible := by
    simp only [read, List.mem_mergeSort]
  rw [← hlegible, ← Rows.stitch_eq_ok_iff]
  constructor
  · intro h
    have hcomplete := complete_of_fetch h
    exact ⟨hcomplete, fetch_of_complete hcomplete ▸ h⟩
  · rintro ⟨hcomplete, h⟩
    rw [fetch_of_complete hcomplete, h]

end Contents

section Order

variable {ρ : Type} (key : ρ → Int64)

theorem key_le_trans (a b c : ρ) (hab : decide (key a ≤ key b)) (hbc : decide (key b ≤ key c)) :
    decide (key a ≤ key c) := by
  simp only [decide_eq_true_eq] at *
  exact Int64.le_trans hab hbc

theorem key_le_total (a b : ρ) : decide (key a ≤ key b) || decide (key b ≤ key a) := by
  simp only [Bool.or_eq_true, decide_eq_true_eq]
  exact Int64.le_total (key a) (key b)

namespace SegmentRow

theorem before_iff {a b : SegmentRow} : a.before b ↔
    a.rank.toInt < b.rank.toInt ∨ a.rank.toInt = b.rank.toInt ∧ a.id.toInt ≤ b.id.toInt := by
  simp only [before, Bool.or_eq_true, decide_eq_true_eq, Bool.and_eq_true, beq_iff_eq,
    Int64.lt_iff_toInt_lt, ← Int64.toInt_inj, Int64.le_iff_toInt_le]

theorem before_trans (a b c : SegmentRow) (hab : a.before b) (hbc : b.before c) :
    a.before c := by
  rw [before_iff] at *
  omega

theorem before_total (a b : SegmentRow) : a.before b || b.before a := by
  rw [Bool.or_eq_true, before_iff, before_iff]
  omega

end SegmentRow

end Order

section Origin

variable (told : Telling) (db : Database) (fetched : List Flag)

/-- All that is in the flags comes from rows that are not deleted. -/
structure Made : Prop where
  flags : ∀ f ∈ fetched, ∃ row ∈ db.liveFlags, row.Tells told f
  segments : ∀ f ∈ fetched, ∀ s ∈ f.segments, ∃ row ∈ db.liveSegments, row.Tells told s
  constraints : ∀ f ∈ fetched, ∀ s ∈ f.segments, ∀ c ∈ s.constraints,
    ∃ row ∈ db.liveConstraints, row.Tells told c
  distributions : ∀ f ∈ fetched, ∀ s ∈ f.segments, ∀ d ∈ s.distributions,
    ∃ row ∈ db.liveDistributions, row.Tells told d
  variants : ∀ f ∈ fetched, ∀ v ∈ f.variants, ∃ row ∈ db.liveVariants, row.Tells told v
  tags : ∀ f ∈ fetched, ∀ t ∈ f.tags, ∃ row ∈ db.liveTags, row.Tells told t

variable {db fetched}

theorem SegmentRow.tells_segment (row : SegmentRow) (constraints : List Constraint)
    (distributions : List Distribution) :
    row.Tells Clipped (row.segment constraints distributions) :=
  ⟨clipped_toId _, clipped_toId _, rfl, clipped_toSmall _, clipped_toSmall _⟩

theorem FlagRow.tells_flag (row : FlagRow) (segments : List Segment) (variants : List Variant)
    (tags : List Tag) : row.Tells Clipped (row.flag segments variants tags) :=
  ⟨clipped_toId _, rfl, rfl, rfl, rfl⟩

theorem ConstraintRow.tells_toConstraint (row : ConstraintRow) :
    row.Tells Clipped row.toConstraint :=
  ⟨clipped_toId _, clipped_toId _, rfl, rfl, rfl⟩

theorem DistributionRow.tells_toDistribution (row : DistributionRow) :
    row.Tells Clipped row.toDistribution :=
  ⟨clipped_toId _, clipped_toId _, clipped_toId _, rfl, clipped_toSmall _⟩

theorem VariantRow.tells_variant {row : VariantRow} (h : row.Legible) :
    row.Tells Clipped row.variant := by
  obtain ⟨attachment, hattachment⟩ := h
  refine ⟨clipped_toId _, clipped_toId _, rfl, attachment?_eq_ok_iff.mp ?_⟩
  rw [variant, hattachment]
  rfl

theorem TagRow.tells_toTag (row : TagRow) : row.Tells Clipped row.toTag :=
  ⟨clipped_toId _, rfl⟩

theorem Pool.take_subset (pool : Pool α) (owner : Id) :
    (pool.take owner).1 ⊆ pool.map Prod.snd ∧
      (pool.take owner).2.map Prod.snd ⊆ pool.map Prod.snd := by
  simp only [take, List.partition_eq_filter_filter]
  exact ⟨(List.filter_sublist.map _).subset, (List.filter_sublist.map _).subset⟩

theorem exists_of_mem_toSegments {rows : List SegmentRow} {constraints : Pool Constraint}
    {distributions : Pool Distribution} {s : Segment}
    (h : s ∈ toSegments rows constraints distributions) :
    (∃ row ∈ rows, row.Tells Clipped s) ∧ s.constraints ⊆ constraints.map Prod.snd ∧
      s.distributions ⊆ distributions.map Prod.snd := by
  induction rows generalizing constraints distributions with
  | nil => cases h
  | cons row rows ih =>
      obtain ⟨hconstraints, hotherConstraints⟩ := constraints.take_subset (toId row.id)
      obtain ⟨hdistributions, hotherDistributions⟩ := distributions.take_subset (toId row.id)
      rw [toSegments_cons] at h
      rcases List.mem_cons.mp h with rfl | h
      · exact ⟨⟨row, by simp, row.tells_segment _ _⟩, hconstraints, hdistributions⟩
      · obtain ⟨⟨other, hother, htells⟩, hcs, hds⟩ := ih h
        exact ⟨⟨other, by simp [hother], htells⟩, List.Subset.trans hcs hotherConstraints,
          List.Subset.trans hds hotherDistributions⟩

theorem exists_of_mem_toFlags {rows : List FlagRow} {segments : Pool Segment}
    {variants : Pool Variant} {tags : Pool Tag} {f : Flag}
    (h : f ∈ toFlags rows segments variants tags) :
    (∃ row ∈ rows, row.Tells Clipped f) ∧ f.segments ⊆ segments.map Prod.snd ∧
      f.variants ⊆ variants.map Prod.snd ∧ f.tags ⊆ tags.map Prod.snd := by
  induction rows generalizing segments variants tags with
  | nil => cases h
  | cons row rows ih =>
      obtain ⟨hsegments, hotherSegments⟩ := segments.take_subset (toId row.id)
      obtain ⟨hvariants, hotherVariants⟩ := variants.take_subset (toId row.id)
      obtain ⟨htags, hotherTags⟩ := tags.take_subset (toId row.id)
      rw [toFlags_cons] at h
      rcases List.mem_cons.mp h with rfl | h
      · exact ⟨⟨row, by simp, row.tells_flag _ _ _⟩, hsegments, hvariants, htags⟩
      · obtain ⟨⟨other, hother, htells⟩, hss, hvs, hts⟩ := ih h
        exact ⟨⟨other, by simp [hother], htells⟩, List.Subset.trans hss hotherSegments,
          List.Subset.trans hvs hotherVariants, List.Subset.trans hts hotherTags⟩

theorem made_of_fetch (h : db.fetch = .ok fetched) : Made Clipped db fetched := by
  obtain ⟨-, hlegible, rfl⟩ := fetch_eq_ok_iff_stitched.mp h
  have hsegments : ∀ f ∈ db.read.stitchedFlags, ∀ s ∈ f.segments,
      s ∈ db.read.stitchedSegments := by
    intro f hf s hs
    have hmem := (exists_of_mem_toFlags hf).2.1 hs
    rwa [List.map_map, Function.comp_def, List.map_id'] at hmem
  refine ⟨?_, ?_, ?_, ?_, ?_, ?_⟩
  · intro f hf
    obtain ⟨row, hrow, htells⟩ := (exists_of_mem_toFlags hf).1
    exact ⟨row, List.mem_mergeSort.mp hrow, htells⟩
  · intro f hf s hs
    obtain ⟨row, hrow, htells⟩ := (exists_of_mem_toSegments (hsegments f hf s hs)).1
    exact ⟨row, List.mem_mergeSort.mp hrow, htells⟩
  · intro f hf s hs c hc
    have hmem := (exists_of_mem_toSegments (hsegments f hf s hs)).2.1 hc
    rw [List.map_map] at hmem
    obtain ⟨row, hrow, rfl⟩ := List.mem_map.mp hmem
    exact ⟨row, List.mem_mergeSort.mp hrow, row.tells_toConstraint⟩
  · intro f hf s hs d hd
    have hmem := (exists_of_mem_toSegments (hsegments f hf s hs)).2.2 hd
    rw [List.map_map] at hmem
    obtain ⟨row, hrow, rfl⟩ := List.mem_map.mp hmem
    exact ⟨row, List.mem_mergeSort.mp hrow, row.tells_toDistribution⟩
  · intro f hf v hv
    have hmem := (exists_of_mem_toFlags hf).2.2.1 hv
    rw [List.map_map] at hmem
    obtain ⟨row, hrow, rfl⟩ := List.mem_map.mp hmem
    have hlive := List.mem_mergeSort.mp hrow
    exact ⟨row, hlive, VariantRow.tells_variant (hlegible row hlive)⟩
  · intro f hf t ht
    have hmem := (exists_of_mem_toFlags hf).2.2.2 ht
    rw [List.map_map] at hmem
    obtain ⟨linked, hlinked, rfl⟩ := List.mem_map.mp hmem
    obtain ⟨row, hrow, hlinked⟩ := List.mem_flatMap.mp hlinked
    obtain ⟨link, -, rfl⟩ := List.mem_map.mp hlinked
    exact ⟨row, List.mem_mergeSort.mp hrow, row.tells_toTag⟩

end Origin

end Database

end FeatureFlags
