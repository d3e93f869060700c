import FeatureFlags.Database.Basic

/-!
Stitching the rows of all tables together: each flag with its segments, variants and
tags, each segment with its constraints and distributions.
-/

namespace FeatureFlags.Database

/-- A number that is stored with a sign. Negative ones count as zero. -/
def toId (n : Int64) : Id :=
  if n < 0 then 0 else UInt64.ofNat n.toInt.toNat

/-- A rank or percentage. One that does not fit 32 bits counts as zero. -/
def toSmall (n : Int64) : UInt32 :=
  if n < 0 || UInt32.size ≤ n.toInt.toNat then 0 else UInt32.ofNat n.toInt.toNat

/-- The rows of all tables, as read one table after the other. -/
structure Rows where
  flags : List FlagRow
  segments : List SegmentRow
  constraints : List ConstraintRow
  distributions : List DistributionRow
  variants : List VariantRow
  tags : List LinkedTag

abbrev Pool (α : Type) := List (Id × α)

/-- Takes all that belongs to a number out of a pool. -/
def Pool.take (pool : Pool α) (owner : Id) : List α × Pool α :=
  let (mine, others) := pool.partition (·.1 == owner)
  (mine.map Prod.snd, others)

def ConstraintRow.toConstraint (row : ConstraintRow) : Constraint :=
  ⟨toId row.id, toId row.segmentId, row.property, row.operator, row.value⟩

def DistributionRow.toDistribution (row : DistributionRow) : Distribution :=
  ⟨toId row.id, toId row.segmentId, toId row.variantId, row.variantKey.getD "",
    toSmall row.percent⟩

def attachment? : Option String → Except FetchError (Option Attributes)
  | none => .ok none
  | some text =>
    match Text.trim text.toList with
    | [] => .ok none
    | trimmed =>
      match Document.Reader.attributes.run? (String.ofList trimmed) with
      | some attributes => .ok (some attributes)
      | none => .error .json

def VariantRow.toVariant (row : VariantRow) : Except FetchError Variant :=
  match attachment? row.attachment with
  | .ok attachment => .ok ⟨toId row.id, toId row.flagId, row.key, attachment⟩
  | .error e => .error e

def toVariants : List VariantRow → Except FetchError (List Variant)
  | [] => .ok []
  | row :: rows =>
    match row.toVariant with
    | .error e => .error e
    | .ok variant =>
      match toVariants rows with
      | .error e => .error e
      | .ok variants => .ok (variant :: variants)

/-- Segments with their constraints and distributions. Each takes what belongs to its
number, and leaves the rest to the others. -/
def toSegments : List SegmentRow → Pool Constraint → Pool Distribution → List Segment
  | [], _, _ => []
  | row :: rows, constraints, distributions =>
    let (ownConstraints, constraints) := constraints.take (toId row.id)
    let (ownDistributions, distributions) := distributions.take (toId row.id)
    ⟨toId row.id, toId row.flagId, row.description.getD "", toSmall row.rank,
        toSmall row.rolloutPercent, ownConstraints, ownDistributions⟩ ::
      toSegments rows constraints distributions

/-- Flags with their segments, variants and tags. An empty entity type is none. -/
def toFlags : List FlagRow → Pool Segment → Pool Variant → Pool Tag → List Flag
  | [], _, _, _ => []
  | row :: rows, segments, variants, tags =>
    let (ownSegments, segments) := segments.take (toId row.id)
    let (ownVariants, variants) := variants.take (toId row.id)
    let (ownTags, tags) := tags.take (toId row.id)
    ⟨toId row.id, row.key, row.description.getD "", row.enabled,
        row.entityType.filter (!·.isEmpty), ownSegments, ownVariants, ownTags⟩ ::
      toFlags rows segments variants tags

def Rows.stitch (rows : Rows) : Except FetchError (List Flag) :=
  let constraints := rows.constraints.map ConstraintRow.toConstraint
  let distributions := rows.distributions.map DistributionRow.toDistribution
  let segments := toSegments rows.segments (constraints.map fun c => (c.segmentId, c))
    (distributions.map fun d => (d.segmentId, d))
  match toVariants rows.variants with
  | .error e => .error e
  | .ok variants =>
    .ok (toFlags rows.flags (segments.map fun s => (s.flagId, s))
      (variants.map fun v => (v.flagId, v))
      (rows.tags.map fun t => (toId t.flagId, ⟨toId t.tag.id, t.tag.value⟩)))

/-- A fetch whose six reads see the database in these states, one after the other. -/
def fetchThrough (first second third fourth fifth sixth : Database) :
    Except FetchError (List Flag) := do
  let flags ← first.readFlags
  let segments ← second.readSegments
  let constraints ← third.readConstraints
  let distributions ← fourth.readDistributions
  let variants ← fifth.readVariants
  let tags ← sixth.readTags
  Rows.stitch { flags, segments, constraints, distributions, variants, tags }

def fetch (db : Database) : Except FetchError (List Flag) :=
  fetchThrough db db db db db db

end FeatureFlags.Database
