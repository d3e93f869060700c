import FeatureFlags.Source

namespace FeatureFlags

namespace Database

structure FlagRow where
  id : Int64
  key : String
  description : Option String
  enabled : Bool
  entityType : Option String
  deletedAt : Option String
deriving DecidableEq

structure SegmentRow where
  id : Int64
  flagId : Int64
  description : Option String
  rank : Int64
  rolloutPercent : Int64
  deletedAt : Option String
deriving DecidableEq

structure ConstraintRow where
  id : Int64
  segmentId : Int64
  property : String
  operator : String
  value : String
  deletedAt : Option String
deriving DecidableEq

structure DistributionRow where
  id : Int64
  segmentId : Int64
  variantId : Int64
  variantKey : Option String
  percent : Int64
  deletedAt : Option String
deriving DecidableEq

structure VariantRow where
  id : Int64
  flagId : Int64
  key : String
  /-- An object as JSON text. -/
  attachment : Option String
  deletedAt : Option String
deriving DecidableEq

structure TagRow where
  id : Int64
  value : String
  deletedAt : Option String
deriving DecidableEq

structure TagLink where
  flagId : Int64
  tagId : Int64
deriving DecidableEq

/-- A tag at one of the flags that carry it. -/
structure LinkedTag where
  flagId : Int64
  tag : TagRow
deriving DecidableEq

end Database

open Database in
/-- The content of a database. A table may be missing. -/
structure Database where
  flags : Option (List FlagRow)
  segments : Option (List SegmentRow)
  constraints : Option (List ConstraintRow)
  distributions : Option (List DistributionRow)
  variants : Option (List VariantRow)
  tags : Option (List TagRow)
  tagLinks : Option (List TagLink)
deriving DecidableEq

namespace Database

def empty : Database :=
  ⟨none, none, none, none, none, none, none⟩

def table (name : String) : Option (List α) → Except FetchError (List α)
  | some rows => .ok rows
  | none => .error (.database ("no such table: " ++ name))

def live (deletedAt : α → Option String) (le : α → α → Bool) (rows : List α) : List α :=
  (rows.filter fun row => (deletedAt row).isNone).mergeSort le

def readFlags (db : Database) : Except FetchError (List FlagRow) := do
  return live FlagRow.deletedAt (fun a b => a.id ≤ b.id) (← table "flags" db.flags)

/-- Segments by rank and number. -/
def readSegments (db : Database) : Except FetchError (List SegmentRow) := do
  return live SegmentRow.deletedAt
    (fun a b => a.rank < b.rank || (a.rank == b.rank && a.id ≤ b.id))
    (← table "segments" db.segments)

def readConstraints (db : Database) : Except FetchError (List ConstraintRow) := do
  return live ConstraintRow.deletedAt (fun a b => a.id ≤ b.id)
    (← table "constraints" db.constraints)

def readDistributions (db : Database) : Except FetchError (List DistributionRow) := do
  return live DistributionRow.deletedAt (fun a b => a.variantId ≤ b.variantId)
    (← table "distributions" db.distributions)

def readVariants (db : Database) : Except FetchError (List VariantRow) := do
  return live VariantRow.deletedAt (fun a b => a.id ≤ b.id) (← table "variants" db.variants)

/-- Tags by number, each at every flag that carries it. -/
def readTags (db : Database) : Except FetchError (List LinkedTag) := do
  let tags ← table "tags" db.tags
  let links ← table "flags_tags" db.tagLinks
  return (live TagRow.deletedAt (fun a b => a.id ≤ b.id) tags).flatMap fun tag =>
    (links.filter (·.tagId == tag.id)).map fun link => ⟨link.flagId, tag⟩

end Database

end FeatureFlags
