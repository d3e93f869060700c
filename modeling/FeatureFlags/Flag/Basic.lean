import FeatureFlags.Json.Basic
import FeatureFlags.Text.Class

namespace FeatureFlags

/-- Flags, segments, variants and the rest have numbers of 64 bits. -/
abbrev Id := UInt64

structure Constraint where
  id : Id
  segmentId : Id
  property : String
  operator : String
  value : String
deriving DecidableEq, Inhabited

structure Distribution where
  id : Id
  segmentId : Id
  variantId : Id
  variantKey : String
  percent : UInt32
deriving DecidableEq, Inhabited

/-- Entities that meet all constraints; the lower ranks are tried first. -/
structure Segment where
  id : Id
  flagId : Id
  description : String
  rank : UInt32
  rolloutPercent : UInt32
  constraints : List Constraint
  distributions : List Distribution
deriving DecidableEq, Inhabited

structure Variant where
  id : Id
  flagId : Id
  key : String
  attachment : Option Attributes
deriving BEq, Inhabited

structure Tag where
  id : Id
  value : String
deriving DecidableEq, Inhabited

structure Flag where
  id : Id
  key : String
  description : String
  enabled : Bool
  /-- Takes the place of the entity type of every context. -/
  entityType : Option String
  segments : List Segment
  variants : List Variant
  tags : List Tag
deriving BEq, Inhabited

/-- An entity and what is known of it, with the flag that is asked for. -/
structure Context where
  entityId : String
  entityType : String
  attributes : Attributes
  debug : Bool
  flagId : Option Id
  flagKey : Option String
deriving BEq, Inhabited

namespace Context

def ofEntity (entityId : String) : Context :=
  ⟨entityId, "", [], false, none, none⟩

def withAttribute (c : Context) (key : String) (value : Json) : Context :=
  { c with attributes := c.attributes.insert key value }

end Context

inductive FlagRef where
  | id (n : Id)
  | key (k : String)
deriving DecidableEq

namespace FlagRef

/-- A number of 64 bits written in digits, with at most a plus sign before them. -/
def id? (s : String) : Option Id :=
  let digits := match s.toList with
    | '+' :: cs => cs
    | cs => cs
  if !digits.isEmpty && digits.all Char.isDigit && Number.digitsValue digits < UInt64.size then
    some (UInt64.ofNat (Number.digitsValue digits))
  else none

/-- A text that spells a number refers to a flag by number, any other by key. -/
def parse (s : String) : FlagRef :=
  match id? s with
  | some n => .id n
  | none => .key s

def text : FlagRef → String
  | id n => toString n
  | key k => Text.quote k

end FlagRef

end FeatureFlags
