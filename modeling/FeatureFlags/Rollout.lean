import FeatureFlags.Flag.Basic
import FeatureFlags.Text.CharSet

/-!
Shares of a rollout. The entities of a flag fall into buckets, each variant of a
segment owns a range of buckets as wide as its percentage, and the rollout
percentage of the segment admits the lower part of every range.
-/

namespace FeatureFlags

namespace Checksum

/-- The polynomial with its lowest power in the highest bit. -/
def polynomial : UInt32 := 0xEDB88320

def step (register : UInt32) : UInt32 :=
  if register &&& 1 = 1 then (register >>> 1) ^^^ polynomial else register >>> 1

def steps : Nat → UInt32 → UInt32
  | 0, register => register
  | n + 1, register => steps n (step register)

def absorb (register : UInt32) (byte : UInt8) : UInt32 :=
  steps 8 (register ^^^ byte.toUInt32)

def update (register : UInt32) (bytes : List UInt8) : UInt32 :=
  bytes.foldl absorb register

def start : UInt32 := 0xFFFFFFFF

def finish (register : UInt32) : UInt32 := register ^^^ 0xFFFFFFFF

def crc32 (bytes : List UInt8) : UInt32 :=
  finish (update start bytes)

theorem update_append (register : UInt32) (xs ys : List UInt8) :
    update register (xs ++ ys) = update (update register xs) ys := by
  simp [update]

end Checksum

namespace Rollout

def buckets : UInt32 := 1000

def bucketsPerPercent : UInt32 := buckets / 100

/-- The bucket of an entity: a checksum of the salt and then the entity's name. -/
def bucketOf (entityId salt : String) : UInt32 :=
  let salted := Checksum.update Checksum.start salt.toUTF8.data.toList
  Checksum.finish (Checksum.update salted entityId.toUTF8.data.toList) % buckets

/-- Whether a bucket is in the first `percent` percent of the range from `low` up to
`high`. -/
def admits (bucket low high percent : UInt32) : Bool :=
  if percent = 0 then false
  else if 100 ≤ percent then true
  else
    let offset : Int := bucket.toNat - low.toNat
    let width : Int := high.toNat - low.toNat
    100 * offset ≤ (width - 1) * percent.toNat

inductive Error where
  | percentOutOfRange (variantId : Id) (percent : UInt32)
  | totalOutOfRange
deriving DecidableEq

def Error.message : Error → String
  | percentOutOfRange variantId percent =>
    "variant " ++ toString variantId ++ " has percent " ++ toString percent ++
      ", expected at most 100"
  | totalOutOfRange => "distribution percents add up to more than 100"

inductive Decision where
  | emptyEntityId
  | closed
  | noShares
  | outside (bucket total : UInt32)
  | excluded (bucket low high : UInt32) (variantId : Id) (percent : UInt32)
  | admitted (bucket low high : UInt32) (variantId : Id) (percent : UInt32)
deriving DecidableEq

namespace Decision

def variantId? : Decision → Option Id
  | admitted _ _ _ variantId _ => some variantId
  | _ => none

/-- The place of a bucket in the range of a variant. -/
def place (bucket low high : UInt32) (variantId : Id) : String :=
  "bucket " ++ toString bucket ++ " in [" ++ toString low ++ ", " ++ toString high ++
    ") of variant " ++ toString variantId

def message : Decision → String
  | emptyEntityId => "rollout no. empty entity id"
  | closed => "rollout no. 0% rollout"
  | noShares => "rollout no. there's no distribution set"
  | outside bucket total =>
    "rollout no. bucket " ++ toString bucket ++ " is outside the distribution of " ++
      toString total ++ " buckets"
  | excluded bucket low high variantId percent =>
    "rollout no. " ++ place bucket low high variantId ++ ", outside " ++
      toString percent ++ "% rollout"
  | admitted bucket low high variantId percent =>
    "rollout yes. " ++ place bucket low high variantId ++ ", " ++ toString percent ++
      "% rollout"

end Decision

end Rollout

/-- A variant and the end of its range of buckets. The range begins where that of
the share before it ends. -/
structure Share where
  variantId : Id
  bound : UInt32
deriving DecidableEq, Inhabited

/-- The ranges of all variants of a segment, in increasing order of the variants. -/
structure Shares where
  shares : Array Share
deriving DecidableEq, Inhabited

namespace Distribution

/-- Distributions in increasing order of their variants, those of one variant in the
order in which they were given. -/
def sorted (ds : List Distribution) : List Distribution :=
  ds.mergeSort fun a b => a.variantId ≤ b.variantId

end Distribution

namespace Shares

open Rollout

/-- The ranges of sorted distributions after `total` buckets. -/
def layOut (total : UInt32) : List Distribution → Except Rollout.Error (List Share)
  | [] => .ok []
  | d :: ds =>
    if 100 < d.percent then .error (.percentOutOfRange d.variantId d.percent)
    else
      let bound := total + d.percent * bucketsPerPercent
      if buckets < bound then .error .totalOutOfRange
      else
        match layOut bound ds with
        | .ok shares => .ok (⟨d.variantId, bound⟩ :: shares)
        | .error e => .error e

def ofDistributions (ds : List Distribution) : Except Rollout.Error Shares :=
  match layOut 0 (Distribution.sorted ds) with
  | .ok shares => .ok ⟨shares.toArray⟩
  | .error e => .error e

def isEmpty (s : Shares) : Bool :=
  s.shares.isEmpty

def total (s : Shares) : UInt32 :=
  (s.shares.back?.map Share.bound).getD 0

def low (s : Shares) (index : Nat) : UInt32 :=
  match index with
  | 0 => 0
  | before + 1 => (s.shares[before]?.map Share.bound).getD 0

def decideBucket (s : Shares) (bucket percent : UInt32) : Decision :=
  if percent = 0 then .closed
  else if s.isEmpty then .noShares
  else
    let index := partitionPoint s.shares fun share => share.bound ≤ bucket
    match s.shares[index]? with
    | none => .outside bucket s.total
    | some share =>
      let low := s.low index
      if admits bucket low share.bound percent then
        .admitted bucket low share.bound share.variantId percent
      else .excluded bucket low share.bound share.variantId percent

def decideEntity (s : Shares) (entityId salt : String) (percent : UInt32) : Decision :=
  if entityId.isEmpty then .emptyEntityId
  else s.decideBucket (bucketOf entityId salt) percent

end Shares

end FeatureFlags
