import FeatureFlags.Flag.Prepared
import Std.Data.TreeMap.Basic

/-!
Snapshots: all flags of one refresh, found by number, by key and by tag.
-/

namespace FeatureFlags

abbrev FlagIndex := Std.TreeMap Id PreparedFlag

structure CompileError where
  flagId : Id
  flagKey : String
  cause : PrepareError

def CompileError.message (e : CompileError) : String :=
  "failed to prepare flag " ++ toString e.flagId ++ " (" ++ e.flagKey ++ "): " ++
    e.cause.message

structure KeyTaken where
  flagKey : String
  flagId : Id
  previousFlagId : Id
deriving DecidableEq

inductive TagOperator where
  | any
  | all
deriving DecidableEq, Inhabited

structure Snapshot where
  /-- The number of the refresh, zero before the first. In memory it has 64 bits, which are
  enough for the first `2 ^ 64 - 1` refreshes that fetch. -/
  generation : Nat
  byId : FlagIndex
  byKey : Std.TreeMap String PreparedFlag
  byTag : Std.TreeMap String FlagIndex

namespace Snapshot

variable [PatternEngine]

def empty (generation : Nat) : Snapshot :=
  ⟨generation, ∅, ∅, ∅⟩

def tagged (s : Snapshot) (tag : String) : FlagIndex :=
  (s.byTag[tag]?).getD ∅

def addTag (f : PreparedFlag) (index : Std.TreeMap String FlagIndex) (tag : Tag) :
    Std.TreeMap String FlagIndex :=
  index.insert tag.value (((index[tag.value]?).getD ∅).insert f.flag.id f)

/-- Adds a flag to the three indexes. It takes the place of an earlier one of the same
number, and the key of an earlier one of the same key. A flag without key is not found
by key. -/
def insert (s : Snapshot) (f : PreparedFlag) : Snapshot :=
  { s with
    byId := s.byId.insert f.flag.id f
    byKey := if f.flag.key.isEmpty then s.byKey else s.byKey.insert f.flag.key f
    byTag := f.flag.tags.foldl (addTag f) s.byTag }

/-- The flag that loses its key when a flag is added. -/
def keyTaken? (s : Snapshot) (f : PreparedFlag) : Option KeyTaken :=
  if f.flag.key.isEmpty then none
  else (s.byKey[f.flag.key]?).map fun previous => ⟨f.flag.key, f.flag.id, previous.flag.id⟩

/-- Prepares and adds flags up to the first that cannot be prepared, and tells which
keys were taken. -/
def addAll (s : Snapshot) : List Flag → List KeyTaken × Except CompileError Snapshot
  | [] => ([], .ok s)
  | flag :: flags =>
    match PreparedFlag.prepare flag with
    | .error e => ([], .error ⟨flag.id, flag.key, e⟩)
    | .ok f =>
      let (taken, result) := addAll (s.insert f) flags
      ((s.keyTaken? f).toList ++ taken, result)

def build (flags : List Flag) (generation : Nat) :
    List KeyTaken × Except CompileError Snapshot :=
  (empty generation).addAll flags

def isLoaded (s : Snapshot) : Bool :=
  0 < s.generation

def size (s : Snapshot) : Nat :=
  s.byId.size

def get? (s : Snapshot) : FlagRef → Option PreparedFlag
  | .id id => s.byId[id]?
  | .key key => s.byKey[key]?

def taggedAny (s : Snapshot) (tags : List String) : FlagIndex :=
  tags.foldl (fun found tag => found ∪ s.tagged tag) ∅

/-- Flags that carry every tag. No tags are carried by no flag. -/
def taggedAll (s : Snapshot) : List String → FlagIndex
  | [] => ∅
  | tag :: tags =>
    tags.foldl (fun found tag => found.filter fun id _ => (s.tagged tag).contains id)
      (s.tagged tag)

/-- The flags that match the tags, in order of their numbers. -/
def getByTags (s : Snapshot) (tags : List String) (op : TagOperator) : List PreparedFlag :=
  match op with
  | .any => (s.taggedAny tags).values
  | .all => (s.taggedAll tags).values

def flags (s : Snapshot) : List Flag :=
  s.byId.values.map PreparedFlag.flag

end Snapshot

namespace Context

/-- The flag that a context asks for: by number, or else by a key that is not empty. -/
def flagRef? (c : Context) : Option FlagRef :=
  match c.flagId, c.flagKey with
  | some id, _ => some (.id id)
  | none, some key => if key.isEmpty then none else some (.key key)
  | none, none => none

end Context

namespace Snapshot

variable [PatternEngine]

def evaluate (s : Snapshot) (c : Context) : Except EvalError EvalResult :=
  match c.flagRef? with
  | none => .error (.emptyContext "flag id or flag key")
  | some ref =>
    match s.get? ref with
    | none => .error (.flagNotFound ref)
    | some f => f.evaluate c

end Snapshot

end FeatureFlags
