import FeatureFlags.Json.Parser

/-!
Records as JSON. A record is written as an object of its fields in their order. It is
read from an object that has each field at most once, whatever else it has, or from an
array of the fields in their order.
-/

namespace FeatureFlags

namespace Document

/-- Reads a document in which a number of containers may be nested. -/
abbrev Reader (α : Type) := Nat → Document → Option α

namespace Reader

def text : Reader String
  | _, .string s => s
  | _, _ => none

/-- A string, or the spelling of a scalar that is written without quotes. -/
def scalarText : Reader String
  | _, .string s => s
  | _, .number n => some (String.ofList n.characters)
  | _, .bool true => some "true"
  | _, .bool false => some "false"
  | _, .null => some "null"
  | _, _ => none

def bool : Reader Bool
  | _, .bool b => some b
  | _, _ => none

def natBelow (bound : Nat) : Reader Nat
  | _, .number n => n.nat?.bind fun value => if value < bound then some value else none
  | _, _ => none

def uint64 : Reader UInt64 :=
  fun room d => (natBelow UInt64.size room d).map UInt64.ofNat

def uint32 : Reader UInt32 :=
  fun room d => (natBelow UInt32.size room d).map UInt32.ofNat

def uint16 : Reader UInt16 :=
  fun room d => (natBelow UInt16.size room d).map UInt16.ofNat

/-- Null is the absent value. -/
def optional (read : Reader α) : Reader (Option α)
  | _, .null => some none
  | room, d => (read room d).map some

def list (read : Reader α) : Reader (List α)
  | room + 1, .array items => items.mapM (read room)
  | _, _ => none

def attributes : Reader Attributes
  | room + 1, .object members => (membersToJson? room members).map Attributes.ofList
  | _, _ => none

def name (choose : String → Option α) : Reader α
  | _, .string s => s.bind choose
  | _, _ => none

/-- A value given by its name alone, or by an object of its name and null. -/
def named (choose : String → Option α) : Reader α
  | _, .string s => s.bind choose
  | _ + 1, .object [(key, .null)] => key.bind choose
  | _, _ => none

end Reader

/-- The documents of the fields of a record, and the room in each. -/
structure Fields where
  room : Nat
  /-- Whether the fields were given in their order and without names. -/
  positional : Bool
  cells : List (String × Document)

namespace Fields

def ofMembers? (names : List String) :
    List (StringText × Document) → Option (List (String × Document))
  | [] => some []
  | (none, _) :: _ => none
  | (some key, d) :: members =>
    match ofMembers? names members with
    | none => none
    | some cells =>
      if names.contains key then
        if cells.any (·.1 == key) then none else some ((key, d) :: cells)
      else some cells

def ofDocument? (names : List String) (room : Nat) : Document → Option Fields
  | .array items =>
    if items.length ≤ names.length then some ⟨room, true, names.zip items⟩ else none
  | .object members => (ofMembers? names members).map (⟨room, false, ·⟩)
  | _ => none

def find? (f : Fields) (name : String) : Option Document :=
  (f.cells.find? (·.1 == name)).map (·.2)

def required (f : Fields) (name : String) (read : Reader α) : Option α :=
  (f.find? name).bind (read f.room)

def withDefault (f : Fields) (name : String) (read : Reader α) (default : α) : Option α :=
  match f.find? name with
  | some d => read f.room d
  | none => some default

/-- A field that may be left out where fields have names. -/
def optional (f : Fields) (name : String) (read : Reader α) : Option (Option α) :=
  match f.find? name with
  | some d => Reader.optional read f.room d
  | none => if f.positional then none else some none

end Fields

/-- Reads a record with fields of the given names, in their order. -/
def Reader.record (names : List String) (build : Fields → Option α) : Reader α
  | room + 1, d => (Fields.ofDocument? names room d).bind build
  | 0, _ => none

def Reader.noFields (value : α) : Reader α
  | _, .array [] => some value
  | _, .object _ => some value
  | _, _ => none

/-- The tag of a record, and the record without it. A name that is no text, a second
tag and a value that cannot be kept are refused. -/
def takeTag (tag : String) (room : Nat) :
    List (StringText × Document) → Option (Option String × List (StringText × Document))
  | [] => some (none, [])
  | (key, d) :: members => do
    let name ← key
    let (found, rest) ← takeTag tag room members
    if name = tag then
      if found.isSome then none else some (some (← Reader.text room d), rest)
    else
      let _ ← d.toJson? room
      some (found, (key, d) :: rest)

/-- Reads one of several records. A tag tells which: a member, or the first item of an
array. -/
def Reader.tagged (tag : String) (choose : String → Option (Reader α)) : Reader α
  | room + 1, .object members => do
    let (found, rest) ← takeTag tag room members
    let read ← choose (← found)
    read (room + 1) (.object rest)
  | room + 1, .array (first :: rest) => do
    let read ← choose (← Reader.text room first)
    let _ ← itemsToJson? room rest
    read (room + 1) (.array rest)
  | _, _ => none

def Reader.run? (read : Reader α) (s : String) : Option α :=
  (parse? s).bind (read nestingLimit)

end Document

namespace Json

def record (fields : List (String × Option Json)) : Json :=
  .object (fields.filterMap fun (name, value) => value.map (name, ·))

end Json

end FeatureFlags
