import FeatureFlags.Json.Basic

namespace FeatureFlags

namespace Document

/-- An exponent as written: an `e` of either case, a sign or none, and digits. -/
structure Exponent where
  mark : Char
  sign : List Char
  digits : List Char
deriving DecidableEq, Inhabited

/-- A number as written. A fraction that is present has digits. -/
structure Numeral where
  negative : Bool
  whole : List Char
  fraction : List Char
  exponent : Option Exponent
deriving DecidableEq, Inhabited

def Exponent.value (e : Exponent) : Int :=
  if e.sign = ['-'] then -Number.digitsValue e.digits else Number.digitsValue e.digits

def Exponent.characters (e : Exponent) : List Char :=
  e.mark :: e.sign ++ e.digits

def Numeral.characters (n : Numeral) : List Char :=
  (if n.negative then ['-'] else []) ++ n.whole ++
    (if n.fraction.isEmpty then [] else '.' :: n.fraction) ++
    (match n.exponent with
      | some e => e.characters
      | none => [])

def Numeral.scale (n : Numeral) : Int :=
  match n.exponent with
  | none => 0
  | some e => e.value

/-- The double that a number with a fraction, an exponent or too many digits
stands for. -/
def Numeral.real? (n : Numeral) : Option Number :=
  let (leading, left) := Number.significand 0 n.whole
  let (significand, ignored) := Number.significand leading n.fraction
  let places : Int := n.fraction.length - ignored.length
  Number.scaled? n.negative significand (left.length - places + n.scale)

def Numeral.nat? (n : Numeral) : Option Nat :=
  if n.negative || !n.fraction.isEmpty || n.exponent.isSome then none
  else some (Number.digitsValue n.whole)

/-- Integers of 64 bits stay integers, all else is a double. -/
def Numeral.numeric? (n : Numeral) : Option Json.Numeric :=
  let value := Number.digitsValue n.whole
  if n.fraction.isEmpty && n.exponent.isNone then
    if !n.negative && value < UInt64.size then some (.integer value)
    else if n.negative && 0 < value && value ≤ Nat.pow 2 63 then some (.integer (-value))
    else n.real?.map .real
  else n.real?.map .real

end Document

abbrev StringText := Option String

inductive Document where
  | null
  | bool (b : Bool)
  | number (n : Document.Numeral)
  | string (s : StringText)
  | array (items : List Document)
  | object (members : List (StringText × Document))
deriving Inhabited

namespace Document

/-- Containers that may be nested in a value that is kept. -/
def nestingLimit : Nat := 127

mutual

/-- The value of a document, none when it nests deeper than `room`, or when a
number is too large or a string is no text. -/
def toJson? (room : Nat) : Document → Option Json
  | .null => some .null
  | .bool b => some (.bool b)
  | .number n => n.numeric?.map .number
  | .string s => s.map .string
  | .array items =>
    match room with
    | 0 => none
    | room + 1 => (itemsToJson? room items).map .array
  | .object members =>
    match room with
    | 0 => none
    | room + 1 => (membersToJson? room members).map fun ms => .object (Attributes.ofList ms)

def itemsToJson? (room : Nat) : List Document → Option (List Json)
  | [] => some []
  | item :: items => do
    let first ← toJson? room item
    let rest ← itemsToJson? room items
    some (first :: rest)

def membersToJson? (room : Nat) :
    List (StringText × Document) → Option (List (String × Json))
  | [] => some []
  | (key, value) :: members => do
    let name ← key
    let first ← toJson? room value
    let rest ← membersToJson? room members
    some ((name, first) :: rest)

end

end Document

end FeatureFlags
