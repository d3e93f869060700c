import FeatureFlags.Number.Reading

namespace FeatureFlags

namespace Json

/-- A number is an integer of 64 bits, signed or not, or else a double. -/
inductive Numeric where
  | integer (n : Int)
  | real (x : Number)
deriving DecidableEq, Inhabited

def Numeric.toNumber? : Numeric → Option Number
  | .integer n => Number.ofInt? n
  | .real x => some x

end Json

inductive Json where
  | null
  | bool (b : Bool)
  | number (n : Json.Numeric)
  | string (s : String)
  | array (items : List Json)
  | object (members : List (String × Json))
deriving Inhabited

namespace Json

mutual

def beq : Json → Json → Bool
  | .null, .null => true
  | .bool a, .bool b => a == b
  | .number a, .number b => a == b
  | .string a, .string b => a == b
  | .array as, .array bs => beqItems as bs
  | .object as, .object bs => beqMembers as bs
  | _, _ => false

def beqItems : List Json → List Json → Bool
  | [], [] => true
  | a :: as, b :: bs => beq a b && beqItems as bs
  | _, _ => false

def beqMembers : List (String × Json) → List (String × Json) → Bool
  | [], [] => true
  | (k, a) :: as, (l, b) :: bs => k == l && beq a b && beqMembers as bs
  | _, _ => false

end

instance : BEq Json := ⟨beq⟩

def isString : Json → Bool
  | .string _ => true
  | _ => false

def isNumber : Json → Bool
  | .number _ => true
  | _ => false

def string? : Json → Option String
  | .string s => some s
  | _ => none

def numeric? : Json → Option Numeric
  | .number n => some n
  | _ => none

def nat (n : Nat) : Json :=
  .number (.integer n)

def ofOption (f : α → Json) : Option α → Json
  | some a => f a
  | none => .null

end Json

/-- The members of an object, in increasing order of their names. -/
abbrev Attributes := List (String × Json)

namespace Attributes

/-- Adds a member, replacing one of the same name. -/
def insert (key : String) (value : Json) : Attributes → Attributes
  | [] => [(key, value)]
  | (k, v) :: rest =>
    if key < k then (key, value) :: (k, v) :: rest
    else if key = k then (key, value) :: rest
    else (k, v) :: insert key value rest

/-- Of several members of one name the last counts. -/
def ofList (members : List (String × Json)) : Attributes :=
  members.foldl (fun attributes (k, v) => insert k v attributes) []

def get? (attributes : Attributes) (key : String) : Option Json :=
  (attributes.find? (·.1 == key)).map (·.2)

end Attributes

end FeatureFlags
