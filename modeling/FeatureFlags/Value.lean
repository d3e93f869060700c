import FeatureFlags.Json.Basic

namespace FeatureFlags

inductive Value where
  | text (s : String)
  | number (x : Number)
  | bool (b : Bool)
  | texts (ss : List String)
  | numbers (xs : List Number)
deriving DecidableEq, Inhabited

namespace Value

def typeName : Value → String
  | text _ => "string"
  | number _ => "number"
  | bool _ => "bool"
  | texts _ => "string array"
  | numbers _ => "number array"

def real? (j : Json) : Option Number :=
  j.numeric?.bind Json.Numeric.toNumber?

/-- The value of a JSON value. Null, objects and lists of mixed or other items have
none; the empty list is a list of texts. -/
def ofJson? : Json → Option Value
  | .string s => some (text s)
  | .number n => n.toNumber?.map number
  | .bool b => some (bool b)
  | .array items =>
    match items.mapM Json.string? with
    | some ss => some (texts ss)
    | none => (items.mapM real?).map numbers
  | .null => none
  | .object _ => none

def allNear : List Number → List Number → Bool
  | [], [] => true
  | x :: xs, y :: ys => x.near y && allNear xs ys
  | _, _ => false

/-- Values of one type that are equal, numbers up to the tolerance. -/
def looselyEquals : Value → Value → Bool
  | number x, number y => x.near y
  | numbers xs, numbers ys => allNear xs ys
  | text s, text t => s == t
  | bool a, bool b => a == b
  | texts ss, texts ts => ss == ts
  | _, _ => false

def isMemberOf : Value → Value → Bool
  | text s, texts ss => ss.contains s
  | number x, numbers xs => xs.any (·.near x)
  | _, _ => false

/-- Whether the characters occur in others one after the other. -/
def occursIn (needle : List Char) : List Char → Bool
  | [] => needle.isEmpty
  | c :: cs => needle.isPrefixOf (c :: cs) || occursIn needle cs

def contains : Value → Value → Bool
  | text s, text t => occursIn t.toList s.toList
  | container, element => element.isMemberOf container

end Value

end FeatureFlags
