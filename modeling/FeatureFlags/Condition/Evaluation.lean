import FeatureFlags.Condition.Basic

/-!
Evaluating conditions in a context.
-/

namespace FeatureFlags

inductive EvaluationError where
  | emptyEntityId
  | missingProperty (name : String)
  | unsupportedType (name : String)
  | typeMismatch (operator : Operator) (left right : String)
  | invalidPattern (pattern : String) (reason : PatternError)
deriving DecidableEq

namespace EvaluationError

def message : EvaluationError → String
  | emptyEntityId => "entity id is empty"
  | missingProperty name =>
    "property " ++ Text.quote name ++ " is not present in the entity context"
  | unsupportedType name =>
    "property " ++ Text.quote name ++ " has a value of unsupported type"
  | typeMismatch op left right => op.name ++ " cannot compare " ++ left ++ " with " ++ right
  | invalidPattern pattern reason =>
    "invalid pattern " ++ Text.quote pattern ++ ": " ++ reason.message

end EvaluationError

namespace Attributes

/-- Goes down through nested objects along the names. -/
def descend (value : Json) : List (List Char) → Option Json
  | [] => some value
  | name :: names =>
    match value with
    | .object members =>
      match Attributes.get? members (String.ofList name) with
      | some inner => descend inner names
      | none => none
    | _ => none

/-- The attribute of the exact name, or else the value at the end of a dotted
path. -/
def lookup (attributes : Attributes) (property : String) : Option Json :=
  match attributes.get? property with
  | some value => some value
  | none =>
    if property.toList.contains '.' then
      descend (.object attributes) (Text.split '.' property.toList)
    else none

end Attributes

namespace Context

def entityIdProperty : String := "@entity_id"

def entityTypeProperty : String := "@entity_type"

/-- The value of a property: an attribute, or one of the two properties that every
entity has. -/
def resolve (c : Context) (property : String) : Except EvaluationError Value :=
  match c.attributes.lookup property with
  | some json =>
    match Value.ofJson? json with
    | some v => .ok v
    | none => .error (.unsupportedType property)
  | none =>
    if property = entityIdProperty then .ok (.text c.entityId)
    else if property = entityTypeProperty then .ok (.text c.entityType)
    else .error (.missingProperty property)

end Context

namespace Operator

/-- The answer of an order between two numbers, equal up to the tolerance. -/
def orders (op : Operator) (x y : Number) : Bool :=
  match op with
  | less => x.lt y && !x.near y
  | lessOrEqual => x.lt y || x.near y
  | greater => y.lt x && !x.near y
  | _ => y.lt x || x.near y

end Operator

namespace Condition

variable [PatternEngine]

def search (op : Operator) (left : Value) (p : Pattern) : Except EvaluationError Bool :=
  match left with
  | .text s => .ok (PatternEngine.occursIn p s == (op == .matching))
  | other => .error (.typeMismatch op other.typeName "pattern")

def compare (op : Operator) (left right : Value) : Except EvaluationError Bool :=
  match op with
  | .equal => .ok (left.looselyEquals right)
  | .notEqual => .ok (!left.looselyEquals right)
  | .less | .lessOrEqual | .greater | .greaterOrEqual =>
    match left, right with
    | .number x, .number y => .ok (op.orders x y)
    | _, _ => .error (.typeMismatch op left.typeName right.typeName)
  | .member => .ok (left.isMemberOf right)
  | .notMember => .ok (!left.isMemberOf right)
  | .containing => .ok (left.contains right)
  | .notContaining => .ok (!left.contains right)
  | .matching | .notMatching =>
    match right with
    | .text source =>
      match PatternEngine.compile source with
      | .ok p => search op left p
      | .error e => .error (.invalidPattern source e)
    | _ => .error (.typeMismatch op left.typeName right.typeName)

/-- The answer of a condition. The property is resolved before anything else. -/
def evaluate (c : Condition) (context : Context) : Except EvaluationError Bool :=
  match context.resolve c.property with
  | .error e => .error e
  | .ok left =>
    match c.target with
    | .pattern p => search c.operator left p
    | .value v => compare c.operator left v
    | .property name =>
      match context.resolve name with
      | .error e => .error e
      | .ok right => compare c.operator left right

/-- Evaluates conditions up to the first that fails or has no answer. -/
def evaluateAll : List Condition → Context → Except EvaluationError Bool
  | [], _ => .ok true
  | c :: cs, context =>
    match c.evaluate context with
    | .error e => .error e
    | .ok false => .ok false
    | .ok true => evaluateAll cs context

end Condition

end FeatureFlags
