import FeatureFlags.Condition.Operator
import FeatureFlags.Flag.Basic
import FeatureFlags.Operand.Parser

namespace FeatureFlags

inductive Target where
  | value (v : Value)
  | pattern (p : Pattern)
  | property (name : String)

structure Condition where
  property : String
  operator : Operator
  target : Target

inductive ConstraintFault where
  | property (name : String)
  | operand (e : OperandError)
  | pattern (e : PatternError)
  | operandType (operator : Operator) (typeName : String)

inductive ConstraintError where
  | unsupportedOperator (name : String)
  | invalid (property operator value : String) (fault : ConstraintFault)

namespace ConstraintFault

def message : ConstraintFault → String
  | property name => "invalid property name " ++ Text.quote name
  | operand e => e.message
  | pattern e => "invalid pattern: " ++ e.message
  | operandType op typeName => op.name ++ " does not accept a " ++ typeName ++ " operand"

end ConstraintFault

namespace ConstraintError

def message : ConstraintError → String
  | unsupportedOperator name => "unsupported operator " ++ Text.quote name
  | invalid property operator value fault =>
    "invalid constraint (" ++ property ++ " " ++ operator ++ " " ++ value ++ "): " ++
      fault.message

end ConstraintError

namespace Condition

variable [PatternEngine]

/-- Whether an operator takes literal operands of a value's type. -/
def accepts : Operator → Value → Bool
  | .equal, _ | .notEqual, _ => true
  | .less, .number _ | .lessOrEqual, .number _ => true
  | .greater, .number _ | .greaterOrEqual, .number _ => true
  | .member, .texts _ | .member, .numbers _ => true
  | .notMember, .texts _ | .notMember, .numbers _ => true
  | .containing, .text _ | .containing, .number _ => true
  | .notContaining, .text _ | .notContaining, .number _ => true
  | .matching, .text _ | .notMatching, .text _ => true
  | _, _ => false

def targetOf (op : Operator) : Operand → Except ConstraintFault Target
  | .reference name => .ok (.property name)
  | .literal v =>
    if accepts op v then
      match op.isMatch, v with
      | true, .text source =>
        match PatternEngine.compile source with
        | .ok p => .ok (.pattern p)
        | .error e => .error (.pattern e)
      | _, v => .ok (.value v)
    else .error (.operandType op v.typeName)

/-- Reads a constraint given by its property, operator and operand. -/
def compile (property operator value : String) : Except ConstraintError Condition :=
  match Operator.ofName? operator with
  | none => .error (.unsupportedOperator operator)
  | some op =>
    let invalid (fault : ConstraintFault) : Except ConstraintError Condition :=
      .error (.invalid property operator value fault)
    if Identifier.isValid property.toList then
      match Operand.parse value.toList with
      | .error e => invalid (.operand e)
      | .ok operand =>
        match targetOf op operand with
        | .error fault => invalid fault
        | .ok t => .ok ⟨property, op, t⟩
    else invalid (.property property)

def compileAll : List Constraint → Except ConstraintError (List Condition)
  | [] => .ok []
  | c :: cs =>
    match compile c.property c.operator c.value with
    | .error e => .error e
    | .ok condition =>
      match compileAll cs with
      | .error e => .error e
      | .ok conditions => .ok (condition :: conditions)

end Condition

namespace Target

/-- The text of a target, in the form in which constraints give it. -/
def characters : Target → List Char
  | value v => v.characters
  | pattern p => Operand.quoted p.source
  | property name => (Operand.reference name).characters

end Target

namespace Condition

def text (c : Condition) : String :=
  "(" ++ c.property ++ " " ++ c.operator.symbol ++ " " ++
    String.ofList c.target.characters ++ ")"

def allText : List Condition → String
  | [] => "true"
  | cs => String.intercalate " && " (cs.map text)

end Condition

end FeatureFlags
