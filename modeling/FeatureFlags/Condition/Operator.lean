namespace FeatureFlags

inductive Operator where
  | equal
  | notEqual
  | less
  | lessOrEqual
  | greater
  | greaterOrEqual
  | member
  | notMember
  | matching
  | notMatching
  | containing
  | notContaining
deriving DecidableEq, Inhabited

namespace Operator

def name : Operator → String
  | equal => "EQ"
  | notEqual => "NEQ"
  | less => "LT"
  | lessOrEqual => "LTE"
  | greater => "GT"
  | greaterOrEqual => "GTE"
  | member => "IN"
  | notMember => "NOTIN"
  | matching => "EREG"
  | notMatching => "NEREG"
  | containing => "CONTAINS"
  | notContaining => "NOTCONTAINS"

def symbol : Operator → String
  | equal => "=="
  | notEqual => "!="
  | less => "<"
  | lessOrEqual => "<="
  | greater => ">"
  | greaterOrEqual => ">="
  | member => "IN"
  | notMember => "NOT IN"
  | matching => "=~"
  | notMatching => "!~"
  | containing => "CONTAINS"
  | notContaining => "NOT CONTAINS"

def all : List Operator :=
  [equal, notEqual, less, lessOrEqual, greater, greaterOrEqual, member, notMember,
    matching, notMatching, containing, notContaining]

def ofName? (s : String) : Option Operator :=
  all.find? (·.name == s)

def isOrder : Operator → Bool
  | less | lessOrEqual | greater | greaterOrEqual => true
  | _ => false

def isMatch : Operator → Bool
  | matching | notMatching => true
  | _ => false

end Operator

/-- A compiled pattern, known by the text that it was compiled from. -/
structure Pattern where
  source : String
deriving DecidableEq, Inhabited

/-- Why an engine refuses a text, in its own words. -/
structure PatternError where
  message : String
deriving DecidableEq, Inhabited

/-- A library that compiles patterns and searches texts for them. Both are functions of their
arguments, and a compiled pattern gives back its text. -/
class PatternEngine where
  compile : String → Except PatternError Pattern
  occursIn : Pattern → String → Bool
  source_of_compile : ∀ {source : String} {p : Pattern}, compile source = .ok p → p.source = source

end FeatureFlags
