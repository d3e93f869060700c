import FeatureFlags.Condition.Operator
import FeatureFlags.Flag.Basic
import FeatureFlags.Json.Record
import FeatureFlags.Text.Class

/-!
Rules that enabled flags are expected to keep. A flag that breaks them is reported and
is served all the same.
-/

namespace FeatureFlags

namespace Validation

variable [PatternEngine]

inductive Rule where
  | keyMatches (pattern : String)
  | descriptionNotEmpty
  | hasTag (tag : String)
  | anyTagMatches (pattern : String)
  | minSegments (count : Nat)
  | anyVariantKeyMatches (pattern : String)
  | allSegmentsConstrained
deriving DecidableEq

namespace Rule

def name : Rule → String
  | keyMatches _ => "key_matches"
  | descriptionNotEmpty => "description_not_empty"
  | hasTag _ => "has_tag"
  | anyTagMatches _ => "any_tag_matches"
  | minSegments _ => "min_segments"
  | anyVariantKeyMatches _ => "any_variant_key_matches"
  | allSegmentsConstrained => "all_segments_constrained"

def text (r : Rule) : String :=
  match r with
  | keyMatches pattern | anyTagMatches pattern | anyVariantKeyMatches pattern =>
    r.name ++ "(" ++ Text.quote pattern ++ ")"
  | hasTag tag => r.name ++ "(" ++ Text.quote tag ++ ")"
  | minSegments count => r.name ++ "(" ++ toString count ++ ")"
  | descriptionNotEmpty | allSegmentsConstrained => r.name

end Rule

inductive Operation where
  | all
  | any
deriving DecidableEq, Inhabited

structure Config where
  operation : Operation
  rules : List Rule
deriving DecidableEq

inductive Error where
  | invalidPattern (rule pattern : String) (e : PatternError)
  | failed (flagKey : String) (rules : List Rule)
deriving DecidableEq

def Error.message : Error → String
  | invalidPattern rule pattern e =>
    "invalid pattern " ++ Text.quote pattern ++ " in " ++ rule ++ ": " ++ e.message
  | failed flagKey rules =>
    "flag " ++ Text.quote flagKey ++ " does not satisfy " ++
      String.intercalate ", " (rules.map Rule.text)

inductive Check where
  | keyMatches (p : Pattern)
  | descriptionNotEmpty
  | hasTag (tag : String)
  | anyTagMatches (p : Pattern)
  | minSegments (count : Nat)
  | anyVariantKeyMatches (p : Pattern)
  | allSegmentsConstrained

namespace Check

def passes (f : Flag) : Check → Bool
  | keyMatches p => PatternEngine.occursIn p f.key
  | descriptionNotEmpty => f.description.toList.any fun c => !Text.isBlank c
  | hasTag tag => f.tags.any (·.value == tag)
  | anyTagMatches p => f.tags.any fun t => PatternEngine.occursIn p t.value
  | minSegments count => count ≤ f.segments.length
  | anyVariantKeyMatches p => f.variants.any fun v => PatternEngine.occursIn p v.key
  | allSegmentsConstrained => f.segments.all fun s => !s.constraints.isEmpty

end Check

def Rule.pattern (r : Rule) (pattern : String) (check : Pattern → Check) :
    Except Error Check :=
  match PatternEngine.compile pattern with
  | .ok p => .ok (check p)
  | .error e => .error (.invalidPattern r.name pattern e)

def Rule.compile (r : Rule) : Except Error Check :=
  match r with
  | keyMatches pattern => r.pattern pattern .keyMatches
  | descriptionNotEmpty => .ok .descriptionNotEmpty
  | hasTag tag => .ok (.hasTag tag)
  | anyTagMatches pattern => r.pattern pattern .anyTagMatches
  | minSegments count => .ok (.minSegments count)
  | anyVariantKeyMatches pattern => r.pattern pattern .anyVariantKeyMatches
  | allSegmentsConstrained => .ok .allSegmentsConstrained

def compileRules : List Rule → Except Error (List (Rule × Check))
  | [] => .ok []
  | r :: rules =>
    match r.compile with
    | .error e => .error e
    | .ok check =>
      match compileRules rules with
      | .error e => .error e
      | .ok checks => .ok ((r, check) :: checks)

end Validation

structure Validator where
  operation : Validation.Operation
  checks : List (Validation.Rule × Validation.Check)

namespace Validator

open Validation

variable [PatternEngine]

def ofConfig (c : Config) : Except Validation.Error Validator :=
  match compileRules c.rules with
  | .error e => .error e
  | .ok checks => .ok ⟨c.operation, checks⟩

def broken (v : Validator) (f : Flag) : List Rule :=
  (v.checks.filter fun (_, check) => !check.passes f).map Prod.fst

def check (v : Validator) (f : Flag) : Except Validation.Error Unit :=
  let failed := v.broken f
  let fine := match v.operation with
    | .all => failed.isEmpty
    | .any => v.checks.isEmpty || failed.length < v.checks.length
  if fine then .ok () else .error (.failed f.key failed)

/-- Checks a flag if it is enabled. -/
def validate (v : Validator) (f : Flag) : Except Validation.Error Unit :=
  if f.enabled then v.check f else .ok ()

end Validator

namespace Validation

open Document (Reader)

/-- How a format spells what rules are made of. -/
structure Spelling where
  operation : Reader Operation
  count : Nat → Reader Nat

namespace Rule

def oneField (name : String) (read : Reader α) (build : α → Rule) : Reader Rule :=
  .record [name] fun f => (f.required name read).map build

def readerOf? (s : Spelling) : String → Option (Reader Rule)
  | "key_matches" => some (oneField "pattern" .text keyMatches)
  | "description_not_empty" => some (.noFields descriptionNotEmpty)
  | "has_tag" => some (oneField "tag" .text hasTag)
  | "any_tag_matches" => some (oneField "pattern" .text anyTagMatches)
  | "min_segments" => some (oneField "count" (s.count UInt64.size) minSegments)
  | "any_variant_key_matches" => some (oneField "pattern" .text anyVariantKeyMatches)
  | "all_segments_constrained" => some (.noFields allSegmentsConstrained)
  | _ => none

def reader (s : Spelling) : Reader Rule :=
  .tagged "rule" (readerOf? s)

end Rule

namespace Operation

def ofName? : String → Option Operation
  | "and" => some all
  | "or" => some any
  | _ => none

def name : Operation → String
  | all => "and"
  | any => "or"

end Operation

def Spelling.json : Spelling :=
  ⟨.named Operation.ofName?, .natBelow⟩

namespace Config

def fields : List String :=
  ["operation", "rules"]

def reader (s : Spelling) : Reader Config :=
  .record fields fun f => do
    let operation ← f.withDefault "operation" s.operation .all
    let rules ← f.withDefault "rules" (.list (Rule.reader s)) []
    some { operation, rules }

def read : Reader Config :=
  reader .json

end Config

end Validation

end FeatureFlags
