import FeatureFlags.Value

namespace FeatureFlags

/-- A constraint compares with a value or with another property. -/
inductive Operand where
  | literal (v : Value)
  | reference (property : String)
deriving DecidableEq

namespace Operand

def escape (c : Char) : List Char :=
  match c with
  | '"' => ['\\', '"']
  | '\\' => ['\\', '\\']
  | '\n' => ['\\', 'n']
  | '\t' => ['\\', 't']
  | '\r' => ['\\', 'r']
  | c => [c]

def quoted (s : String) : List Char :=
  '"' :: s.toList.flatMap escape ++ ['"']

def list : List (List Char) → List Char
  | [] => ['[', ']']
  | item :: items => '[' :: item ++ items.flatMap (fun i => ',' :: ' ' :: i) ++ [']']

end Operand

namespace Value

def characters : Value → List Char
  | text s => Operand.quoted s
  | number x => x.plain
  | bool true => ['t', 'r', 'u', 'e']
  | bool false => ['f', 'a', 'l', 's', 'e']
  | texts ss => Operand.list (ss.map Operand.quoted)
  | numbers xs => Operand.list (xs.map Number.plain)

end Value

namespace Operand

def characters : Operand → List Char
  | literal v => v.characters
  | reference property => '{' :: property.toList ++ ['}']

end Operand

end FeatureFlags
