import FeatureFlags.Json.Basic

namespace FeatureFlags.Json

def hexDigit (n : Nat) : Char :=
  if n < 10 then Char.ofNat (n + '0'.toNat) else Char.ofNat (n - 10 + 'a'.toNat)

/-- Only quotes, backslashes and controls are escaped. -/
def escape (c : Char) : List Char :=
  match c with
  | '"' => ['\\', '"']
  | '\\' => ['\\', '\\']
  | '\x08' => ['\\', 'b']
  | '\x0c' => ['\\', 'f']
  | '\n' => ['\\', 'n']
  | '\r' => ['\\', 'r']
  | '\t' => ['\\', 't']
  | c =>
    if c < ' ' then ['\\', 'u', '0', '0', hexDigit (c.toNat / 16), hexDigit (c.toNat % 16)]
    else [c]

def quoted (s : String) : List Char :=
  '"' :: s.toList.flatMap escape ++ ['"']

def Numeric.characters : Numeric → List Char
  | .integer n => (if n < 0 then ['-'] else []) ++ Nat.toDigits 10 n.natAbs
  | .real x => x.json

/-- The spaces that one printing puts between tokens. -/
structure Layout where
  /-- Before each item or member, and before the closing bracket, at a depth. -/
  line : Nat → List Char
  colon : List Char

def Layout.compact : Layout :=
  ⟨fun _ => [], []⟩

def Layout.indented : Layout :=
  ⟨fun depth => '\n' :: List.replicate (2 * depth) ' ', [' ']⟩

mutual

def characters (l : Layout) (depth : Nat) : Json → List Char
  | .null => "null".toList
  | .bool true => "true".toList
  | .bool false => "false".toList
  | .number n => n.characters
  | .string s => quoted s
  | .array [] => ['[', ']']
  | .array (item :: items) =>
    '[' :: l.line (depth + 1) ++ characters l (depth + 1) item ++
      itemCharacters l (depth + 1) items ++ l.line depth ++ [']']
  | .object [] => ['{', '}']
  | .object ((key, value) :: members) =>
    '{' :: l.line (depth + 1) ++ quoted key ++ ':' :: l.colon ++
      characters l (depth + 1) value ++
      memberCharacters l (depth + 1) members ++ l.line depth ++ ['}']

def itemCharacters (l : Layout) (depth : Nat) : List Json → List Char
  | [] => []
  | item :: items =>
    ',' :: l.line depth ++ characters l depth item ++ itemCharacters l depth items

def memberCharacters (l : Layout) (depth : Nat) : List (String × Json) → List Char
  | [] => []
  | (key, value) :: members =>
    ',' :: l.line depth ++ quoted key ++ ':' :: l.colon ++ characters l depth value ++
      memberCharacters l depth members

end

def compact (j : Json) : String :=
  String.ofList (characters .compact 0 j)

def indented (j : Json) : String :=
  String.ofList (characters .indented 0 j)

end FeatureFlags.Json
