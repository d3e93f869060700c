import FeatureFlags.Json.Printer

namespace FeatureFlags

structure Url where
  scheme : String
  username : String
  password : String
  host : Option String
  /-- Not there when it is the usual one of the scheme. -/
  port : Option Nat
  path : String
  query : Option String
  fragment : Option String
deriving DecidableEq, Inhabited

namespace Url

def credentials (u : Url) : String :=
  if u.username.isEmpty && u.password.isEmpty then ""
  else if u.password.isEmpty then u.username ++ "@"
  else u.username ++ ":" ++ u.password ++ "@"

def authority (u : Url) (host : String) : String :=
  "//" ++ u.credentials ++ host ++
    (match u.port with
      | some port => ":" ++ toString port
      | none => "")

/-- The text of an address. Without authority a path never looks like one. -/
def text (u : Url) : String :=
  u.scheme ++ ":" ++
    (match u.host with
      | some host => u.authority host
      | none => if u.path.startsWith "//" then "/." else "") ++
    u.path ++
    (match u.query with
      | some query => "?" ++ query
      | none => "") ++
    (match u.fragment with
      | some fragment => "#" ++ fragment
      | none => "")

end Url

namespace Percent

def digit (n : Nat) : Char :=
  (Json.hexDigit n).toUpper

def byte (b : UInt8) : List Char :=
  ['%', digit (b.toNat / 16), digit (b.toNat % 16)]

/-- Escapes the bytes of the characters that are not ASCII or are in a set. -/
def encode (escaped : Char → Bool) (cs : List Char) : List Char :=
  cs.flatMap fun c =>
    if 0x80 ≤ c.toNat || escaped c then (String.singleton c).toUTF8.data.toList.flatMap byte
    else [c]

def hexValue? (c : Char) : Option Nat :=
  if c.isDigit then some (c.toNat - '0'.toNat)
  else if 'a' ≤ c.toLower ∧ c.toLower ≤ 'f' then some (c.toLower.toNat - 'a'.toNat + 10)
  else none

/-- The bytes of an escaped text. A percent sign before anything else than two digits
stands for itself. -/
def decode : List Char → List UInt8
  | '%' :: a :: b :: rest =>
    match hexValue? a, hexValue? b with
    | some high, some low => UInt8.ofNat (16 * high + low) :: decode rest
    | _, _ => '%'.toUInt8 :: decode (a :: b :: rest)
  | c :: rest => (String.singleton c).toUTF8.data.toList ++ decode rest
  | [] => []
termination_by cs => cs.length

def isControl (c : Char) : Bool :=
  c.toNat < 0x20 || c.toNat == 0x7F

def inFragment (c : Char) : Bool :=
  isControl c || c == ' ' || c == '"' || c == '<' || c == '>' || c == '\x60'

def inPath (c : Char) : Bool :=
  inFragment c || c == '#' || c == '?' || c == '\x7b' || c == '\x7d'

def inUserinfo (c : Char) : Bool :=
  inPath c || ['/', ':', ';', '=', '@', '[', '\\', ']', '^', '|'].contains c

def inQuery (c : Char) : Bool :=
  isControl c || c == ' ' || c == '"' || c == '#' || c == '<' || c == '>'

def inSpecialQuery (c : Char) : Bool :=
  inQuery c || c == '\''

end Percent

end FeatureFlags
