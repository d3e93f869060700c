import FeatureFlags.Text.Alphabetic
import FeatureFlags.Text.CharSet
import FeatureFlags.Text.Unprintable
import FeatureFlags.Text.Word

namespace FeatureFlags

namespace Text

/-- Decides an ASCII character by `ascii` and any other by the table. -/
def isIn (ascii : Char → Bool) (table : CharSet) (c : Char) : Bool :=
  if c.toNat < 0x80 then ascii c else table.contains c

def isAlphabetic : Char → Bool :=
  isIn Char.isAlpha CharSet.alphabetic

def isNumeric : Char → Bool :=
  isIn Char.isDigit CharSet.numeric

def isAlphanumeric (c : Char) : Bool :=
  isAlphabetic c || isNumeric c

def isDecimal : Char → Bool :=
  isIn Char.isDigit CharSet.decimal

def isBlank : Char → Bool :=
  isIn (fun c => c == ' ' || ('\t' ≤ c && c ≤ '\r')) CharSet.blank

/-- A letter, mark, digit, connector or join control. -/
def isWord : Char → Bool :=
  isIn (fun c => c.isAlphanum || c == '_') CharSet.word

def isExtending : Char → Bool :=
  isIn (fun _ => false) CharSet.extending

/-- A character with a glyph of its own, or the ASCII space. -/
def isPrintable (c : Char) : Bool :=
  if c.toNat < 0x80 then ' ' ≤ c && c ≤ '~' else !CharSet.unprintable.contains c

def trim (cs : List Char) : List Char :=
  ((cs.dropWhile isBlank).reverse.dropWhile isBlank).reverse

/-- The pieces between separators; a text without separator is one piece. -/
def split (separator : Char) : List Char → List (List Char)
  | [] => [[]]
  | c :: rest =>
    if c = separator then [] :: split separator rest
    else
      match split separator rest with
      | piece :: pieces => (c :: piece) :: pieces
      | [] => [[c]]

def hexDigits (n : Nat) : List Char :=
  Nat.toDigits 16 n

/-- A character that is escaped in every quotation: one with a short escape, a
character without a glyph, or one that would join its neighbour. -/
def visible (c : Char) : List Char :=
  match c with
  | '\x00' => ['\\', '0']
  | '\t' => ['\\', 't']
  | '\r' => ['\\', 'r']
  | '\n' => ['\\', 'n']
  | '\\' => ['\\', '\\']
  | c =>
    if isPrintable c && !isExtending c then [c]
    else '\\' :: 'u' :: '{' :: (hexDigits c.toNat ++ ['}'])

def quote (s : String) : String :=
  String.ofList <|
    '"' :: s.toList.flatMap (fun c => if c = '"' then ['\\', '"'] else visible c) ++ ['"']

def quoteChar (c : Char) : String :=
  String.ofList <| '\'' :: (if c = '\'' then ['\\', '\''] else visible c) ++ ['\'']

end Text

namespace Identifier

def isPart (c : Char) : Bool :=
  Text.isAlphanumeric c || c == '_' || c == '@' || c == '-'

/-- Whether the characters are a property name: parts, none of them empty, with
dots between them. -/
def isValid (cs : List Char) : Bool :=
  (Text.split '.' cs).all fun part => !part.isEmpty && part.all isPart

end Identifier

namespace Key

def lengthLimit : Nat := 63

/-- A safe key is made of lowercase ASCII letters, digits and underscores, starts
with a letter and is no longer than the limit. -/
def isSafe (key : String) : Bool :=
  match key.toList with
  | [] => false
  | c :: rest =>
    c.isLower && key.utf8ByteSize ≤ lengthLimit &&
      rest.all fun c => c.isLower || c.isDigit || c == '_'

end Key

end FeatureFlags
