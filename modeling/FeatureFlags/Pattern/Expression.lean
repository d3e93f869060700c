import FeatureFlags.Text.CaseFolding
import FeatureFlags.Text.Class

namespace FeatureFlags.Pattern

inductive CharClass where
  | range (low high : Nat)
  | digit
  | space
  | word
  | union (a b : CharClass)
  | intersection (a b : CharClass)
  | complement (a : CharClass)
  | caseless (a : CharClass)

namespace CharClass

def contains : CharClass → Char → Bool
  | range low high, c => low ≤ c.toNat && c.toNat ≤ high
  | digit, c => Text.isDecimal c
  | space, c => Text.isBlank c
  | word, c => Text.isWord c
  | union a b, c => a.contains c || b.contains c
  | intersection a b, c => a.contains c && b.contains c
  | complement a, c => !a.contains c
  | caseless a, c => a.contains c || (CaseFolding.variants c).any a.contains

def none : CharClass := range 1 0

def any : CharClass := range 0 0x10FFFF

def single (c : Char) : CharClass :=
  range c.toNat c.toNat

def unions (cs : List CharClass) : CharClass :=
  cs.foldl union none

def difference (a b : CharClass) : CharClass :=
  intersection a (complement b)

def symmetricDifference (a b : CharClass) : CharClass :=
  union (difference a b) (difference b a)

def between (low high : Char) : CharClass :=
  range low.toNat high.toNat

/-- The ASCII classes that are named inside brackets. -/
def named? : String → Option CharClass
  | "alnum" => some (unions [between '0' '9', between 'A' 'Z', between 'a' 'z'])
  | "alpha" => some (unions [between 'A' 'Z', between 'a' 'z'])
  | "ascii" => some (range 0 0x7F)
  | "blank" => some (unions [single '\t', single ' '])
  | "cntrl" => some (unions [range 0 0x1F, range 0x7F 0x7F])
  | "digit" => some (between '0' '9')
  | "graph" => some (between '!' '~')
  | "lower" => some (between 'a' 'z')
  | "print" => some (between ' ' '~')
  | "punct" =>
    some (unions [between '!' '/', between ':' '@', between '[' '\x60', range 0x7B 0x7E])
  | "space" => some (unions [range 0x09 0x0D, single ' '])
  | "upper" => some (between 'A' 'Z')
  | "word" => some (unions [between '0' '9', between 'A' 'Z', between 'a' 'z', single '_'])
  | "xdigit" => some (unions [between '0' '9', between 'A' 'F', between 'a' 'f'])
  | _ => Option.none

end CharClass

inductive Anchor where
  | textStart
  | textEnd
  | lineStart
  | lineEnd
  | wordBoundary
  | noWordBoundary
  | wordStart
  | wordEnd
  | wordStartHalf
  | wordEndHalf

namespace Anchor

def isWord (c : Option Char) : Bool :=
  c.any Text.isWord

def holds (a : Anchor) (before after : Option Char) : Bool :=
  match a with
  | textStart => before.isNone
  | textEnd => after.isNone
  | lineStart => before.isNone || before == some '\n'
  | lineEnd => after.isNone || after == some '\n'
  | wordBoundary => isWord before != isWord after
  | noWordBoundary => isWord before == isWord after
  | wordStart => !isWord before && isWord after
  | wordEnd => isWord before && !isWord after
  | wordStartHalf => !isWord before
  | wordEndHalf => !isWord after

end Anchor

inductive Expression where
  | empty
  | one (s : CharClass)
  | anchor (a : Anchor)
  | sequence (e f : Expression)
  | either (e f : Expression)
  | repeated (e : Expression) (least : Nat) (most : Option Nat)

namespace Expression

def sequences : List Expression → Expression
  | [] => empty
  | [e] => e
  | e :: es => sequence e (sequences es)

def eithers : List Expression → Expression
  | [] => empty
  | [e] => e
  | e :: es => either e (eithers es)

/-- A bound on the steps of the machine for the expression, in the unit of one
plain character. -/
def size : Expression → Nat
  | empty => 1
  | one (.range _ _) => 1
  | one .digit => 40
  | one .space => 10
  | one .word => 1400
  | one (.complement .word) => 1400
  | one _ => 8
  | anchor _ => 1
  | sequence e f => e.size + f.size
  | either e f => e.size + f.size + 1
  | repeated e least none => e.size * (least + 1) + 1
  | repeated e _ (some most) => (e.size + 1) * most + 1

end Expression

end FeatureFlags.Pattern
