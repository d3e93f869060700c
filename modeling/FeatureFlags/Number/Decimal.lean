import FeatureFlags.Number.Basic

namespace FeatureFlags

/-- The magnitude `digits * 10 ^ exponent`. -/
structure Decimal where
  digits : Nat
  exponent : Int
deriving DecidableEq

namespace Decimal

/-- Numerator and denominator of the magnitude in units of `2 ^ -1074`. -/
def ratio (d : Decimal) : Nat × Nat :=
  if 0 ≤ d.exponent then (d.digits * Nat.pow 10 d.exponent.toNat * Number.one, 1)
  else (d.digits * Number.one, Nat.pow 10 (-d.exponent).toNat)

/-- The magnitude rounded to a double's, in units. -/
def nearestUnits (d : Decimal) : Nat :=
  Rounding.nearest d.ratio.1 d.ratio.2

/-- A bound on the exponents between which digits can matter: above it a non-zero
decimal exceeds every double, below its opposite it rounds to zero. -/
def reach : Int := 400

/-- The double nearest the decimal; none when it is too large. -/
def toNumber? (negative : Bool) (d : Decimal) : Option Number :=
  let length : Int := (Nat.toDigits 10 d.digits).length
  if d.digits = 0 then Number.ofUnits? negative 0 1
  else if reach < length + d.exponent then none
  else if length + d.exponent < -reach then Number.ofUnits? negative 0 1
  else Number.ofUnits? negative d.ratio.1 d.ratio.2

/-- The two neighbours of a magnitude on the grid of multiples of
`10 ^ exponent`. -/
def neighbours (units : Nat) (exponent : Int) : Decimal × Decimal :=
  let digits :=
    if 0 ≤ exponent then units / (Nat.pow 10 exponent.toNat * Number.one)
    else units * Nat.pow 10 (-exponent).toNat / Number.one
  (⟨digits, exponent⟩, ⟨digits + 1, exponent⟩)

/-- How far a decimal is from a magnitude, in a unit that depends on the exponent
alone. -/
def gap (units : Nat) (d : Decimal) : Nat :=
  let (num, den) := d.ratio
  (num - units * den) + (units * den - num)

/-- Which of two decimals stands for a magnitude halfway between them. -/
inductive Tie where
  | even
  | up
deriving DecidableEq

/-- Whether the greater of two neighbours stands for a magnitude that both read back as. -/
def Tie.choosesAbove (tie : Tie) (units : Nat) (below above : Decimal) : Bool :=
  gap units above < gap units below ||
    (gap units above == gap units below &&
      match tie with
      | even => below.digits % 2 == 1
      | up => true)

/-- The decimal on a grid that reads back as the magnitude; of two, the nearer. -/
def onGrid? (tie : Tie) (units : Nat) (exponent : Int) : Option Decimal :=
  let (below, above) := neighbours units exponent
  if below.nearestUnits = units then
    if above.nearestUnits = units ∧ tie.choosesAbove units below above then some above
    else some below
  else if above.nearestUnits = units then some above
  else none

/-- Every magnitude written out in full: `2 ^ -1074` has 1074 decimal places. -/
def inFull (units : Nat) : Decimal :=
  ⟨units * Nat.pow 5 1074, -1074⟩

/-- Searches ever finer grids, the exact decimal last. -/
def search (tie : Tie) (units : Nat) : Nat → Int → Decimal
  | 0, _ => inFull units
  | steps + 1, exponent =>
    match onGrid? tie units exponent with
    | some d => d
    | none => search tie units steps (exponent - 1)

/-- The decimal with the fewest digits that reads back as the magnitude. -/
def shortest (tie : Tie) (units : Nat) : Decimal :=
  if units = 0 then ⟨0, 0⟩
  else search tie units 24 (((units.log2 : Int) - 1074) * 30103 / 100000 + 2)

def characters (d : Decimal) : List Char :=
  Nat.toDigits 10 d.digits

/-- The decimal exponent of the leading digit. -/
def magnitude (d : Decimal) : Int :=
  d.characters.length - 1 + d.exponent

/-- Digits with a point where one is needed, and no exponent. -/
def positional (d : Decimal) : List Char :=
  if 0 ≤ d.exponent then d.characters ++ List.replicate d.exponent.toNat '0'
  else
    let places := (-d.exponent).toNat
    let padded := List.replicate (places + 1 - d.characters.length) '0' ++ d.characters
    padded.take (padded.length - places) ++ '.' :: padded.drop (padded.length - places)

/-- One digit, a point before any others, and a signed exponent. -/
def scientific (d : Decimal) : List Char :=
  let fraction := d.characters.drop 1
  let e := d.magnitude
  d.characters.take 1 ++ (if fraction.isEmpty then [] else '.' :: fraction) ++
    ['e', if e < 0 then '-' else '+'] ++ Nat.toDigits 10 e.natAbs

end Decimal

namespace Number

def sign (x : Number) : List Char :=
  if x.negative then ['-'] else []

/-- The spelling in constraints: never an exponent, no point in whole numbers, and of two
spellings as near as each other the greater. -/
def plain (x : Number) : List Char :=
  x.sign ++ (Decimal.shortest .up x.units).positional

/-- The spelling in JSON: exponents from `10 ^ 16` and below `10 ^ -5`, always a point or
an exponent, and of two spellings as near as each other the one with an even digit. -/
def json (x : Number) : List Char :=
  let d := Decimal.shortest .even x.units
  x.sign ++
    if -5 ≤ d.magnitude ∧ d.magnitude ≤ 15 then
      d.positional ++ if 0 ≤ d.exponent then ['.', '0'] else []
    else d.scientific

end Number

end FeatureFlags
