import FeatureFlags.Number.Decimal

namespace FeatureFlags

namespace Number

def digitsValue (cs : List Char) : Nat :=
  cs.foldl (fun n c => 10 * n + (c.toNat - '0'.toNat)) 0

/-- An exponent: a mark, an optional sign and at least one digit, or nothing. -/
def readExponent? : List Char → Option Int
  | [] => some 0
  | mark :: rest =>
    if mark = 'e' ∨ mark = 'E' then
      let (negative, digits) := match rest with
        | '-' :: ds => (true, ds)
        | '+' :: ds => (false, ds)
        | ds => (false, ds)
      if digits.isEmpty || !digits.all Char.isDigit then none
      else some (if negative then -digitsValue digits else digitsValue digits)
    else none

/-- Digits with at most one point, at least one digit, and an optional exponent. -/
def readMagnitude? (cs : List Char) : Option Decimal := do
  let (whole, afterWhole) := cs.span Char.isDigit
  let (fraction, rest) := match afterWhole with
    | '.' :: r => r.span Char.isDigit
    | r => ([], r)
  if whole.isEmpty && fraction.isEmpty then none
  else
    let exponent ← readExponent? rest
    some ⟨digitsValue (whole ++ fraction), exponent - fraction.length⟩

def read? : List Char → Option Number
  | '-' :: cs => do (← readMagnitude? cs).toNumber? true
  | '+' :: cs => do (← readMagnitude? cs).toNumber? false
  | cs => do (← readMagnitude? cs).toNumber? false

/-- The largest significand that is read digit by digit. -/
def significandLimit : Nat := UInt64.size

/-- The double nearest `10 ^ n`, for the powers that are finite doubles. -/
def powerOfTen? (n : Nat) : Option Number :=
  if n ≤ 308 then ofInt? (Nat.pow 10 n) else none

def scaleDown : Nat → Number → Nat → Option Number
  | 0, x, _ => some x
  | steps + 1, x, n =>
    match powerOfTen? n with
    | some p => x.div? p
    | none => do
      let p ← powerOfTen? 308
      let y ← x.div? p
      if y.units = 0 then some y else scaleDown steps y (n - 308)

/-- A significand times a power of ten, in one rounded multiplication or division
after the significand itself was rounded. -/
def scaled? (negative : Bool) (significand : Nat) (exponent : Int) : Option Number := do
  let x ← ofUnits? negative (significand * one) 1
  if x.units = 0 then some x
  else if 0 ≤ exponent then x.mul? (← powerOfTen? exponent.toNat)
  else scaleDown 4 x (-exponent).toNat

/-- The significand of leading digits that stays below `2 ^ 64`, and the digits
left over. -/
def significand : Nat → List Char → Nat × List Char
  | n, [] => (n, [])
  | n, c :: cs =>
    let next := 10 * n + (c.toNat - '0'.toNat)
    if next < significandLimit then significand next cs else (n, c :: cs)

end Number

end FeatureFlags
