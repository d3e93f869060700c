import FeatureFlags.Number.Reading
import FeatureFlags.Text.Class
import FeatureFlags.Timestamp.Basic

namespace FeatureFlags.Timestamp

/-- Digits, at least one and at most `most`, and what follows them. -/
def takeDigits (most : Nat) (cs : List Char) : Option (List Char × List Char) :=
  let digits := (cs.take most).takeWhile Char.isDigit
  if digits.isEmpty then none else some (digits, cs.drop digits.length)

def skipBlank (cs : List Char) : List Char :=
  cs.dropWhile Text.isBlank

def takeNumber (low high : Nat) (cs : List Char) : Option (Nat × List Char) := do
  let (digits, rest) ← takeDigits 2 (skipBlank cs)
  let n := Number.digitsValue digits
  if low ≤ n ∧ n ≤ high then some (n, rest) else none

def takeYear (cs : List Char) : Option (Int × List Char) :=
  match skipBlank cs with
  | '-' :: rest => do
    let (digits, rest) ← takeDigits rest.length rest
    some (-Number.digitsValue digits, rest)
  | '+' :: rest => do
    let (digits, rest) ← takeDigits rest.length rest
    some (Number.digitsValue digits, rest)
  | cs => do
    let (digits, rest) ← takeDigits 4 cs
    some (Number.digitsValue digits, rest)

def takeMark (mark : Char) (cs : List Char) : Option (List Char) :=
  match skipBlank cs with
  | c :: rest => if c = mark then some rest else none
  | [] => none

def takeDate (cs : List Char) : Option (Date × List Char) := do
  let (year, cs) ← takeYear cs
  let (month, cs) ← takeNumber 1 12 (← takeMark '-' cs)
  let (day, cs) ← takeNumber 1 31 (← takeMark '-' cs)
  let date : Date := ⟨year, month, day⟩
  if date.isValid then some (date, cs) else none

/-- The nanoseconds of a fraction. Digits after the ninth are ignored. -/
def takeFraction : List Char → Option (Nat × List Char)
  | '.' :: cs => do
    let (digits, rest) ← takeDigits 9 cs
    some (Number.digitsValue digits * Nat.pow 10 (9 - digits.length), rest.dropWhile Char.isDigit)
  | cs => some (0, cs)

/-- A time of day, in seconds and nanoseconds. The second 60 is a leap second. -/
def takeTime (cs : List Char) : Option (Nat × Nat × List Char) := do
  let (hour, cs) ← takeNumber 0 23 cs
  let (minute, cs) ← takeNumber 0 59 (← takeMark ':' cs)
  let (second, cs) ← takeNumber 0 60 (← takeMark ':' cs)
  let (nanos, cs) ← takeFraction cs
  let whole := hour * 3600 + minute * 60
  if second = 60 then some (whole + 59, nanos + nanosPerSecond, cs)
  else some (whole + second, nanos, cs)

def takePair (high : Char) : List Char → Option (Nat × List Char)
  | a :: b :: rest =>
    if a.isDigit ∧ a ≤ high ∧ b.isDigit then some (Number.digitsValue [a, b], rest) else none
  | _ => none

/-- Hours and minutes of an offset, with colons or spaces between them, in seconds. -/
def takeOffset (sign : Int) (cs : List Char) : Option (Int × List Char) := do
  let (hours, cs) ← takePair '9' cs
  let (minutes, cs) ← takePair '5' (cs.dropWhile fun c => c == ':' || Text.isBlank c)
  some (sign * (hours * 3600 + minutes * 60), cs)

def takeZone : List Char → Option (Int × List Char)
  | 'Z' :: rest => some (0, rest)
  | 'z' :: rest => some (0, rest)
  | '+' :: rest => takeOffset 1 rest
  | '-' :: rest => takeOffset (-1) rest
  | '\u2212' :: rest => takeOffset (-1) rest
  | u :: t :: c :: rest =>
    if u.toUpper = 'U' ∧ t.toUpper = 'T' ∧ c.toUpper = 'C' then some (0, rest) else none
  | _ => none

/-- A local time in UTC: at most a day apart. -/
def toUTC? (date : Date) (second nanos : Nat) (offset : Int) : Option Timestamp :=
  if offset.natAbs < secondsPerDay then
    let shifted : Int := second - offset
    let t : Timestamp :=
      if shifted < 0 then ⟨date.previous, (shifted + secondsPerDay).toNat, nanos⟩
      else if secondsPerDay ≤ shifted then ⟨date.next, (shifted - secondsPerDay).toNat, nanos⟩
      else ⟨date, shifted.toNat, nanos⟩
    if t.date.isValid then some t else none
  else none

def readCharacters? (cs : List Char) : Option Timestamp := do
  let (date, cs) ← takeDate cs
  match cs with
  | [] => none
  | separator :: cs =>
    if separator = 'T' ∨ separator = 't' ∨ separator = ' ' then
      let (second, nanos, cs) ← takeTime cs
      let (offset, rest) ← takeZone (skipBlank cs)
      if (skipBlank rest).isEmpty then toUTC? date second nanos offset else none
    else none

def read? (s : String) : Option Timestamp :=
  readCharacters? s.toList

end FeatureFlags.Timestamp
