import FeatureFlags.Number.Reading
import FeatureFlags.Text.CaseFolding
import FeatureFlags.Text.Class
import FeatureFlags.Url.Basic

namespace FeatureFlags.Host

/-! ### Punycode -/

namespace Punycode

def base : Nat := 36
def lowest : Nat := 1
def highest : Nat := 26

def adapt (delta points : Nat) (first : Bool) : Nat :=
  let delta := if first then delta / 700 else delta / 2
  reduce delta (delta + delta / points) 0
where
  reduce (fuel delta k : Nat) : Nat :=
    match fuel with
    | 0 => k + (base - lowest + 1) * delta / (delta + 38)
    | fuel + 1 =>
      if (base - lowest) * highest / 2 < delta then
        reduce fuel (delta / (base - lowest)) (k + base)
      else k + (base - lowest + 1) * delta / (delta + 38)

def digit (n : Nat) : Char :=
  if n < 26 then Char.ofNat (n + 'a'.toNat) else Char.ofNat (n - 26 + '0'.toNat)

def variableLength (bias : Nat) (fuel q k : Nat) : List Char :=
  match fuel with
  | 0 => [digit q]
  | fuel + 1 =>
    let threshold := if k ≤ bias then lowest else min highest (k - bias)
    if q < threshold then [digit q]
    else
      digit (threshold + (q - threshold) % (base - threshold)) ::
        variableLength bias fuel ((q - threshold) / (base - threshold)) (k + base)

structure State where
  delta : Nat
  bias : Nat
  handled : Nat
  first : Bool
  output : List Char

def visit (point : Nat) (s : State) (c : Char) : State :=
  if c.toNat < point then { s with delta := s.delta + 1 }
  else if c.toNat = point then
    { delta := 0
      bias := adapt s.delta (s.handled + 1) s.first
      handled := s.handled + 1
      first := false
      output := s.output ++ variableLength s.bias s.delta s.delta base }
  else s

def insertAll (label : List Char) (s : State) (previous : Nat) : List Nat → State
  | [] => s
  | point :: points =>
    let s := { s with delta := s.delta + (point - previous) * (s.handled + 1) }
    let s := label.foldl (visit point) s
    insertAll label { s with delta := s.delta + 1 } (point + 1) points

def encode (label : List Char) : List Char :=
  let basic := label.filter (·.toNat < 0x80)
  let others := ((label.filter (0x80 ≤ ·.toNat)).map Char.toNat).mergeSort.eraseDups
  let start : State := ⟨0, 72, basic.length, true, []⟩
  basic ++ (if basic.isEmpty then [] else ['-']) ++ (insertAll label start 0x80 others).output

end Punycode

def labelToASCII (label : List Char) : List Char :=
  let lower := label.map CaseFolding.fold
  if lower.all (·.toNat < 0x80) then lower
  else ['x', 'n', '-', '-'] ++ Punycode.encode lower

def isForbidden (c : Char) : Bool :=
  Percent.isControl c ||
    [' ', '#', '/', ':', '<', '>', '?', '@', '[', '\\', ']', '^', '|'].contains c

def isForbiddenInDomain (c : Char) : Bool :=
  isForbidden c || c == '%'

/-! ### Addresses of 32 bits -/

def digitValue? (base : Nat) (c : Char) : Option Nat :=
  (Percent.hexValue? c).filter (· < base)

def digitsValue? (base : Nat) (cs : List Char) : Option Nat :=
  cs.foldlM (fun n c => (digitValue? base c).map (base * n + ·)) 0

def number? : List Char → Option Nat
  | [] => none
  | '0' :: 'x' :: digits => digitsValue? 16 digits
  | '0' :: d :: digits => digitsValue? 8 (d :: digits)
  | digits => digitsValue? 10 digits

/-- The parts between dots, a dot at the end aside. -/
def parts (domain : List Char) : List (List Char) :=
  match (Text.split '.' domain).reverse with
  | [] :: (part :: rest) => (part :: rest).reverse
  | all => all.reverse

def endsInNumber (domain : List Char) : Bool :=
  match (parts domain).getLast? with
  | none => false
  | some last => (!last.isEmpty && last.all Char.isDigit) || (number? last).isSome

/-- The address of one to four numbers, of which the last fills what is left. -/
def combine (left : Nat) : List Nat → Option Nat
  | [] => none
  | [n] => if n < Nat.pow 256 left then some n else none
  | n :: rest =>
    if n < 256 then (combine (left - 1) rest).map (n * Nat.pow 256 (left - 1) + ·) else none

def ipv4? (domain : List Char) : Option Nat := do
  let numbers ← (parts domain).mapM number?
  if numbers.length ≤ 4 then combine 4 numbers else none

def ipv4Text (n : Nat) : String :=
  toString (n / 0x1000000) ++ "." ++ toString (n / 0x10000 % 256) ++ "." ++
    toString (n / 0x100 % 256) ++ "." ++ toString (n % 256)

/-! ### Addresses of 128 bits -/

def group? (cs : List Char) : Option Nat :=
  if cs.isEmpty || 4 < cs.length then none else digitsValue? 16 cs

def byte? (cs : List Char) : Option Nat :=
  if cs.isEmpty || 3 < cs.length || (1 < cs.length && cs.head? == some '0') then none
  else (digitsValue? 10 cs).filter (· < 256)

def dotted? (cs : List Char) : Option (List Nat) := do
  match ← (Text.split '.' cs).mapM byte? with
  | [a, b, c, d] => some [256 * a + b, 256 * c + d]
  | _ => none

def groups? : List (List Char) → Option (List Nat)
  | [] => some []
  | [last] => if last.contains '.' then dotted? last else (group? last).map ([·])
  | first :: rest => do
    let n ← group? first
    let ns ← groups? rest
    some (n :: ns)

def side? (cs : List Char) : Option (List Nat) :=
  if cs.isEmpty then some [] else groups? (Text.split ':' cs)

def splitGap : List Char → Option (List Char × List Char)
  | ':' :: ':' :: rest => some ([], rest)
  | c :: rest => (splitGap rest).map fun (before, after) => (c :: before, after)
  | [] => none

/-- Eight groups, or fewer with a gap of zeros. -/
def ipv6? (cs : List Char) : Option (List Nat) :=
  match splitGap cs with
  | none => (groups? (Text.split ':' cs)).filter (·.length == 8)
  | some (before, after) => do
    if before.contains '.' then none
    else
      let high ← side? before
      let low ← side? after
      if high.length + low.length < 8 then
        some (high ++ List.replicate (8 - high.length - low.length) 0 ++ low)
      else none

def zerosAhead (groups : List Nat) : Nat :=
  (groups.takeWhile (· == 0)).length

def longestGap (groups : List Nat) : Nat × Nat :=
  (List.range groups.length).foldl (fun (start, length) i =>
    let here := zerosAhead (groups.drop i)
    if length < here then (i, here) else (start, length)) (0, 0)

def groupTexts (groups : List Nat) : String :=
  String.intercalate ":" (groups.map fun n => String.ofList (Nat.toDigits 16 n))

def ipv6Text (groups : List Nat) : String :=
  let (start, length) := longestGap groups
  if length < 2 then groupTexts groups
  else groupTexts (groups.take start) ++ "::" ++ groupTexts (groups.drop (start + length))

/-! ### Hosts -/

/-- An address of 128 bits between brackets. -/
def bracketed? (cs : List Char) : Option String :=
  match cs.getLast? with
  | some ']' => (ipv6? cs.dropLast).map fun groups => "[" ++ ipv6Text groups ++ "]"
  | _ => none

/-- The host of a scheme whose hosts are names or addresses. -/
def special? : List Char → Option String
  | '[' :: rest => bracketed? rest
  | cs => do
    let text ← String.fromUTF8? ⟨(Percent.decode cs).toArray⟩
    let labels := (Text.split '.' text.toList).map labelToASCII
    let domain := List.intercalate ['.'] labels
    if domain.isEmpty || domain.any isForbiddenInDomain then none
    else if endsInNumber domain then (ipv4? domain).map ipv4Text
    else some (String.ofList domain)

def verbatim? : List Char → Option String
  | '[' :: rest => bracketed? rest
  | cs =>
    if cs.any isForbidden then none
    else some (String.ofList (Percent.encode Percent.isControl cs))

end FeatureFlags.Host
