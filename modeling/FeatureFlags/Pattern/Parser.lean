import FeatureFlags.Pattern.Expression

namespace FeatureFlags.Pattern

inductive SyntaxError where
  | unclosedGroup
  | unopenedGroup
  | unclosedClass
  | unclosedRepetition
  | lookAround
  | backreference
  | missingRepetition
  | missingCount
  | invalidCount
  | invalidRange
  | classInRange
  | anchorInClass
  | unknownEscape
  | endOfEscape
  | invalidHex
  | unknownFlag
  | repeatedFlag
  | danglingNegation
  | endOfFlags
  | emptyName
  | invalidName
  | unclosedName
  | repeatedName
  | tooLarge
deriving DecidableEq, Repr

namespace SyntaxError

def reason : SyntaxError → String
  | unclosedGroup => "unclosed group"
  | unopenedGroup => "unopened group"
  | unclosedClass => "unclosed character class"
  | unclosedRepetition => "unclosed counted repetition"
  | lookAround => "look-around, including look-ahead and look-behind, is not supported"
  | backreference => "backreferences are not supported"
  | missingRepetition => "repetition operator missing expression"
  | missingCount => "repetition quantifier expects a valid decimal"
  | invalidCount => "invalid repetition count range, the start must be <= the end"
  | invalidRange => "invalid character class range, the start must be <= the end"
  | classInRange => "invalid range boundary, must be a literal"
  | anchorInClass => "invalid escape sequence found in character class"
  | unknownEscape => "unrecognized escape sequence"
  | endOfEscape => "incomplete escape sequence, reached end of pattern prematurely"
  | invalidHex => "invalid hexadecimal escape"
  | unknownFlag => "unrecognized flag"
  | repeatedFlag => "duplicate flag"
  | danglingNegation => "dangling flag negation operator"
  | endOfFlags => "expected flag but got end of regex"
  | emptyName => "empty capture group name"
  | invalidName => "invalid capture group character"
  | unclosedName => "unclosed capture group name"
  | repeatedName => "duplicate capture group name"
  | tooLarge => "Compiled regex exceeds size limit of 10485760 bytes."

def message : SyntaxError → String
  | tooLarge => reason tooLarge
  | e => "regex parse error: " ++ e.reason

end SyntaxError

structure Flags where
  caseless : Bool
  multiLine : Bool
  dotAll : Bool
  verbose : Bool
deriving DecidableEq

namespace Flags

def none : Flags := ⟨false, false, false, false⟩

/-- A flag of either kind: one that changes the meaning of what follows, or one
that changes nothing in whether a text matches. -/
def set? (f : Flags) (on : Bool) : Char → Option Flags
  | 'i' => some { f with caseless := on }
  | 'm' => some { f with multiLine := on }
  | 's' => some { f with dotAll := on }
  | 'x' => some { f with verbose := on }
  | 'U' | 'u' | 'R' => some f
  | _ => Option.none

end Flags

def isMeta (c : Char) : Bool :=
  "\\.+*?()|[]\x7b\x7d^$#&-~".toList.contains c

def isEscapable (c : Char) : Bool :=
  isMeta c || (c.toNat < 0x80 && !c.isAlphanum && c != '<' && c != '>')

/-- What one escape, or one plain character, stands for. -/
inductive Atom where
  | char (c : Char)
  | chars (s : CharClass)
  | anchor (a : Anchor)

def hexValue? (c : Char) : Option Nat :=
  if c.isDigit then some (c.toNat - '0'.toNat)
  else if 'a' ≤ c ∧ c ≤ 'f' then some (c.toNat - 'a'.toNat + 10)
  else if 'A' ≤ c ∧ c ≤ 'F' then some (c.toNat - 'A'.toNat + 10)
  else Option.none

def hexChar (digits : List Char) : Except SyntaxError Char := do
  let n := digits.foldl (fun n c => 16 * n + (hexValue? c).getD 0) 0
  if n < 0xD800 ∨ (0xDFFF < n ∧ n < 0x110000) then .ok (Char.ofNat n) else .error .invalidHex

/-- Hexadecimal digits in braces, or exactly `count` of them. -/
def readHex (count : Nat) : List Char → Except SyntaxError (Char × List Char)
  | [] => .error .endOfEscape
  | '{' :: rest =>
    let digits := rest.takeWhile (fun c => (hexValue? c).isSome)
    match rest.drop digits.length with
    | '}' :: after =>
      if digits.isEmpty then .error .invalidHex
      else do .ok (← hexChar digits, after)
    | [] => .error .endOfEscape
    | _ => .error .invalidHex
  | cs =>
    let digits := cs.take count
    if !digits.all (fun c => (hexValue? c).isSome) then .error .invalidHex
    else if digits.length < count then .error .endOfEscape
    else do .ok (← hexChar digits, cs.drop count)

def boundaryOfName? : List Char → Option Anchor
  | ['s', 't', 'a', 'r', 't'] => some .wordStart
  | ['e', 'n', 'd'] => some .wordEnd
  | ['s', 't', 'a', 'r', 't', '-', 'h', 'a', 'l', 'f'] => some .wordStartHalf
  | ['e', 'n', 'd', '-', 'h', 'a', 'l', 'f'] => some .wordEndHalf
  | _ => none

def isBoundaryName (c : Char) : Bool :=
  c.isAlpha || c == '-'

/-- A boundary of words, after its escape. Braces that begin like a name hold one. -/
def readBoundary : List Char → Except SyntaxError (Atom × List Char)
  | ['{'] => .error .endOfEscape
  | '{' :: c :: rest =>
    if isBoundaryName c then
      let name := (c :: rest).takeWhile isBoundaryName
      match boundaryOfName? name, (c :: rest).drop name.length with
      | some a, '}' :: after => .ok (.anchor a, after)
      | _, _ => .error .unknownEscape
    else .ok (.anchor .wordBoundary, '{' :: c :: rest)
  | rest => .ok (.anchor .wordBoundary, rest)

def readEscape : List Char → Except SyntaxError (Atom × List Char)
  | [] => .error .endOfEscape
  | c :: rest =>
    match c with
    | 'x' => do let (h, after) ← readHex 2 rest; .ok (.char h, after)
    | 'u' => do let (h, after) ← readHex 4 rest; .ok (.char h, after)
    | 'U' => do let (h, after) ← readHex 8 rest; .ok (.char h, after)
    | 'd' => .ok (.chars .digit, rest)
    | 's' => .ok (.chars .space, rest)
    | 'w' => .ok (.chars .word, rest)
    | 'D' => .ok (.chars (.complement .digit), rest)
    | 'S' => .ok (.chars (.complement .space), rest)
    | 'W' => .ok (.chars (.complement .word), rest)
    | 'a' => .ok (.char '\x07', rest)
    | 'f' => .ok (.char '\x0c', rest)
    | 't' => .ok (.char '\t', rest)
    | 'n' => .ok (.char '\n', rest)
    | 'r' => .ok (.char '\r', rest)
    | 'v' => .ok (.char '\x0b', rest)
    | 'A' => .ok (.anchor .textStart, rest)
    | 'z' => .ok (.anchor .textEnd, rest)
    | 'b' => readBoundary rest
    | 'B' => .ok (.anchor .noWordBoundary, rest)
    | '<' => .ok (.anchor .wordStart, rest)
    | '>' => .ok (.anchor .wordEnd, rest)
    | c =>
      if c.isDigit then .error .backreference
      else if isEscapable c then .ok (.char c, rest)
      else .error .unknownEscape

def skipIgnored (verbose : Bool) : Nat → List Char → List Char
  | 0, cs => cs
  | _ + 1, [] => []
  | steps + 1, c :: rest =>
    if !verbose then c :: rest
    else if Text.isBlank c then skipIgnored verbose steps rest
    else if c = '#' then skipIgnored verbose steps (rest.dropWhile (· ≠ '\n'))
    else c :: rest

def skip (flags : Flags) (cs : List Char) : List Char :=
  skipIgnored flags.verbose (if flags.verbose then cs.length else 0) cs

/-! ## Bracketed classes -/

inductive ClassOperator where
  | intersection
  | difference
  | symmetricDifference

/-- A bracket still open: the operand before the last operator, if there is one,
and the items since. -/
structure OpenClass where
  negated : Bool
  left : Option (CharClass × ClassOperator)
  items : CharClass

namespace OpenClass

def operands (flags : Flags) (o : OpenClass) : CharClass :=
  let fold (s : CharClass) := if flags.caseless then CharClass.caseless s else s
  match o.left with
  | Option.none => o.items
  | some (l, .intersection) => .intersection (fold l) (fold o.items)
  | some (l, .difference) => .difference (fold l) (fold o.items)
  | some (l, .symmetricDifference) => .symmetricDifference (fold l) (fold o.items)

def combine (flags : Flags) (o : OpenClass) (op : ClassOperator) : OpenClass :=
  { o with left := some (o.operands flags, op), items := .none }

def add (o : OpenClass) (s : CharClass) : OpenClass :=
  { o with items := .union o.items s }

def close (flags : Flags) (o : OpenClass) : CharClass :=
  let s := o.operands flags
  let s := if flags.caseless then .caseless s else s
  if o.negated then .complement s else s

end OpenClass

def openClass (flags : Flags) (cs : List Char) :
    Except SyntaxError (OpenClass × List Char) := do
  let cs := skip flags cs
  let (negated, cs) := match cs with
    | '^' :: rest => (true, skip flags rest)
    | cs => (false, cs)
  let hyphens := cs.takeWhile (· == '-')
  let rest := skip flags (cs.drop hyphens.length)
  let start : OpenClass := ⟨negated, Option.none, if hyphens.isEmpty then .none else .single '-'⟩
  match rest with
  | [] => .error .unclosedClass
  | ']' :: after =>
    if hyphens.isEmpty then
      if after.isEmpty then .error .unclosedClass
      else .ok (start.add (.single ']'), after)
    else .ok (start, rest)
  | rest => .ok (start, rest)

def readNamed? (flags : Flags) : List Char → Option (CharClass × List Char)
  | ':' :: rest =>
    let (negated, rest) := match rest with
      | '^' :: r => (true, r)
      | r => (false, r)
    let name := rest.takeWhile (· ≠ ':')
    match rest.drop name.length with
    | ':' :: ']' :: after =>
      (CharClass.named? (String.ofList name)).map fun s =>
        let s := if flags.caseless then .caseless s else s
        (if negated then .complement s else s, after)
    | _ => Option.none
  | _ => Option.none

/-- One member of a class: an escape or a plain character. -/
def readMember : List Char → Except SyntaxError (Atom × List Char)
  | [] => .error .unclosedClass
  | '\\' :: rest => readEscape rest
  | c :: rest => .ok (.char c, rest)

def readItem (flags : Flags) (cs : List Char) :
    Except SyntaxError (CharClass × List Char) := do
  let (first, rest) ← readMember cs
  let rest := skip flags rest
  let alone : Except SyntaxError (CharClass × List Char) := match first with
    | .char c => .ok (.single c, rest)
    | .chars s => .ok (s, rest)
    | .anchor _ => .error .anchorInClass
  match rest with
  | [] => .error .unclosedClass
  | '-' :: after =>
    match skip flags after with
    | ']' :: _ | '-' :: _ => alone
    | [] => .error .unclosedClass
    | tail => do
      let (last, rest) ← readMember tail
      match first, last with
      | .char low, .char high =>
        if low ≤ high then .ok (.between low high, rest) else .error .invalidRange
      | _, _ => .error .classInRange
  | _ => alone

/-- Reads a class after its opening bracket, with the brackets open around it. -/
def readClass (flags : Flags) : Nat → List OpenClass → OpenClass → List Char →
    Except SyntaxError (CharClass × List Char)
  | 0, _, _, _ => .error .unclosedClass
  | steps + 1, outer, o, cs =>
    match skip flags cs with
    | [] => .error .unclosedClass
    | '[' :: rest =>
      match readNamed? flags rest with
      | some (s, after) => readClass flags steps outer (o.add s) after
      | Option.none => do
        let (inner, after) ← openClass flags rest
        readClass flags steps (o :: outer) inner after
    | ']' :: rest =>
      match outer with
      | [] => .ok (o.close flags, rest)
      | around :: outer => readClass flags steps outer (around.add (o.close flags)) rest
    | '&' :: '&' :: rest => readClass flags steps outer (o.combine flags .intersection) rest
    | '-' :: '-' :: rest => readClass flags steps outer (o.combine flags .difference) rest
    | '~' :: '~' :: rest =>
      readClass flags steps outer (o.combine flags .symmetricDifference) rest
    | cs => do
      let (s, rest) ← readItem flags cs
      readClass flags steps outer (o.add s) rest

/-! ## Repetition -/

def readCount (cs : List Char) : Except SyntaxError (Nat × List Char) :=
  let cs := cs.dropWhile Text.isBlank
  let digits := cs.takeWhile Char.isDigit
  let n := digits.foldl (fun n c => 10 * n + (c.toNat - '0'.toNat)) 0
  if digits.isEmpty ∨ UInt32.size ≤ n then .error .missingCount
  else .ok (n, (cs.drop digits.length).dropWhile Text.isBlank)

def readBounds (cs : List Char) :
    Except SyntaxError ((Nat × Option Nat) × List Char) := do
  if cs.isEmpty then .error .unclosedRepetition
  else
    match readCount cs with
    | .error e =>
      let rest := (cs.dropWhile Text.isBlank).dropWhile Char.isDigit
      if (rest.dropWhile Text.isBlank).isEmpty then .error .unclosedRepetition else .error e
    | .ok (least, rest) =>
      match rest with
      | '}' :: after => .ok ((least, some least), after)
      | ',' :: '}' :: after => .ok ((least, Option.none), after)
      | ',' :: rest =>
        if rest.isEmpty then .error .unclosedRepetition
        else do
          let (most, rest) ← readCount rest
          match rest with
          | '}' :: after =>
            if least ≤ most then .ok ((least, some most), after) else .error .invalidCount
          | _ => .error .unclosedRepetition
      | _ => .error .unclosedRepetition

/-! ## Groups -/

/-- What opens a group: a change of flags from here on, or a group of its own. -/
inductive GroupHead where
  | flags (f : Flags)
  | group (f : Flags) (name : Option String)

def isNameStart (c : Char) : Bool :=
  c == '_' || Text.isAlphabetic c

def isNamePart (c : Char) : Bool :=
  c == '_' || c == '.' || c == '[' || c == ']' || Text.isAlphanumeric c

def readName (cs : List Char) : Except SyntaxError (String × List Char) :=
  let name := cs.takeWhile (· ≠ '>')
  match cs.drop name.length with
  | [] => if (name.take 1).all isNameStart && (name.drop 1).all isNamePart
      then .error .unclosedName else .error .invalidName
  | _ :: after =>
    match name with
    | [] => .error .emptyName
    | first :: rest =>
      if isNameStart first && rest.all isNamePart then .ok (String.ofList name, after)
      else .error .invalidName

def readFlags (f : Flags) (on : Bool) (seen : List Char) :
    List Char → Except SyntaxError (GroupHead × List Char)
  | [] => .error .endOfFlags
  | ':' :: rest =>
    if seen.head? = some '-' then .error .danglingNegation else .ok (.group f Option.none, rest)
  | ')' :: rest =>
    if seen.isEmpty then .error .missingRepetition
    else if seen.head? = some '-' then .error .danglingNegation
    else .ok (.flags f, rest)
  | '-' :: rest => if on then readFlags f false ('-' :: seen) rest else .error .repeatedFlag
  | c :: rest =>
    match f.set? on c with
    | Option.none => .error .unknownFlag
    | some g => if seen.contains c then .error .repeatedFlag else readFlags g on (c :: seen) rest

def readHead (f : Flags) : List Char → Except SyntaxError (GroupHead × List Char)
  | '?' :: '=' :: _ | '?' :: '!' :: _ => .error .lookAround
  | '?' :: '<' :: '=' :: _ | '?' :: '<' :: '!' :: _ => .error .lookAround
  | '?' :: 'P' :: '<' :: rest | '?' :: '<' :: rest => do
    let (name, after) ← readName rest
    .ok (.group f (some name), after)
  | '?' :: rest => readFlags f true [] rest
  | rest => .ok (.group f Option.none, rest)

/-! ## Patterns -/

/-- A group still open: the flags to restore when it closes, the alternatives
before this one and the items of this one, the last first. An item is absent where
flags were set, for no repetition may follow there. -/
structure OpenGroup where
  flags : Flags
  alternatives : List Expression
  items : List (Option Expression)

namespace OpenGroup

def current (g : OpenGroup) : Expression :=
  .sequences (g.items.reverse.filterMap id)

def expression (g : OpenGroup) : Expression :=
  .eithers (g.current :: g.alternatives).reverse

def push (g : OpenGroup) (e : Expression) : OpenGroup :=
  { g with items := some e :: g.items }

def repeatLast (g : OpenGroup) (least : Nat) (most : Option Nat) :
    Except SyntaxError OpenGroup :=
  match g.items with
  | some e :: items => .ok { g with items := some (.repeated e least most) :: items }
  | _ => .error .missingRepetition

end OpenGroup

structure State where
  flags : Flags
  outer : List OpenGroup
  inner : OpenGroup
  names : List String

def atomExpression (flags : Flags) : Atom → Expression
  | .char c => .one (if flags.caseless then .caseless (.single c) else .single c)
  | .chars s => .one s
  | .anchor a => .anchor a

/-- A mark after a repetition asks for as few as possible. Which of the matches is
taken makes no difference to whether there is one. -/
def dropLazy (flags : Flags) (cs : List Char) : List Char :=
  match skip flags cs with
  | '?' :: rest => rest
  | rest => rest

def advance (s : State) (c : Char) (rest : List Char) :
    Except SyntaxError (State × List Char) := do
  let literal (e : Expression) := { s with inner := s.inner.push e }
  let repetition (least : Nat) (most : Option Nat) (after : List Char) := do
    let g ← s.inner.repeatLast least most
    .ok ({ s with inner := g }, dropLazy s.flags after)
  match c with
  | '(' => do
    match ← readHead s.flags (skip s.flags rest) with
    | (.flags f, after) =>
      .ok ({ s with flags := f, inner := { s.inner with items := Option.none :: s.inner.items } },
        after)
    | (.group f name, after) =>
      if name.any s.names.contains then .error .repeatedName
      else
        .ok ({ flags := f, outer := s.inner :: s.outer, inner := ⟨s.flags, [], []⟩,
               names := name.toList ++ s.names }, after)
  | ')' =>
    match s.outer with
    | [] => .error .unopenedGroup
    | around :: outer =>
      .ok ({ s with flags := s.inner.flags, outer := outer,
                    inner := around.push s.inner.expression }, rest)
  | '|' =>
    .ok ({ s with inner :=
            { s.inner with alternatives := s.inner.current :: s.inner.alternatives,
                           items := [] } }, rest)
  | '[' => do
    let (o, after) ← openClass s.flags rest
    let (cls, after) ← readClass s.flags (after.length + 1) [] o after
    .ok (literal (.one cls), after)
  | '?' => repetition 0 (some 1) rest
  | '*' => repetition 0 Option.none rest
  | '+' => repetition 1 Option.none rest
  | '{' =>
    match s.inner.items with
    | some _ :: _ => do
      let ((least, most), after) ← readBounds (skip s.flags rest)
      repetition least most after
    | _ => .error .missingRepetition
  | '.' => .ok (literal (.one (if s.flags.dotAll then .any else .complement (.single '\n'))), rest)
  | '^' => .ok (literal (.anchor (if s.flags.multiLine then .lineStart else .textStart)), rest)
  | '$' => .ok (literal (.anchor (if s.flags.multiLine then .lineEnd else .textEnd)), rest)
  | '\\' => do
    let (a, after) ← readEscape rest
    .ok (literal (atomExpression s.flags a), after)
  | c => .ok (literal (atomExpression s.flags (.char c)), rest)

def readAll : Nat → State → List Char → Except SyntaxError Expression
  | 0, _, _ => .error .tooLarge
  | steps + 1, s, cs =>
    match skip s.flags cs with
    | [] => if s.outer.isEmpty then .ok s.inner.expression else .error .unclosedGroup
    | c :: rest => do
      let (next, after) ← advance s c rest
      readAll steps next after

/-- Plain characters that a pattern may come to when its counted repetitions are
written out. -/
def sizeLimit : Nat := 327680

def Expression.parse (pattern : List Char) : Except SyntaxError Expression := do
  let e ← readAll (pattern.length + 1) ⟨.none, [], ⟨.none, [], []⟩, []⟩ pattern
  if e.size ≤ sizeLimit then .ok e else .error .tooLarge

end FeatureFlags.Pattern
