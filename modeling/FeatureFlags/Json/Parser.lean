import FeatureFlags.Json.Document

/-!
Reading JSON text: a scanner of tokens, and a machine that builds the document from
them on a stack of the containers still open.
-/

namespace FeatureFlags.Document

inductive Token where
  | openArray
  | closeArray
  | openObject
  | closeObject
  | comma
  | colon
  | null
  | bool (b : Bool)
  | number (n : Numeral)
  | string (s : StringText)

namespace Token

/-- A string is written in characters and 16-bit units. -/
inductive Piece where
  | char (c : Char)
  | unit (n : Nat)

def hexValue? (c : Char) : Option Nat :=
  if c.isDigit then some (c.toNat - '0'.toNat)
  else if 'a' ≤ c ∧ c ≤ 'f' then some (c.toNat - 'a'.toNat + 10)
  else if 'A' ≤ c ∧ c ≤ 'F' then some (c.toNat - 'A'.toNat + 10)
  else none

def unit? (a b c d : Char) : Option Nat := do
  some (((← hexValue? a) * 16 + (← hexValue? b)) * 256 + (← hexValue? c) * 16 + (← hexValue? d))

def unescape? : Char → Option Char
  | '"' => some '"'
  | '\\' => some '\\'
  | '/' => some '/'
  | 'b' => some '\x08'
  | 'f' => some '\x0c'
  | 'n' => some '\n'
  | 'r' => some '\r'
  | 't' => some '\t'
  | _ => none

/-- The pieces of a string up to its closing quote, and what follows it. -/
def scanPieces (acc : List Piece) : List Char → Option (List Piece × List Char)
  | [] => none
  | '"' :: rest => some (acc.reverse, rest)
  | '\\' :: 'u' :: a :: b :: c :: d :: rest =>
    match unit? a b c d with
    | some n => scanPieces (.unit n :: acc) rest
    | none => none
  | '\\' :: e :: rest =>
    match unescape? e with
    | some c => scanPieces (.char c :: acc) rest
    | none => none
  | c :: rest => if c < ' ' then none else scanPieces (.char c :: acc) rest

/-- The characters of the pieces: two surrogate units in order are one character,
and a surrogate unit by itself is none. -/
def joinPieces (acc : List Char) : List Piece → Option (List Char)
  | [] => some acc.reverse
  | .char c :: rest => joinPieces (c :: acc) rest
  | .unit high :: .unit low :: rest =>
    if 0xD800 ≤ high ∧ high < 0xDC00 ∧ 0xDC00 ≤ low ∧ low < 0xE000 then
      joinPieces (Char.ofNat (0x10000 + (high - 0xD800) * 0x400 + (low - 0xDC00)) :: acc) rest
    else if 0xD800 ≤ high ∧ high < 0xE000 then none
    else joinPieces (Char.ofNat high :: acc) (.unit low :: rest)
  | .unit n :: rest =>
    if 0xD800 ≤ n ∧ n < 0xE000 then none else joinPieces (Char.ofNat n :: acc) rest

def scanString (cs : List Char) : Option (Token × List Char) :=
  match scanPieces [] cs with
  | some (pieces, rest) => some (.string ((joinPieces [] pieces).map String.ofList), rest)
  | none => none

/-- A whole part is a single zero or digits that do not begin with zero. -/
def scanWhole : List Char → Option (List Char × List Char)
  | '0' :: rest => some (['0'], rest)
  | c :: rest =>
    if c.isDigit then some (c :: rest.takeWhile Char.isDigit, rest.dropWhile Char.isDigit)
    else none
  | [] => none

def scanDigits (cs : List Char) : Option (List Char × List Char) :=
  if (cs.takeWhile Char.isDigit).isEmpty then none
  else some (cs.takeWhile Char.isDigit, cs.dropWhile Char.isDigit)

def scanFraction : List Char → Option (List Char × List Char)
  | '.' :: rest => scanDigits rest
  | cs => some ([], cs)

def scanSigned (mark : Char) (sign : List Char) (cs : List Char) :
    Option (Option Exponent × List Char) :=
  match scanDigits cs with
  | some (digits, rest) => some (some ⟨mark, sign, digits⟩, rest)
  | none => none

def scanExponent : List Char → Option (Option Exponent × List Char)
  | [] => some (none, [])
  | mark :: cs =>
    if mark = 'e' ∨ mark = 'E' then
      match cs with
      | '-' :: rest => scanSigned mark ['-'] rest
      | '+' :: rest => scanSigned mark ['+'] rest
      | rest => scanSigned mark [] rest
    else some (none, mark :: cs)

def scanNumeral (negative : Bool) (cs : List Char) : Option (Token × List Char) :=
  match scanWhole cs with
  | none => none
  | some (whole, afterWhole) =>
    match scanFraction afterWhole with
    | none => none
    | some (fraction, afterFraction) =>
      match scanExponent afterFraction with
      | none => none
      | some (exponent, rest) => some (.number ⟨negative, whole, fraction, exponent⟩, rest)

def scan : List Char → Option (Token × List Char)
  | '[' :: rest => some (.openArray, rest)
  | ']' :: rest => some (.closeArray, rest)
  | '{' :: rest => some (.openObject, rest)
  | '}' :: rest => some (.closeObject, rest)
  | ',' :: rest => some (.comma, rest)
  | ':' :: rest => some (.colon, rest)
  | 'n' :: 'u' :: 'l' :: 'l' :: rest => some (.null, rest)
  | 't' :: 'r' :: 'u' :: 'e' :: rest => some (.bool true, rest)
  | 'f' :: 'a' :: 'l' :: 's' :: 'e' :: rest => some (.bool false, rest)
  | '"' :: rest => scanString rest
  | '-' :: rest => scanNumeral true rest
  | cs => scanNumeral false cs

def isSpace (c : Char) : Bool :=
  c == ' ' || c == '\t' || c == '\n' || c == '\r'

theorem length_dropWhile_le (p : α → Bool) (xs : List α) :
    (xs.dropWhile p).length ≤ xs.length :=
  (List.dropWhile_suffix p).length_le

theorem length_scanPieces {acc : List Piece} {cs : List Char} {pieces rest}
    (h : scanPieces acc cs = some (pieces, rest)) : rest.length < cs.length := by
  fun_induction scanPieces acc cs <;> simp_all <;> omega

theorem length_scanString {cs : List Char} {t rest}
    (h : scanString cs = some (t, rest)) : rest.length < cs.length := by
  unfold scanString at h
  split at h
  · next hp =>
    simp only [Option.some.injEq, Prod.mk.injEq] at h
    exact h.2 ▸ length_scanPieces hp
  · simp at h

theorem length_scanWhole {cs whole rest : List Char}
    (h : scanWhole cs = some (whole, rest)) : rest.length < cs.length := by
  unfold scanWhole at h
  split at h
  · simp_all
  · split at h
    · next tail _ _ =>
      simp only [Option.some.injEq, Prod.mk.injEq] at h
      rw [← h.2, List.length_cons]
      exact Nat.lt_succ_of_le (length_dropWhile_le _ tail)
    · simp at h
  · simp at h

theorem length_scanDigits {cs digits rest : List Char}
    (h : scanDigits cs = some (digits, rest)) : rest.length ≤ cs.length := by
  unfold scanDigits at h
  split at h
  · simp at h
  · simp only [Option.some.injEq, Prod.mk.injEq] at h
    exact h.2 ▸ length_dropWhile_le _ cs

theorem length_scanFraction {cs fraction rest : List Char}
    (h : scanFraction cs = some (fraction, rest)) : rest.length ≤ cs.length := by
  unfold scanFraction at h
  split at h
  · exact Nat.le_trans (length_scanDigits h) (Nat.le_succ _)
  · simp_all

theorem length_scanSigned {mark : Char} {sign cs : List Char} {exponent rest}
    (h : scanSigned mark sign cs = some (exponent, rest)) : rest.length ≤ cs.length := by
  unfold scanSigned at h
  split at h
  · next hd =>
    simp only [Option.some.injEq, Prod.mk.injEq] at h
    exact h.2 ▸ length_scanDigits hd
  · simp at h

theorem length_scanExponent {cs : List Char} {exponent rest}
    (h : scanExponent cs = some (exponent, rest)) : rest.length ≤ cs.length := by
  unfold scanExponent at h
  split at h
  · simp_all
  · split at h
    · split at h <;>
      · have := length_scanSigned h
        simp only [List.length_cons]
        omega
    · simp_all

theorem length_scanNumeral {negative : Bool} {cs : List Char} {t rest}
    (h : scanNumeral negative cs = some (t, rest)) : rest.length < cs.length := by
  unfold scanNumeral at h
  split at h
  · simp at h
  · next hw =>
    split at h
    · simp at h
    · next hf =>
      split at h
      · simp at h
      · next he =>
        simp only [Option.some.injEq, Prod.mk.injEq] at h
        have hwhole := length_scanWhole hw
        have hfraction := length_scanFraction hf
        have hexponent := length_scanExponent he
        rw [← h.2]
        omega

theorem length_scan {cs : List Char} {t : Token} {rest : List Char}
    (h : scan cs = some (t, rest)) : rest.length < cs.length := by
  unfold scan at h
  split at h
  all_goals first
    | exact length_scanNumeral h
    | exact Nat.lt_trans (length_scanString h) (Nat.lt_succ_self _)
    | exact Nat.lt_trans (length_scanNumeral h) (Nat.lt_succ_self _)
    | (simp only [Option.some.injEq, Prod.mk.injEq] at h
       rw [← h.2]
       simp only [List.length_cons]
       omega)

end Token

/-- A container still open: the values read so far, the last first, and in an
object the name of the member being read. -/
inductive Frame where
  | array (items : List Document)
  | object (members : List (StringText × Document))
  | member (members : List (StringText × Document)) (key : StringText)

inductive Goal where
  | value
  | item
  | member
  | key
  | colon
  | separator
  | done (d : Document)

structure Machine where
  frames : List Frame
  goal : Goal

namespace Machine

def start : Machine := ⟨[], .value⟩

/-- Hands a finished value to the innermost open container. -/
def supply (d : Document) : List Frame → Option Machine
  | [] => some ⟨[], .done d⟩
  | .array items :: frames => some ⟨.array (d :: items) :: frames, .separator⟩
  | .member members key :: frames =>
    some ⟨.object ((key, d) :: members) :: frames, .separator⟩
  | .object _ :: _ => none

def beginValue (frames : List Frame) : Token → Option Machine
  | .openArray => some ⟨.array [] :: frames, .item⟩
  | .openObject => some ⟨.object [] :: frames, .member⟩
  | .null => supply .null frames
  | .bool b => supply (.bool b) frames
  | .number n => supply (.number n) frames
  | .string s => supply (.string s) frames
  | _ => none

def beginMember (key : StringText) : List Frame → Option Machine
  | .object members :: frames => some ⟨.member members key :: frames, .colon⟩
  | _ => none

def step (m : Machine) (t : Token) : Option Machine :=
  match m.goal, t with
  | .value, t => beginValue m.frames t
  | .item, .closeArray => supply (.array []) (m.frames.drop 1)
  | .item, t => beginValue m.frames t
  | .member, .closeObject => supply (.object []) (m.frames.drop 1)
  | .member, .string s => beginMember s m.frames
  | .key, .string s => beginMember s m.frames
  | .colon, .colon => some ⟨m.frames, .value⟩
  | .separator, t =>
    match m.frames, t with
    | .array items :: frames, .closeArray => supply (.array items.reverse) frames
    | .array items :: frames, .comma => some ⟨.array items :: frames, .value⟩
    | .object members :: frames, .closeObject => supply (.object members.reverse) frames
    | .object members :: frames, .comma => some ⟨.object members :: frames, .key⟩
    | _, _ => none
  | _, _ => none

def result? (m : Machine) : Option Document :=
  match m.goal with
  | .done d => some d
  | _ => none

def run (m : Machine) (cs : List Char) : Option Document :=
  match _hspace : cs.dropWhile Token.isSpace with
  | [] => m.result?
  | c :: text =>
    match _hscan : Token.scan (c :: text) with
    | none => none
    | some (t, rest) =>
      match m.step t with
      | none => none
      | some next => run next rest
termination_by cs.length
decreasing_by
  have hrest := Token.length_scan _hscan
  have hdrop := Token.length_dropWhile_le Token.isSpace cs
  rw [_hspace] at hdrop
  omega

end Machine

/-- The document that a text spells, spaces around it aside. -/
def parse? (s : String) : Option Document :=
  Machine.start.run s.toList

def parseJson? (s : String) : Option Json := do
  (← parse? s).toJson? nestingLimit

end FeatureFlags.Document
