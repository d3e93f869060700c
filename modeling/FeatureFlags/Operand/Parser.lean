import FeatureFlags.Operand.Basic
import FeatureFlags.Text.Class

namespace FeatureFlags

/-- Why a text is no operand. Positions count the bytes before a character. -/
inductive OperandError where
  | empty
  | endOfValue
  | unexpected (c : Char)
  | unexpectedAt (c : Char) (position : Nat)
  | unquoted (word : String)
  | unterminated
  | invalidEscape (c : Char) (position : Nat)
  | invalidNumber (text : String)
  | invalidElement (typeName : String)
  | mixedList
  | unclosedList
  | unclosedReference
  | invalidReference (name : String)
deriving DecidableEq

namespace OperandError

def message : OperandError → String
  | empty => "empty value"
  | endOfValue => "unexpected end of value"
  | unexpected c => "unexpected " ++ Text.quoteChar c
  | unexpectedAt c position =>
    "unexpected " ++ Text.quoteChar c ++ " at position " ++ toString position
  | unquoted word => "unquoted string " ++ Text.quote word
  | unterminated => "unterminated string"
  | invalidEscape c position =>
    "invalid escape \\" ++ c.toString ++ " at position " ++ toString position
  | invalidNumber text => "invalid number " ++ Text.quote text
  | invalidElement typeName =>
    "array elements must be strings or numbers, got " ++ typeName
  | mixedList => "array mixes strings and numbers"
  | unclosedList => "unbalanced '['"
  | unclosedReference => "unbalanced '\x7b'"
  | invalidReference name => "invalid variable reference \x7b" ++ name ++ "\x7d"

end OperandError

namespace Operand

def byteSize (cs : List Char) : Nat :=
  cs.foldr (fun c size => c.utf8Size + size) 0

def position (size : Nat) (left : List Char) : Nat :=
  size - byteSize left

def skipBlanks (cs : List Char) : List Char :=
  cs.dropWhile Text.isBlank

def unescape? : Char → Option Char
  | 'n' => some '\n'
  | 't' => some '\t'
  | 'r' => some '\r'
  | '\\' => some '\\'
  | '"' => some '"'
  | '\'' => some '\''
  | _ => none

/-- Reads a text up to its closing quote; `acc` holds its characters so far, the
last first. -/
def readText (size : Nat) (quote : Char) (acc : List Char) :
    List Char → Except OperandError (String × List Char)
  | [] => .error .unterminated
  | '\\' :: [] => .error .unterminated
  | '\\' :: e :: rest =>
    match unescape? e with
    | some c => readText size quote (c :: acc) rest
    | none => .error (.invalidEscape e (position size (e :: rest)))
  | c :: rest =>
    if c = quote then .ok (String.ofList acc.reverse, rest)
    else readText size quote (c :: acc) rest

def isNumberStart (c : Char) : Bool :=
  c.isDigit || c == '-' || c == '+' || c == '.'

def isNumberPart (c : Char) : Bool :=
  c.isDigit || c == '.' || c == 'e' || c == 'E' || c == '+' || c == '-'

def number (run : List Char) : Except OperandError Value :=
  match Number.read? run with
  | some x => .ok (.number x)
  | none => .error (.invalidNumber (String.ofList run))

def word (run : List Char) : Except OperandError Value :=
  if run = ['t', 'r', 'u', 'e'] then .ok (.bool true)
  else if run = ['f', 'a', 'l', 's', 'e'] then .ok (.bool false)
  else .error (.unquoted (String.ofList run))

def readScalar (size : Nat) : List Char → Except OperandError (Value × List Char)
  | [] => .error .endOfValue
  | c :: rest =>
    if c = '"' ∨ c = '\'' then
      match readText size c [] rest with
      | .ok (s, rest) => .ok (.text s, rest)
      | .error e => .error e
    else if isNumberStart c then
      match number (c :: rest.takeWhile isNumberPart) with
      | .ok v => .ok (v, rest.dropWhile isNumberPart)
      | .error e => .error e
    else if Text.isAlphabetic c then
      match word (c :: rest.takeWhile Text.isAlphanumeric) with
      | .ok v => .ok (v, rest.dropWhile Text.isAlphanumeric)
      | .error e => .error e
    else .error (.unexpected c)

def isElement : Value → Bool
  | .text _ => true
  | .number _ => true
  | _ => false

theorem length_skipBlanks (cs : List Char) : (skipBlanks cs).length ≤ cs.length :=
  (List.dropWhile_suffix _).length_le

theorem length_readText {size : Nat} {quote : Char} {acc cs : List Char} {s rest}
    (h : readText size quote acc cs = .ok (s, rest)) : rest.length < cs.length := by
  fun_induction readText size quote acc cs with
  | case1 => simp at h
  | case2 => simp at h
  | case3 acc e tail c _ ih => have := ih h; simp only [List.length_cons]; omega
  | case4 => simp at h
  | case5 => simp_all
  | case6 acc c tail _ _ _ ih => have := ih h; simp only [List.length_cons]; omega

theorem length_readScalar {size : Nat} {cs : List Char} {v rest}
    (h : readScalar size cs = .ok (v, rest)) : rest.length < cs.length := by
  unfold readScalar at h
  split at h
  · simp at h
  · next c tail =>
    have hnumber := (List.dropWhile_suffix isNumberPart (l := tail)).length_le
    have hword := (List.dropWhile_suffix Text.isAlphanumeric (l := tail)).length_le
    simp only [List.length_cons]
    split at h
    · split at h
      · next ht =>
        have := length_readText ht
        simp only [Except.ok.injEq, Prod.mk.injEq] at h
        rw [← h.2]
        omega
      · simp at h
    · split at h
      · split at h
        · simp only [Except.ok.injEq, Prod.mk.injEq] at h
          rw [← h.2]
          omega
        · simp at h
      · split at h
        · split at h
          · simp only [Except.ok.injEq, Prod.mk.injEq] at h
            rw [← h.2]
            omega
          · simp at h
        · simp at h

/-- Reads items up to the closing bracket; `acc` holds those before, the last
first. -/
def readItems (size : Nat) (acc : List Value) (cs : List Char) :
    Except OperandError (List Value × List Char) :=
  match _hitem : readScalar size (skipBlanks cs) with
  | .error e => .error e
  | .ok (item, afterItem) =>
    if isElement item then
      match _hnext : skipBlanks afterItem with
      | [] => .error .unclosedList
      | c :: rest =>
        if c = ',' then readItems size (item :: acc) rest
        else if c = ']' then .ok ((item :: acc).reverse, rest)
        else .error (.unexpectedAt c (position size (c :: rest)))
    else .error (.invalidElement item.typeName)
termination_by cs.length
decreasing_by
  have hscalar := length_readScalar _hitem
  have hblanks := length_skipBlanks cs
  have hafter := length_skipBlanks afterItem
  rw [_hnext, List.length_cons] at hafter
  omega

def text? : Value → Option String
  | .text s => some s
  | _ => none

def number? : Value → Option Number
  | .number x => some x
  | _ => none

def listOf (items : List Value) : Except OperandError Value :=
  match items.mapM text? with
  | some ss => .ok (.texts ss)
  | none =>
    match items.mapM number? with
    | some xs => .ok (.numbers xs)
    | none => .error .mixedList

def readList (size : Nat) (cs : List Char) : Except OperandError (Value × List Char) :=
  match skipBlanks cs with
  | ']' :: rest => .ok (.texts [], rest)
  | cs =>
    match readItems size [] cs with
    | .error e => .error e
    | .ok (items, rest) =>
      match listOf items with
      | .error e => .error e
      | .ok v => .ok (v, rest)

def readReference (cs : List Char) : Except OperandError (String × List Char) :=
  let inside := cs.takeWhile (· ≠ '}')
  match cs.dropWhile (· ≠ '}') with
  | [] => .error .unclosedReference
  | _ :: rest =>
    let name := Text.trim inside
    if Identifier.isValid name then .ok (String.ofList name, rest)
    else .error (.invalidReference (String.ofList name))

def readFront (size : Nat) : List Char → Except OperandError (Operand × List Char)
  | [] => .error .empty
  | '{' :: rest =>
    match readReference rest with
    | .ok (name, rest) => .ok (.reference name, rest)
    | .error e => .error e
  | '[' :: rest =>
    match readList size rest with
    | .ok (v, rest) => .ok (.literal v, rest)
    | .error e => .error e
  | cs =>
    match readScalar size cs with
    | .ok (v, rest) => .ok (.literal v, rest)
    | .error e => .error e

/-- The operand that the characters spell, blanks around it aside. -/
def parse (cs : List Char) : Except OperandError Operand :=
  let size := byteSize cs
  match readFront size (skipBlanks cs) with
  | .error e => .error e
  | .ok (operand, rest) =>
    match skipBlanks rest with
    | [] => .ok operand
    | c :: rest => .error (.unexpectedAt c (position size (c :: rest)))

end Operand

end FeatureFlags
