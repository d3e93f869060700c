import FeatureFlags.Operand.Parser
import FeatureFlags.Proofs.Identifier
import FeatureFlags.Proofs.Text.Blank

/-!
The grammar of operands: which texts spell a text, a number, a truth value, a list or the
name of a property, and which one.
-/

namespace FeatureFlags.Operand

/-- What a character stands for behind a backslash. -/
inductive Escaped : Char → Char → Prop
  | lineFeed : Escaped 'n' '\n'
  | tab : Escaped 't' '\t'
  | carriageReturn : Escaped 'r' '\r'
  | backslash : Escaped '\\' '\\'
  | doubleQuote : Escaped '"' '"'
  | singleQuote : Escaped '\'' '\''

/-- The characters between two quotes, and those they stand for. -/
inductive Quoted (quote : Char) : List Char → List Char → Prop
  | nil : Quoted quote [] []
  | plain {c : Char} {inside s : List Char} (hquote : c ≠ quote) (hbackslash : c ≠ '\\')
      (h : Quoted quote inside s) : Quoted quote (c :: inside) (c :: s)
  | escaped {e c : Char} {inside s : List Char} (hescaped : Escaped e c)
      (h : Quoted quote inside s) : Quoted quote ('\\' :: e :: inside) (c :: s)

/-- A text is spelled between double or single quotes. -/
inductive SpellsText : List Char → String → Prop
  | double {inside s : List Char} (h : Quoted '"' inside s) :
      SpellsText ('"' :: inside ++ ['"']) (String.ofList s)
  | single {inside s : List Char} (h : Quoted '\'' inside s) :
      SpellsText ('\'' :: inside ++ ['\'']) (String.ofList s)

/-- A number is spelled by a run of digits, points, exponent marks and signs, which begins
with neither of the marks and reads as a finite double. -/
structure SpellsNumber (cs : List Char) (x : Number) : Prop where
  begins : ∃ c ∈ cs.head?, c.isDigit ∨ c ∈ ['+', '-', '.']
  run : ∀ c ∈ cs, c.isDigit ∨ c ∈ ['.', 'e', 'E', '+', '-']
  reads : Number.read? cs = some x

/-- A spelling with blanks around it. -/
def Padded {α : Type} (spells : List Char → α → Prop) (cs : List Char) (x : α) : Prop :=
  ∃ before inside after, cs = before ++ inside ++ after ∧ (∀ c ∈ before, Text.isBlank c) ∧
    (∀ c ∈ after, Text.isBlank c) ∧ spells inside x

/-- One or more spellings, blanks around each, with commas between them. -/
inductive Items {α : Type} (spells : List Char → α → Prop) : List Char → List α → Prop
  | last {cs : List Char} {x : α} (h : Padded spells cs x) : Items spells cs [x]
  | more {cs rest : List Char} {x : α} {xs : List α} (h : Padded spells cs x)
      (hrest : Items spells rest xs) : Items spells (cs ++ ',' :: rest) (x :: xs)

/-- The spellings of single values. -/
inductive SpellsScalar : List Char → Value → Prop
  | text {cs : List Char} {s : String} (h : SpellsText cs s) : SpellsScalar cs (.text s)
  | number {cs : List Char} {x : Number} (h : SpellsNumber cs x) : SpellsScalar cs (.number x)
  | yes : SpellsScalar ['t', 'r', 'u', 'e'] (.bool true)
  | no : SpellsScalar ['f', 'a', 'l', 's', 'e'] (.bool false)

/-- The grammar of operands. -/
inductive Spells : List Char → Operand → Prop
  | scalar {cs : List Char} {v : Value} (h : SpellsScalar cs v) : Spells cs (.literal v)
  | emptyList {blanks : List Char} (h : ∀ c ∈ blanks, Text.isBlank c) :
      Spells ('[' :: blanks ++ [']']) (.literal (.texts []))
  | texts {items : List Char} {ss : List String} (h : Items SpellsText items ss) :
      Spells ('[' :: items ++ [']']) (.literal (.texts ss))
  | numbers {items : List Char} {xs : List Number} (h : Items SpellsNumber items xs) :
      Spells ('[' :: items ++ [']']) (.literal (.numbers xs))
  | reference {inside : List Char} (hclosed : '}' ∉ inside)
      (hname : Identifier.IsName (Text.trim inside)) :
      Spells ('{' :: inside ++ ['}']) (.reference (String.ofList (Text.trim inside)))

theorem isNumberStart_iff {c : Char} : isNumberStart c ↔ c.isDigit ∨ c ∈ ['+', '-', '.'] := by
  simp only [isNumberStart, Bool.or_eq_true, beq_iff_eq, List.mem_cons, List.not_mem_nil, or_false]
  tauto

theorem isNumberPart_iff {c : Char} :
    isNumberPart c ↔ c.isDigit ∨ c ∈ ['.', 'e', 'E', '+', '-'] := by
  simp only [isNumberPart, Bool.or_eq_true, beq_iff_eq, List.mem_cons, List.not_mem_nil, or_false,
    or_assoc]

theorem isNumberPart_of_isNumberStart {c : Char} (h : isNumberStart c) : isNumberPart c := by
  rw [isNumberStart_iff] at h
  rw [isNumberPart_iff]
  rcases h with h | h
  · exact .inl h
  · simp only [List.mem_cons, List.not_mem_nil, or_false] at h
    rcases h with rfl | rfl | rfl <;> decide

theorem unescape?_eq_some_iff {e c : Char} : unescape? e = some c ↔ Escaped e c := by
  constructor
  · intro h
    unfold unescape? at h
    split at h <;> cases h <;> constructor
  · rintro (_ | _)
    all_goals rfl

theorem trimmed_between {opening closing : Char} (inside : List Char)
    (hopening : Text.isBlank opening = false) (hclosing : Text.isBlank closing = false) :
    Text.Trimmed (opening :: inside ++ [closing]) := by
  refine ⟨?_, ?_⟩
  · rintro c ⟨⟩
    exact hopening
  · intro c hc
    rw [List.getLast?_append, List.getLast?_singleton] at hc
    cases hc
    exact hclosing

end FeatureFlags.Operand
