import FeatureFlags.Proofs.Json.Numeral
import FeatureFlags.Proofs.Json.Text

namespace FeatureFlags

namespace Json

mutual

/-- The document that the written text spells. -/
def toDocument : Json → Document
  | .null => .null
  | .bool b => .bool b
  | .number n => .number n.numeral
  | .string s => .string (some s)
  | .array items => .array (itemsToDocument items)
  | .object members => .object (membersToDocument members)

def itemsToDocument : List Json → List Document
  | [] => []
  | item :: items => item.toDocument :: itemsToDocument items

def membersToDocument : List (String × Json) → List (StringText × Document)
  | [] => []
  | (key, value) :: members => (some key, value.toDocument) :: membersToDocument members

end

theorem itemsToDocument_eq_map (items : List Json) :
    itemsToDocument items = items.map toDocument := by
  induction items with
  | nil => rfl
  | cons item items ih => rw [itemsToDocument, ih, List.map_cons]

theorem membersToDocument_eq_map (members : List (String × Json)) :
    membersToDocument members = members.map fun m => (some m.1, m.2.toDocument) := by
  induction members with
  | nil => rfl
  | cons m members ih => rw [membersToDocument, ih, List.map_cons]

end Json

namespace Document

namespace Token

theorem isSpace_of_scan {cs : List Char} {t : Token} {rest : List Char}
    (h : scan cs = some (t, rest)) : cs.dropWhile isSpace = cs := by
  cases cs with
  | nil => rfl
  | cons c cs =>
      rw [List.dropWhile_cons, if_neg]
      intro hspace
      simp only [isSpace, Bool.or_eq_true, beq_iff_eq] at hspace
      rcases hspace with ((rfl | rfl) | rfl) | rfl <;> cases h

end Token

namespace Machine

theorem run_eq (m : Machine) (cs : List Char) :
    m.run cs =
      match cs.dropWhile Token.isSpace with
      | [] => m.result?
      | text =>
          (Token.scan text).bind fun (t, rest) => (m.step t).bind fun next => next.run rest := by
  rw [run]
  split
  · next h => rw [h]
  · next h =>
      rw [h]
      split
      · next hscan => simp [hscan]
      · next hscan =>
          split <;> simp [*]

theorem run_spaces (m : Machine) {spaces : List Char} (h : ∀ c ∈ spaces, Token.isSpace c)
    (cs : List Char) : m.run (spaces ++ cs) = m.run cs := by
  have hdrop : (spaces ++ cs).dropWhile Token.isSpace = cs.dropWhile Token.isSpace :=
    List.dropWhile_append_of_pos h
  rw [run_eq, run_eq, hdrop]

theorem run_token {m next : Machine} {cs rest : List Char} {t : Token}
    (hscan : Token.scan cs = some (t, rest)) (hstep : m.step t = some next) :
    m.run cs = next.run rest := by
  rw [run_eq, Token.isSpace_of_scan hscan]
  cases cs with
  | nil => cases hscan
  | cons c cs => simp [hscan, hstep]

end Machine

namespace Token

def IsDelimiter (c : Char) : Prop :=
  c = ',' ∨ c = ']' ∨ c = '}'

theorem endsNumber_nil : EndsNumber [] := by
  rintro c ⟨⟩

theorem EndsNumber.of_isDelimiter {c : Char} (hc : IsDelimiter c) (rest : List Char) :
    EndsNumber (c :: rest) := by
  rintro d ⟨⟩
  rcases hc with rfl | rfl | rfl <;> decide

theorem EndsNumber.of_spaces {spaces rest : List Char} (hspaces : ∀ c ∈ spaces, isSpace c)
    (h : EndsNumber rest) : EndsNumber (spaces ++ rest) := by
  cases spaces with
  | nil => exact h
  | cons c spaces =>
      rintro d ⟨⟩
      have hspace := hspaces c (by simp)
      simp only [isSpace, Bool.or_eq_true, beq_iff_eq] at hspace
      rcases hspace with ((rfl | rfl) | rfl) | rfl <;> decide

end Token

namespace Machine

/-- Where a value may begin. -/
def Expects (goal : Goal) : Prop :=
  goal = .value ∨ goal = .item

theorem run_value {goal : Goal} {frames : List Frame} {m : Machine} {cs rest : List Char}
    {t : Token} (hscan : Token.scan cs = some (t, rest)) (hgoal : Expects goal)
    (ht : t ≠ .closeArray) (hbegin : beginValue frames t = some m) :
    run ⟨frames, goal⟩ cs = m.run rest := by
  refine run_token hscan ?_
  rw [← hbegin]
  rcases hgoal with rfl | rfl <;> cases t <;> first | rfl | exact absurd rfl ht

end Machine

end Document

namespace Json

/-- A layout puts nothing but spaces between tokens. -/
structure Layout.Blank (l : Layout) : Prop where
  line : ∀ depth, ∀ c ∈ l.line depth, Document.Token.isSpace c
  colon : ∀ c ∈ l.colon, Document.Token.isSpace c

theorem Layout.blank_compact : Layout.compact.Blank :=
  ⟨by simp [compact], by simp [compact]⟩

theorem Layout.blank_indented : Layout.indented.Blank := by
  constructor
  · intro depth c hc
    rcases List.mem_cons.mp hc with rfl | hc
    · rfl
    · rw [List.eq_of_mem_replicate hc]
      rfl
  · intro c hc
    rw [List.mem_singleton.mp hc]
    rfl

section Run

open Document Document.Machine Document.Token

variable {l : Layout}

theorem endsNumber_itemCharacters (items : List Json) (depth : Nat) {rest : List Char}
    (h : EndsNumber rest) : EndsNumber (itemCharacters l depth items ++ rest) := by
  cases items with
  | nil => exact h
  | cons item items => exact .of_isDelimiter (.inl rfl) _

theorem endsNumber_memberCharacters (members : List (String × Json)) (depth : Nat)
    {rest : List Char} (h : EndsNumber rest) :
    EndsNumber (memberCharacters l depth members ++ rest) := by
  cases members with
  | nil => exact h
  | cons m members => exact .of_isDelimiter (.inl rfl) _

theorem run_key (hl : l.Blank) (key : String) {goal : Goal}
    (hgoal : goal = .member ∨ goal = .key) (done : List (StringText × Document))
    (frames : List Frame) (rest : List Char) :
    Machine.run ⟨.object done :: frames, goal⟩ (quoted key ++ ':' :: (l.colon ++ rest)) =
      Machine.run ⟨.member done (some key) :: frames, .value⟩ rest := by
  calc
    _ = Machine.run ⟨.member done (some key) :: frames, .colon⟩ (':' :: (l.colon ++ rest)) := by
        refine run_token (scan_quoted key _) ?_
        rcases hgoal with rfl | rfl <;> rfl
    _ = Machine.run ⟨.member done (some key) :: frames, .value⟩ (l.colon ++ rest) :=
        run_token rfl rfl
    _ = _ := run_spaces _ hl.colon rest

mutual

/-- Where a value may begin, a written one is read and handed to the container around it. -/
theorem run_characters (hl : l.Blank) (j : Json) (depth : Nat) {frames : List Frame}
    {goal : Goal} {m : Machine} {rest : List Char} (hgoal : Expects goal)
    (hrest : EndsNumber rest) (hsupply : supply j.toDocument frames = some m) :
    Machine.run ⟨frames, goal⟩ (characters l depth j ++ rest) = m.run rest := by
  match j with
  | .null => exact run_value (t := .null) rfl hgoal (by simp) hsupply
  | .bool true => exact run_value (t := .bool true) rfl hgoal (by simp) hsupply
  | .bool false => exact run_value (t := .bool false) rfl hgoal (by simp) hsupply
  | .number n =>
      rw [characters, ← n.characters_numeral]
      exact run_value (scan_characters n.wellFormed_numeral hrest) hgoal (by simp) hsupply
  | .string s =>
      rw [characters]
      exact run_value (scan_quoted s rest) hgoal (by simp) hsupply
  | .array [] =>
      calc
        _ = Machine.run ⟨.array [] :: frames, .item⟩ (']' :: rest) :=
            run_value (t := .openArray) rfl hgoal (by simp) rfl
        _ = m.run rest := run_token rfl hsupply
  | .array (item :: items) =>
      have hclose : EndsNumber (l.line depth ++ ']' :: rest) :=
        .of_spaces (hl.line depth) (.of_isDelimiter (.inr (.inl rfl)) rest)
      calc
        _ = Machine.run ⟨frames, goal⟩ ('[' :: (l.line (depth + 1) ++
              (characters l (depth + 1) item ++ (itemCharacters l (depth + 1) items ++
                (l.line depth ++ ']' :: rest))))) := by simp [characters]
        _ = Machine.run ⟨.array [] :: frames, .item⟩ (l.line (depth + 1) ++
              (characters l (depth + 1) item ++ (itemCharacters l (depth + 1) items ++
                (l.line depth ++ ']' :: rest)))) :=
            run_value (t := .openArray) rfl hgoal (by simp) rfl
        _ = Machine.run ⟨.array [] :: frames, .item⟩ (characters l (depth + 1) item ++
              (itemCharacters l (depth + 1) items ++ (l.line depth ++ ']' :: rest))) :=
            run_spaces _ (hl.line _) _
        _ = Machine.run ⟨.array [item.toDocument] :: frames, .separator⟩
              (itemCharacters l (depth + 1) items ++ (l.line depth ++ ']' :: rest)) :=
            run_characters hl item (depth + 1) (.inr rfl)
              (endsNumber_itemCharacters items _ hclose) rfl
        _ = Machine.run ⟨.array ((itemsToDocument items).reverse ++ [item.toDocument]) :: frames,
              .separator⟩ (l.line depth ++ ']' :: rest) :=
            run_itemCharacters hl items (depth + 1) [item.toDocument] hclose
        _ = Machine.run ⟨.array ((itemsToDocument items).reverse ++ [item.toDocument]) :: frames,
              .separator⟩ (']' :: rest) := run_spaces _ (hl.line _) _
        _ = m.run rest := by
            refine run_token (t := .closeArray) rfl ?_
            simpa [step, toDocument, itemsToDocument] using hsupply
  | .object [] =>
      calc
        _ = Machine.run ⟨.object [] :: frames, .member⟩ ('}' :: rest) :=
            run_value (t := .openObject) rfl hgoal (by simp) rfl
        _ = m.run rest := run_token rfl hsupply
  | .object ((key, value) :: members) =>
      have hclose : EndsNumber (l.line depth ++ '}' :: rest) :=
        .of_spaces (hl.line depth) (.of_isDelimiter (.inr (.inr rfl)) rest)
      calc
        _ = Machine.run ⟨frames, goal⟩ ('{' :: (l.line (depth + 1) ++ (quoted key ++ ':' ::
              (l.colon ++ (characters l (depth + 1) value ++ (memberCharacters l (depth + 1)
                members ++ (l.line depth ++ '}' :: rest))))))) := by simp [characters]
        _ = Machine.run ⟨.object [] :: frames, .member⟩ (l.line (depth + 1) ++ (quoted key ++
              ':' :: (l.colon ++ (characters l (depth + 1) value ++ (memberCharacters l (depth + 1)
                members ++ (l.line depth ++ '}' :: rest)))))) :=
            run_value (t := .openObject) rfl hgoal (by simp) rfl
        _ = Machine.run ⟨.member [] (some key) :: frames, .value⟩
              (characters l (depth + 1) value ++ (memberCharacters l (depth + 1) members ++
                (l.line depth ++ '}' :: rest))) :=
            (run_spaces _ (hl.line _) _).trans (run_key hl key (.inl rfl) [] frames _)
        _ = Machine.run ⟨.object [(some key, value.toDocument)] :: frames, .separator⟩
              (memberCharacters l (depth + 1) members ++ (l.line depth ++ '}' :: rest)) :=
            run_characters hl value (depth + 1) (.inl rfl)
              (endsNumber_memberCharacters members _ hclose) rfl
        _ = Machine.run ⟨.object ((membersToDocument members).reverse ++
              [(some key, value.toDocument)]) :: frames, .separator⟩
                (l.line depth ++ '}' :: rest) :=
            run_memberCharacters hl members (depth + 1) _ hclose
        _ = Machine.run ⟨.object ((membersToDocument members).reverse ++
              [(some key, value.toDocument)]) :: frames, .separator⟩ ('}' :: rest) :=
            run_spaces _ (hl.line _) _
        _ = m.run rest := by
            refine run_token (t := .closeObject) rfl ?_
            simpa [step, toDocument, membersToDocument] using hsupply

theorem run_itemCharacters (hl : l.Blank) (items : List Json) (depth : Nat)
    (done : List Document) {frames : List Frame} {rest : List Char} (hrest : EndsNumber rest) :
    Machine.run ⟨.array done :: frames, .separator⟩ (itemCharacters l depth items ++ rest) =
      Machine.run ⟨.array ((itemsToDocument items).reverse ++ done) :: frames, .separator⟩
        rest := by
  match items with
  | [] => rfl
  | item :: items =>
      calc
        _ = Machine.run ⟨.array done :: frames, .separator⟩ (',' :: (l.line depth ++
              (characters l depth item ++ (itemCharacters l depth items ++ rest)))) := by
            simp [itemCharacters]
        _ = Machine.run ⟨.array done :: frames, .value⟩ (l.line depth ++
              (characters l depth item ++ (itemCharacters l depth items ++ rest))) :=
            run_token (t := .comma) rfl rfl
        _ = Machine.run ⟨.array done :: frames, .value⟩
              (characters l depth item ++ (itemCharacters l depth items ++ rest)) :=
            run_spaces _ (hl.line _) _
        _ = Machine.run ⟨.array (item.toDocument :: done) :: frames, .separator⟩
              (itemCharacters l depth items ++ rest) :=
            run_characters hl item depth (.inl rfl) (endsNumber_itemCharacters items _ hrest) rfl
        _ = Machine.run ⟨.array ((itemsToDocument items).reverse ++ item.toDocument :: done) ::
              frames, .separator⟩ rest := run_itemCharacters hl items depth _ hrest
        _ = _ := by simp [itemsToDocument]

theorem run_memberCharacters (hl : l.Blank) (members : List (String × Json)) (depth : Nat)
    (done : List (StringText × Document)) {frames : List Frame} {rest : List Char}
    (hrest : EndsNumber rest) :
    Machine.run ⟨.object done :: frames, .separator⟩ (memberCharacters l depth members ++ rest) =
      Machine.run ⟨.object ((membersToDocument members).reverse ++ done) :: frames, .separator⟩
        rest := by
  match members with
  | [] => rfl
  | (key, value) :: members =>
      calc
        _ = Machine.run ⟨.object done :: frames, .separator⟩ (',' :: (l.line depth ++
              (quoted key ++ ':' :: (l.colon ++ (characters l depth value ++
                (memberCharacters l depth members ++ rest)))))) := by
            simp [memberCharacters]
        _ = Machine.run ⟨.object done :: frames, .key⟩ (l.line depth ++ (quoted key ++ ':' ::
              (l.colon ++ (characters l depth value ++
                (memberCharacters l depth members ++ rest))))) := run_token (t := .comma) rfl rfl
        _ = Machine.run ⟨.member done (some key) :: frames, .value⟩ (characters l depth value ++
              (memberCharacters l depth members ++ rest)) :=
            (run_spaces _ (hl.line _) _).trans (run_key hl key (.inr rfl) done frames _)
        _ = Machine.run ⟨.object ((some key, value.toDocument) :: done) :: frames, .separator⟩
              (memberCharacters l depth members ++ rest) :=
            run_characters hl value depth (.inl rfl) (endsNumber_memberCharacters members _ hrest)
              rfl
        _ = Machine.run ⟨.object ((membersToDocument members).reverse ++
              (some key, value.toDocument) :: done) :: frames, .separator⟩ rest :=
            run_memberCharacters hl members depth _ hrest
        _ = _ := by simp [membersToDocument]

end

theorem parse?_of_toList (hl : l.Blank) (j : Json) {s : String} {spaces : List Char}
    (hspaces : ∀ c ∈ spaces, isSpace c) (hs : s.toList = characters l 0 j ++ spaces) :
    parse? s = some j.toDocument := by
  have hends : EndsNumber spaces := by
    simpa using EndsNumber.of_spaces hspaces endsNumber_nil
  rw [parse?, hs]
  calc
    _ = Machine.run ⟨[], .done j.toDocument⟩ spaces :=
        run_characters hl j 0 (.inl rfl) hends rfl
    _ = Machine.run ⟨[], .done j.toDocument⟩ [] := by
        simpa using run_spaces ⟨[], .done j.toDocument⟩ hspaces []
    _ = some j.toDocument := by
        rw [run_eq]
        rfl

theorem parse?_compact (j : Json) : parse? j.compact = some j.toDocument := by
  apply parse?_of_toList Layout.blank_compact j (List.forall_mem_nil _)
  simp [compact]

theorem parse?_indented (j : Json) : parse? j.indented = some j.toDocument := by
  apply parse?_of_toList Layout.blank_indented j (List.forall_mem_nil _)
  simp [indented]

end Run

end Json

end FeatureFlags
