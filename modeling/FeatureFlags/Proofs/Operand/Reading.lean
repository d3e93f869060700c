import FeatureFlags.Proofs.Operand.Grammar
import FeatureFlags.Proofs.Pairing

namespace FeatureFlags.Operand

theorem not_isBlank_of_isNumberPart {c : Char} (h : isNumberPart c) : Text.isBlank c = false :=
  Text.isBlank_eq_false_of h (by decide +kernel)

section Scalars

/-- An operand ends before the characters. Numbers and words extend as far as they can, so
what follows one must not go on with it. -/
def Ends : Operand → List Char → Prop
  | .literal (.number _), rest => ∀ c ∈ rest.head?, isNumberPart c = false
  | .literal (.bool _), rest => ∀ c ∈ rest.head?, Text.isAlphanumeric c = false
  | _, _ => True

theorem ends_append {o : Operand} {blanks rest : List Char}
    (hblanks : ∀ c ∈ blanks, Text.isBlank c)
    (hrest : ∀ c ∈ rest.head?, isNumberPart c = false ∧ Text.isAlphanumeric c = false) :
    Ends o (blanks ++ rest) := by
  have hhead : ∀ c ∈ (blanks ++ rest).head?,
      isNumberPart c = false ∧ Text.isAlphanumeric c = false := by
    cases blanks with
    | nil => exact hrest
    | cons d blanks =>
        rintro c ⟨⟩
        have hd := hblanks d (by simp)
        constructor
        · rw [Bool.eq_false_iff]
          exact fun hpart => by simp [not_isBlank_of_isNumberPart hpart] at hd
        · rw [Bool.eq_false_iff]
          exact fun hpart => by simp [Text.isBlank_eq_false_of_isAlphanumeric hpart] at hd
  unfold Ends
  split
  · exact fun c hc => (hhead c hc).1
  · exact fun c hc => (hhead c hc).2
  · trivial

theorem readText_cons {c : Char} (h : c ≠ '\\') (size : Nat) (quote : Char)
    (acc rest : List Char) :
    readText size quote acc (c :: rest) =
      if c = quote then .ok (String.ofList acc.reverse, rest)
      else readText size quote (c :: acc) rest :=
  readText.eq_4 _ _ _ _ _ (fun hc => absurd hc h) (fun _ _ hc => absurd hc h)

theorem Quoted.readText {quote : Char} {inside s : List Char} (h : Quoted quote inside s)
    (hquote : quote ≠ '\\') (size : Nat) (acc rest : List Char) :
    readText size quote acc (inside ++ quote :: rest) =
      .ok (String.ofList (acc.reverse ++ s), rest) := by
  induction h generalizing acc with
  | nil => rw [List.nil_append, readText_cons hquote, if_pos rfl, List.append_nil]
  | plain hc hbackslash _ ih =>
      rw [List.cons_append, readText_cons hbackslash, if_neg hc, ih]
      simp
  | escaped he _ ih =>
      rw [List.cons_append, List.cons_append, Operand.readText, unescape?_eq_some_iff.mpr he]
      simp [ih]

theorem exists_quoted_of_readText {size : Nat} {quote : Char} {acc cs rest : List Char}
    {t : String} (h : readText size quote acc cs = .ok (t, rest)) :
    ∃ inside s, Quoted quote inside s ∧ cs = inside ++ quote :: rest ∧
      t = String.ofList (acc.reverse ++ s) := by
  fun_induction readText size quote acc cs with
  | case1 => cases h
  | case2 => cases h
  | case3 acc e tail c he ih =>
      obtain ⟨inside, s, hinside, rfl, rfl⟩ := ih h
      refine ⟨'\\' :: e :: inside, c :: s, .escaped (unescape?_eq_some_iff.mp he) hinside, rfl, ?_⟩
      simp
  | case4 => cases h
  | case5 acc tail =>
      cases h
      exact ⟨[], [], .nil, rfl, by simp⟩
  | case6 acc c tail hend hescape hc ih =>
      obtain ⟨inside, s, hinside, rfl, rfl⟩ := ih h
      have hbackslash : c ≠ '\\' := by
        rintro rfl
        cases inside with
        | nil => exact hescape _ _ rfl rfl
        | cons e inside => exact hescape _ _ rfl rfl
      exact ⟨c :: inside, c :: s, .plain hc hbackslash hinside, rfl, by simp⟩

theorem SpellsScalar.exists_cons {cs : List Char} {v : Value} (h : SpellsScalar cs v) :
    ∃ c rest, cs = c :: rest ∧ Text.isBlank c = false ∧ c ∉ ['{', '[', ']'] := by
  cases h with
  | text h => rcases h with h | h <;> exact ⟨_, _, rfl, by decide, by decide⟩
  | number h =>
      obtain ⟨c, hc, hstart⟩ := h.begins
      obtain ⟨rest, rfl⟩ := List.head?_eq_some_iff.mp hc
      rw [← isNumberStart_iff] at hstart
      refine ⟨c, rest, rfl,
        not_isBlank_of_isNumberPart (isNumberPart_of_isNumberStart hstart), ?_⟩
      intro hmem
      simp only [List.mem_cons, List.not_mem_nil, or_false] at hmem
      rcases hmem with rfl | rfl | rfl <;> exact absurd hstart (by decide)
  | yes => exact ⟨_, _, rfl, by decide, by decide⟩
  | no => exact ⟨_, _, rfl, by decide, by decide⟩

theorem SpellsScalar.trimmed {cs : List Char} {v : Value} (h : SpellsScalar cs v) :
    Text.Trimmed cs := by
  cases h with
  | text h => rcases h with h | h <;> exact trimmed_between _ (by decide) (by decide)
  | number h =>
      have hrun : ∀ c ∈ cs, Text.isBlank c = false := fun c hc =>
        not_isBlank_of_isNumberPart (isNumberPart_iff.mpr (h.run c hc))
      exact ⟨fun c hc => hrun c (List.mem_of_mem_head? hc),
        fun c hc => hrun c (List.mem_of_mem_getLast? hc)⟩
  | yes | no => exact ⟨by rintro c ⟨⟩; decide, by rintro c ⟨⟩; decide⟩

theorem readScalar_quote {quote : Char} (h : quote = '"' ∨ quote = '\'') (size : Nat)
    (cs : List Char) :
    readScalar size (quote :: cs) =
      match readText size quote [] cs with
      | .ok (s, rest) => .ok (.text s, rest)
      | .error e => .error e := by
  unfold readScalar
  exact if_pos h

theorem readScalar_number {c : Char} (h : isNumberStart c) (size : Nat) (cs : List Char) :
    readScalar size (c :: cs) =
      match number ((c :: cs).takeWhile isNumberPart) with
      | .ok v => .ok (v, (c :: cs).dropWhile isNumberPart)
      | .error e => .error e := by
  have hquote : ¬(c = '"' ∨ c = '\'') := by
    rintro (rfl | rfl) <;> exact absurd h (by decide)
  have hpart := isNumberPart_of_isNumberStart h
  rw [List.takeWhile_cons_of_pos hpart, List.dropWhile_cons_of_pos hpart]
  unfold readScalar
  exact (if_neg hquote).trans (if_pos h)

theorem readScalar_word {c : Char} (hnumber : ¬isNumberStart c) (h : Text.isAlphabetic c)
    (size : Nat) (cs : List Char) :
    readScalar size (c :: cs) =
      match word ((c :: cs).takeWhile Text.isAlphanumeric) with
      | .ok v => .ok (v, (c :: cs).dropWhile Text.isAlphanumeric)
      | .error e => .error e := by
  have hquote : ¬(c = '"' ∨ c = '\'') := by
    rintro (rfl | rfl) <;> exact absurd h (by decide)
  have hpart : Text.isAlphanumeric c := by simp [Text.isAlphanumeric, h]
  rw [List.takeWhile_cons_of_pos hpart, List.dropWhile_cons_of_pos hpart]
  unfold readScalar
  exact (if_neg hquote).trans ((if_neg hnumber).trans (if_pos h))

theorem number_eq_ok_iff {run : List Char} {v : Value} :
    number run = .ok v ↔ ∃ x, Number.read? run = some x ∧ v = .number x := by
  unfold number
  cases Number.read? run with
  | none => simp
  | some x => simp [eq_comm]

theorem word_eq_ok_iff {run : List Char} {v : Value} :
    word run = .ok v ↔
      run = ['t', 'r', 'u', 'e'] ∧ v = .bool true ∨
        run = ['f', 'a', 'l', 's', 'e'] ∧ v = .bool false := by
  unfold word
  split
  · next h => simp [h, eq_comm]
  · next h => split <;> simp [*, eq_comm]

theorem readScalar_of_word {c : Char} {run rest : List Char} {v : Value}
    (hnumber : ¬isNumberStart c) (hletter : Text.isAlphabetic c)
    (hrun : ∀ d ∈ c :: run, Text.isAlphanumeric d)
    (hends : ∀ d ∈ rest.head?, Text.isAlphanumeric d = false) (hword : word (c :: run) = .ok v)
    (size : Nat) : readScalar size (c :: run ++ rest) = .ok (v, rest) := by
  obtain ⟨htake, hdrop⟩ := Text.takeWhile_dropWhile_iff.mpr ⟨rfl, hrun, hends⟩
  rw [List.cons_append] at htake hdrop ⊢
  rw [readScalar_word hnumber hletter, htake, hdrop, hword]

theorem SpellsScalar.readScalar {front rest : List Char} {v : Value} (h : SpellsScalar front v)
    (hends : Ends (.literal v) rest) (size : Nat) :
    readScalar size (front ++ rest) = .ok (v, rest) := by
  cases h with
  | text h =>
      rcases h with h | h
      all_goals
        have hread := h.readText (by decide) size [] rest
        rw [List.append_assoc, List.cons_append, List.singleton_append,
          readScalar_quote (by simp), hread]
        rfl
  | number h =>
      obtain ⟨c, hc, hstart⟩ := h.begins
      obtain ⟨tail, rfl⟩ := List.head?_eq_some_iff.mp hc
      have hrun : ∀ d ∈ c :: tail, isNumberPart d := fun d hd => isNumberPart_iff.mpr (h.run d hd)
      obtain ⟨htake, hdrop⟩ := Text.takeWhile_dropWhile_iff.mpr ⟨rfl, hrun, hends⟩
      rw [List.cons_append] at htake hdrop ⊢
      rw [readScalar_number (isNumberStart_iff.mpr hstart), htake, hdrop,
        number_eq_ok_iff.mpr ⟨_, h.reads, rfl⟩]
  | yes | no =>
      exact readScalar_of_word (by decide) (by decide) (List.all_eq_true.mp (by decide)) hends
        rfl size

section Sound

variable {size : Nat} {c : Char} {tail rest : List Char} {v : Value}

theorem exists_spells_of_quote (hquote : c = '"' ∨ c = '\'')
    (h : readScalar size (c :: tail) = .ok (v, rest)) :
    ∃ front, c :: tail = front ++ rest ∧ SpellsScalar front v := by
  rw [readScalar_quote hquote] at h
  split at h
  · next s after hread =>
      cases h
      obtain ⟨inside, s, hinside, rfl, rfl⟩ := exists_quoted_of_readText hread
      refine ⟨c :: inside ++ [c], by simp, .text ?_⟩
      rcases hquote with rfl | rfl
      · exact .double hinside
      · exact .single hinside
  · cases h

theorem exists_spells_of_isNumberStart (hnumber : isNumberStart c)
    (h : readScalar size (c :: tail) = .ok (v, rest)) :
    ∃ front, c :: tail = front ++ rest ∧ SpellsScalar front v := by
  rw [readScalar_number hnumber] at h
  split at h
  · next v hread =>
      cases h
      obtain ⟨x, hx, rfl⟩ := number_eq_ok_iff.mp hread
      refine ⟨_, List.takeWhile_append_dropWhile.symm, .number ⟨⟨c, ?_, ?_⟩, ?_, hx⟩⟩
      · rw [List.takeWhile_cons_of_pos (isNumberPart_of_isNumberStart hnumber)]
        rfl
      · exact isNumberStart_iff.mp hnumber
      · exact fun d hd => isNumberPart_iff.mp (List.mem_takeWhile_imp hd)
  · cases h

theorem exists_spells_of_isAlphabetic (hnumber : ¬isNumberStart c) (hword : Text.isAlphabetic c)
    (h : readScalar size (c :: tail) = .ok (v, rest)) :
    ∃ front, c :: tail = front ++ rest ∧ SpellsScalar front v := by
  rw [readScalar_word hnumber hword] at h
  split at h
  · next v hread =>
      cases h
      refine ⟨_, List.takeWhile_append_dropWhile.symm, ?_⟩
      rcases word_eq_ok_iff.mp hread with ⟨hrun, rfl⟩ | ⟨hrun, rfl⟩
      · rw [hrun]
        exact .yes
      · rw [hrun]
        exact .no
  · cases h

theorem exists_spells_of_readScalar {cs : List Char} (h : readScalar size cs = .ok (v, rest)) :
    ∃ front, cs = front ++ rest ∧ SpellsScalar front v := by
  cases cs with
  | nil => cases h
  | cons c tail =>
      by_cases hquote : c = '"' ∨ c = '\''
      · exact exists_spells_of_quote hquote h
      by_cases hnumber : isNumberStart c
      · exact exists_spells_of_isNumberStart hnumber h
      by_cases hword : Text.isAlphabetic c
      · exact exists_spells_of_isAlphabetic hnumber hword h
      rw [readScalar, if_neg hquote, if_neg hnumber, if_neg hword] at h
      cases h

end Sound

end Scalars

section Lists

variable {α β : Type}

theorem skipBlanks_append {blanks rest : List Char} (hblanks : ∀ c ∈ blanks, Text.isBlank c)
    (hrest : ∀ c ∈ rest.head?, Text.isBlank c = false) : skipBlanks (blanks ++ rest) = rest := by
  rw [skipBlanks, List.dropWhile_append_of_pos hblanks, Text.dropWhile_eq_self hrest]

theorem Padded.append_blanks {spells : List Char → α → Prop} {cs blanks : List Char} {x : α}
    (hblanks : ∀ c ∈ blanks, Text.isBlank c) (h : Padded spells cs x) :
    Padded spells (blanks ++ cs) x := by
  obtain ⟨before, inside, after, rfl, hbefore, hafter, hinside⟩ := h
  refine ⟨blanks ++ before, inside, after, by simp, ?_, hafter, hinside⟩
  intro c hc
  rcases List.mem_append.mp hc with hc | hc
  · exact hblanks c hc
  · exact hbefore c hc

theorem Padded.imp {spells : List Char → α → Prop} {spells' : List Char → β → Prop} {x : α} {y : β}
    {cs : List Char} (h : ∀ inside, spells inside x → spells' inside y)
    (hcs : Padded spells cs x) : Padded spells' cs y := by
  obtain ⟨before, inside, after, hsplit, hbefore, hafter, hinside⟩ := hcs
  exact ⟨before, inside, after, hsplit, hbefore, hafter, h inside hinside⟩

theorem items_map_iff {spells : List Char → α → Prop} {spells' : List Char → β → Prop}
    {f : α → β} (h : ∀ cs x, spells' cs (f x) ↔ spells cs x) {cs : List Char} {xs : List α} :
    Items spells' cs (xs.map f) ↔ Items spells cs xs := by
  constructor
  · intro hcs
    generalize hys : xs.map f = ys at hcs
    induction hcs generalizing xs with
    | last hitem =>
        obtain ⟨x, rfl, rfl⟩ := List.map_eq_singleton_iff.mp hys
        exact .last (hitem.imp fun inside => (h inside x).mp)
    | more hitem _ ih =>
        obtain ⟨x, tail, rfl, rfl, htail⟩ := List.map_eq_cons_iff.mp hys
        exact .more (hitem.imp fun inside => (h inside x).mp) (ih htail)
  · intro hcs
    induction hcs with
    | last hitem => exact .last (hitem.imp fun inside => (h inside _).mpr)
    | more hitem _ ih => exact .more (hitem.imp fun inside => (h inside _).mpr) ih

/-- An item of a list before its kind is compared with that of the others. -/
def SpellsElement (cs : List Char) (v : Value) : Prop :=
  isElement v ∧ SpellsScalar cs v

theorem spellsElement_text_iff (cs : List Char) (s : String) :
    SpellsElement cs (.text s) ↔ SpellsText cs s := by
  constructor
  · rintro ⟨-, hscalar⟩
    cases hscalar with
    | text h => exact h
  · exact fun h => ⟨rfl, .text h⟩

theorem spellsElement_number_iff (cs : List Char) (x : Number) :
    SpellsElement cs (.number x) ↔ SpellsNumber cs x := by
  constructor
  · rintro ⟨-, hscalar⟩
    cases hscalar with
    | number h => exact h
  · exact fun h => ⟨rfl, .number h⟩

theorem Padded.isElement {cs : List Char} {v : Value} (h : Padded SpellsElement cs v) :
    isElement v := by
  obtain ⟨_, _, _, _, _, _, helement, _⟩ := h
  exact helement

theorem readScalar_padded {padded rest : List Char} {c : Char} {v : Value}
    (h : Padded SpellsScalar padded v) (hc : c = ',' ∨ c = ']') (size : Nat) :
    ∃ after, readScalar size (skipBlanks (padded ++ c :: rest)) = .ok (v, after) ∧
      skipBlanks after = c :: rest := by
  obtain ⟨before, inside, after, rfl, hbefore, hafter, hinside⟩ := h
  obtain ⟨d, tail, hcons, hd, -⟩ := hinside.exists_cons
  refine ⟨after ++ c :: rest, ?_, skipBlanks_append hafter ?_⟩
  · rw [List.append_assoc, List.append_assoc, skipBlanks_append hbefore]
    · refine hinside.readScalar (ends_append hafter ?_) size
      rintro e ⟨⟩
      rcases hc with rfl | rfl <;> decide
    · rw [hcons]
      rintro e ⟨⟩
      exact hd
  · rintro e ⟨⟩
    rcases hc with rfl | rfl <;> decide

theorem exists_padded_of_readScalar {size : Nat} {cs after : List Char} {v : Value}
    (h : readScalar size (skipBlanks cs) = .ok (v, after)) :
    ∃ padded, cs = padded ++ skipBlanks after ∧ Padded SpellsScalar padded v := by
  obtain ⟨front, hfront, hspells⟩ := exists_spells_of_readScalar h
  refine ⟨cs.takeWhile Text.isBlank ++ front ++ after.takeWhile Text.isBlank, ?_,
    ⟨_, front, _, rfl, fun _ hc => List.mem_takeWhile_imp hc,
      fun _ hc => List.mem_takeWhile_imp hc, hspells⟩⟩
  rw [List.append_assoc, skipBlanks, List.takeWhile_append_dropWhile, List.append_assoc, ← hfront,
    skipBlanks, List.takeWhile_append_dropWhile]

-- The reader keeps equations in its matches, for its termination; proofs rewrite without them.
theorem readItems_eq (size : Nat) (acc : List Value) (cs : List Char) :
    readItems size acc cs =
      match readScalar size (skipBlanks cs) with
      | .error e => .error e
      | .ok (item, afterItem) =>
        if isElement item then
          match skipBlanks afterItem with
          | [] => .error .unclosedList
          | c :: rest =>
            if c = ',' then readItems size (item :: acc) rest
            else if c = ']' then .ok ((item :: acc).reverse, rest)
            else .error (.unexpectedAt c (position size (c :: rest)))
        else .error (.invalidElement item.typeName) := by
  rw [readItems]
  split
  · next hread => rw [hread]
  · next item afterItem hread =>
      rw [hread]
      dsimp only
      split
      · split
        · next hnext => rw [hnext]
        · next hnext => rw [hnext]
      · rfl

theorem readItems_skipBlanks (size : Nat) (acc : List Value) (cs : List Char) :
    readItems size acc (skipBlanks cs) = readItems size acc cs := by
  have hskip : skipBlanks (skipBlanks cs) = skipBlanks cs :=
    Text.dropWhile_eq_self Text.head_dropWhile
  rw [readItems_eq, hskip, ← readItems_eq]

theorem Items.ne_nil {spells : List Char → α → Prop} {cs : List Char} {xs : List α}
    (h : Items spells cs xs) : xs ≠ [] := by
  cases h <;> simp

theorem Items.readItems {items : List Char} {vs : List Value} (h : Items SpellsElement items vs)
    (size : Nat) (acc : List Value) (rest : List Char) :
    readItems size acc (items ++ ']' :: rest) = .ok (acc.reverse ++ vs, rest) := by
  induction h generalizing acc with
  | last hitem =>
      obtain ⟨after, hread, hnext⟩ := readScalar_padded (hitem.imp fun _ h => h.2) (.inr rfl) size
      rw [readItems_eq, hread]
      simp [hitem.isElement, hnext]
  | more hitem _ ih =>
      obtain ⟨after, hread, hnext⟩ := readScalar_padded (hitem.imp fun _ h => h.2) (.inl rfl) size
      rw [List.append_assoc, List.cons_append, readItems_eq, hread]
      simp [hitem.isElement, hnext, ih]

theorem exists_items_of_readItems {size : Nat} {acc vs : List Value} {cs rest : List Char}
    (h : readItems size acc cs = .ok (vs, rest)) :
    ∃ items vs', cs = items ++ ']' :: rest ∧ Items SpellsElement items vs' ∧
      vs = acc.reverse ++ vs' := by
  fun_induction readItems size acc cs with
  | case1 => cases h
  | case2 => cases h
  | case3 acc cs v after hread helement tail hnext ih =>
      obtain ⟨padded, rfl, hpadded⟩ := exists_padded_of_readScalar hread
      obtain ⟨items, vs', rfl, hitems, rfl⟩ := ih h
      refine ⟨padded ++ ',' :: items, v :: vs', by simp [hnext],
        .more (hpadded.imp fun _ hspells => ⟨helement, hspells⟩) hitems, by simp⟩
  | case4 acc cs v after hread helement tail hnext =>
      cases h
      obtain ⟨padded, rfl, hpadded⟩ := exists_padded_of_readScalar hread
      refine ⟨padded, [v], by rw [hnext],
        .last (hpadded.imp fun _ hspells => ⟨helement, hspells⟩), by simp⟩
  | case5 => cases h
  | case6 => cases h

theorem mapM_eq_some_iff {f : β → Option α} {g : α → β} (h : ∀ y x, f y = some x ↔ y = g x)
    {ys : List β} {xs : List α} : ys.mapM f = some xs ↔ ys = xs.map g := by
  rw [mapM_eq_some_iff_forall₂]
  simp only [h]
  rw [← List.forall₂_map_right_iff, List.forall₂_eq_eq_eq]

theorem text?_eq_some_iff (v : Value) (s : String) : text? v = some s ↔ v = .text s := by
  cases v <;> simp [text?]

theorem number?_eq_some_iff (v : Value) (x : Number) : number? v = some x ↔ v = .number x := by
  cases v <;> simp [number?]

theorem listOf_eq_ok_iff {items : List Value} {v : Value} (hne : items ≠ []) :
    listOf items = .ok v ↔ (∃ ss, items = ss.map .text ∧ v = .texts ss) ∨
      ∃ xs, items = xs.map .number ∧ v = .numbers xs := by
  constructor
  · intro h
    unfold listOf at h
    split at h
    · next ss hss =>
        cases h
        exact .inl ⟨ss, (mapM_eq_some_iff text?_eq_some_iff).mp hss, rfl⟩
    · split at h
      · next xs hxs =>
          cases h
          exact .inr ⟨xs, (mapM_eq_some_iff number?_eq_some_iff).mp hxs, rfl⟩
      · cases h
  · rintro (⟨ss, rfl, rfl⟩ | ⟨xs, rfl, rfl⟩)
    · rw [listOf, (mapM_eq_some_iff text?_eq_some_iff).mpr rfl]
    · have hnone : (xs.map Value.number).mapM text? = none := by
        cases xs with
        | nil => exact absurd rfl hne
        | cons x xs => simp [text?]
      rw [listOf, hnone, (mapM_eq_some_iff number?_eq_some_iff).mpr rfl]

theorem readList_blanks {blanks : List Char} (h : ∀ c ∈ blanks, Text.isBlank c) (size : Nat)
    (rest : List Char) : readList size (blanks ++ ']' :: rest) = .ok (.texts [], rest) := by
  rw [readList, skipBlanks_append h (by rintro c ⟨⟩; decide)]
  rfl

theorem Items.readList {items : List Char} {vs : List Value} {v : Value}
    (h : Items SpellsElement items vs) (hv : listOf vs = .ok v) (size : Nat) (rest : List Char) :
    readList size (items ++ ']' :: rest) = .ok (v, rest) := by
  have hread := h.readItems size [] rest
  unfold Operand.readList
  split
  · next tail hclosed =>
      rw [readItems_eq, hclosed] at hread
      cases hread
  · rw [readItems_skipBlanks, hread]
    simp [hv]

theorem exists_spells_of_readList {size : Nat} {cs rest : List Char} {v : Value}
    (h : readList size cs = .ok (v, rest)) :
    ∃ inside, cs = inside ++ ']' :: rest ∧ Spells ('[' :: inside ++ [']']) (.literal v) := by
  unfold readList at h
  split at h
  · next tail hclosed =>
      cases h
      refine ⟨cs.takeWhile Text.isBlank, ?_, .emptyList fun _ hc => List.mem_takeWhile_imp hc⟩
      rw [← hclosed, skipBlanks, List.takeWhile_append_dropWhile]
  · rw [readItems_skipBlanks] at h
    split at h
    · cases h
    · next items rest hread =>
        obtain ⟨inside, vs, rfl, hitems, rfl⟩ := exists_items_of_readItems hread
        split at h
        · cases h
        · next v hv =>
            cases h
            refine ⟨inside, rfl, ?_⟩
            rcases (listOf_eq_ok_iff hitems.ne_nil).mp hv with ⟨ss, rfl, rfl⟩ | ⟨xs, rfl, rfl⟩
            · exact .texts ((items_map_iff spellsElement_text_iff).mp hitems)
            · exact .numbers ((items_map_iff spellsElement_number_iff).mp hitems)

end Lists

section Whole

theorem readReference_eq_ok_iff {cs rest : List Char} {name : String} :
    readReference cs = .ok (name, rest) ↔ ∃ inside, cs = inside ++ '}' :: rest ∧ '}' ∉ inside ∧
      Identifier.IsName (Text.trim inside) ∧ name = String.ofList (Text.trim inside) := by
  unfold readReference
  dsimp only
  constructor
  · intro h
    split at h
    · cases h
    · next c tail hdrop =>
        obtain ⟨hsplit, hinside, hc⟩ := Text.takeWhile_dropWhile_iff.mp ⟨rfl, hdrop⟩
        obtain rfl : c = '}' := by simpa using hc c rfl
        split at h
        · next hvalid =>
            cases h
            refine ⟨_, hsplit, ?_, Identifier.isValid_iff.mp hvalid, rfl⟩
            exact fun hmem => by simpa using hinside '}' hmem
        · cases h
  · rintro ⟨inside, rfl, hclosed, hname, rfl⟩
    have hinside : ∀ c ∈ inside, decide (c ≠ '}') := by
      intro c hc
      exact decide_eq_true (ne_of_mem_of_not_mem hc hclosed)
    obtain ⟨htake, hdrop⟩ := Text.takeWhile_dropWhile_iff.mpr
      ⟨rfl, hinside, show ∀ c ∈ ('}' :: rest).head?, decide (c ≠ '}') = false by
        rintro c ⟨⟩; rfl⟩
    rw [htake, hdrop]
    simp [Identifier.isValid_iff.mpr hname]

theorem Spells.trimmed {cs : List Char} {o : Operand} (h : Spells cs o) : Text.Trimmed cs := by
  cases h with
  | scalar h => exact h.trimmed
  | emptyList | texts | numbers | reference => exact trimmed_between _ (by decide) (by decide)

theorem Spells.exists_cons {cs : List Char} {o : Operand} (h : Spells cs o) :
    ∃ c rest, cs = c :: rest ∧ Text.isBlank c = false := by
  cases h with
  | scalar h =>
      obtain ⟨c, rest, hcons, hc, -⟩ := h.exists_cons
      exact ⟨c, rest, hcons, hc⟩
  | emptyList | texts | numbers | reference => exact ⟨_, _, rfl, by decide⟩

theorem readFront_list {size : Nat} {inside rest : List Char} {v : Value}
    (h : readList size (inside ++ ']' :: rest) = .ok (v, rest)) :
    readFront size ('[' :: inside ++ [']'] ++ rest) = .ok (.literal v, rest) := by
  rw [List.append_assoc, List.singleton_append, List.cons_append, readFront, h]

theorem Spells.readFront {front rest : List Char} {o : Operand} (h : Spells front o)
    (hends : Ends o rest) (size : Nat) : readFront size (front ++ rest) = .ok (o, rest) := by
  cases h with
  | scalar h =>
      have hread := h.readScalar hends size
      obtain ⟨c, tail, rfl, -, hc⟩ := h.exists_cons
      simp only [List.mem_cons, List.not_mem_nil, or_false, not_or] at hc
      rw [List.cons_append] at hread ⊢
      rw [Operand.readFront.eq_4 _ _ (by simp) (by simp [hc]) (by simp [hc]), hread]
  | emptyList h => exact readFront_list (readList_blanks h size rest)
  | texts h =>
      have hitems := (items_map_iff spellsElement_text_iff).mpr h
      exact readFront_list (hitems.readList
        ((listOf_eq_ok_iff hitems.ne_nil).mpr (.inl ⟨_, rfl, rfl⟩)) size rest)
  | numbers h =>
      have hitems := (items_map_iff spellsElement_number_iff).mpr h
      exact readFront_list (hitems.readList
        ((listOf_eq_ok_iff hitems.ne_nil).mpr (.inr ⟨_, rfl, rfl⟩)) size rest)
  | reference hclosed hname =>
      rw [List.append_assoc, List.singleton_append, List.cons_append, Operand.readFront,
        readReference_eq_ok_iff.mpr ⟨_, rfl, hclosed, hname, rfl⟩]

theorem exists_spells_of_readFront {size : Nat} {cs rest : List Char} {o : Operand}
    (h : readFront size cs = .ok (o, rest)) : ∃ front, cs = front ++ rest ∧ Spells front o := by
  unfold readFront at h
  split at h
  · cases h
  · split at h
    · next hread =>
        cases h
        obtain ⟨inside, rfl, hclosed, hname, rfl⟩ := readReference_eq_ok_iff.mp hread
        exact ⟨'{' :: inside ++ ['}'], by simp, .reference hclosed hname⟩
    · cases h
  · split at h
    · next hread =>
        cases h
        obtain ⟨inside, rfl, hinside⟩ := exists_spells_of_readList hread
        exact ⟨'[' :: inside ++ [']'], by simp, hinside⟩
    · cases h
  · split at h
    · next hread =>
        cases h
        obtain ⟨front, rfl, hfront⟩ := exists_spells_of_readScalar hread
        exact ⟨front, rfl, .scalar hfront⟩
    · cases h

theorem parse_eq_ok_iff_padded {cs : List Char} {o : Operand} :
    parse cs = .ok o ↔ Padded Spells cs o := by
  unfold parse
  dsimp only
  constructor
  · intro h
    split at h
    · cases h
    · next rest hread =>
        split at h
        · next hrest =>
            cases h
            obtain ⟨front, hfront, hspells⟩ := exists_spells_of_readFront hread
            refine ⟨cs.takeWhile Text.isBlank, front, rest, ?_,
              fun _ hc => List.mem_takeWhile_imp hc, List.dropWhile_eq_nil_iff.mp hrest, hspells⟩
            rw [List.append_assoc, ← hfront, skipBlanks, List.takeWhile_append_dropWhile]
        · cases h
  · rintro ⟨before, inside, after, rfl, hbefore, hafter, hinside⟩
    have hends : Ends o (after ++ []) := ends_append hafter (by simp)
    have hskip : skipBlanks (before ++ inside ++ after) = inside ++ after := by
      obtain ⟨c, tail, rfl, hc⟩ := hinside.exists_cons
      rw [List.append_assoc]
      exact skipBlanks_append hbefore (by rintro d ⟨⟩; exact hc)
    have hrest : skipBlanks after = [] := List.dropWhile_eq_nil_iff.mpr hafter
    rw [List.append_nil] at hends
    rw [hskip, hinside.readFront hends]
    simp [hrest]

theorem Spells.parse {cs : List Char} {o : Operand} (h : Spells cs o) : parse cs = .ok o :=
  parse_eq_ok_iff_padded.mpr ⟨[], cs, [], by simp, by simp, by simp, h⟩

/-- The grammar gives no text two meanings. -/
theorem Spells.unique {cs : List Char} {o o' : Operand} (h : Spells cs o) (h' : Spells cs o') :
    o = o' := by
  have hsame := h.parse.symm.trans h'.parse
  injection hsame

theorem padded_iff_trim {cs : List Char} {o : Operand} :
    Padded Spells cs o ↔ Spells (Text.trim cs) o := by
  constructor
  · rintro ⟨before, inside, after, rfl, hbefore, hafter, hinside⟩
    rwa [Text.trim_append hbefore hinside.trimmed hafter]
  · intro h
    obtain ⟨before, after, hsplit, hbefore, hafter⟩ := Text.exists_eq_append_trim cs
    exact ⟨before, Text.trim cs, after, hsplit, hbefore, hafter, h⟩

/-- The reader returns what the grammar says that the text spells, and fails on every text
that spells nothing. -/
theorem parse_iff_spells (cs : List Char) :
    (∀ o, parse cs = .ok o ↔ Spells (Text.trim cs) o) ∧
      ((∃ e, parse cs = .error e) ↔ ∀ o, ¬Spells (Text.trim cs) o) := by
  have hok : ∀ o, parse cs = .ok o ↔ Spells (Text.trim cs) o := fun o =>
    parse_eq_ok_iff_padded.trans padded_iff_trim
  refine ⟨hok, ?_⟩
  simp only [← hok]
  cases parse cs with
  | error e => simp
  | ok o => simp

end Whole

end FeatureFlags.Operand
