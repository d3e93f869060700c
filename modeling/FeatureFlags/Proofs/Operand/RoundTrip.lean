import Mathlib
import FeatureFlags.Condition.Basic
import FeatureFlags.Pattern.Machine
import FeatureFlags.Proofs.Number.RoundTrip
import FeatureFlags.Proofs.Operand.Reading

namespace FeatureFlags

namespace Operand

theorem quoted_escape (s : List Char) : Quoted '"' (s.flatMap escape) s := by
  induction s with
  | nil => exact .nil
  | cons c s ih =>
      rw [List.flatMap_cons]
      unfold escape
      split
      · exact .escaped .doubleQuote ih
      · exact .escaped .backslash ih
      · exact .escaped .lineFeed ih
      · exact .escaped .tab ih
      · exact .escaped .carriageReturn ih
      · next hquote hbackslash _ _ _ => exact .plain hquote hbackslash ih

theorem spellsText_quoted (s : String) : SpellsText (quoted s) s := by
  have h := SpellsText.double (quoted_escape s.toList)
  rwa [String.ofList_toList] at h

theorem spellsNumber_plain (x : Number) : SpellsNumber x.plain x := by
  refine ⟨?_, ?_, Number.read?_plain x⟩
  · obtain ⟨c, rest, hcons, hc⟩ := x.plain_head
    refine ⟨c, by rw [hcons]; rfl, ?_⟩
    rcases hc with hc | rfl
    · exact .inl hc
    · exact .inr (by decide)
  · intro c hc
    rcases Number.mem_plain hc with hc | rfl | rfl
    · exact .inl hc
    · exact .inr (by decide)
    · exact .inr (by decide)

section Lists

variable {α : Type} {spells : List Char → α → Prop} {print : α → List Char}

theorem padded_self {cs : List Char} {x : α} (h : spells cs x) : Padded spells cs x :=
  ⟨[], cs, [], by simp, by simp, by simp, h⟩

theorem items_append (hprint : ∀ x, spells (print x) x) {cs : List Char} {x : α}
    (h : Padded spells cs x) (xs : List α) :
    Items spells (cs ++ (xs.map print).flatMap fun item => ',' :: ' ' :: item) (x :: xs) := by
  induction xs generalizing cs x with
  | nil =>
      rw [List.map_nil, List.flatMap_nil, List.append_nil]
      exact .last h
  | cons y ys ih =>
      have hspace : ∀ c ∈ [' '], Text.isBlank c := List.all_eq_true.mp (by decide)
      exact .more h (ih ((padded_self (hprint y)).append_blanks hspace))

theorem exists_list_eq (hprint : ∀ x, spells (print x) x) (x : α) (xs : List α) :
    ∃ items, list ((x :: xs).map print) = '[' :: items ++ [']'] ∧ Items spells items (x :: xs) :=
  ⟨_, rfl, items_append hprint (padded_self (hprint x)) xs⟩

end Lists

/-- A printed value spells the value, unless it is the list of no numbers, which would be
read as a list of no texts. -/
theorem spells_characters {v : Value} (h : v ≠ .numbers []) :
    Spells v.characters (.literal v) := by
  cases v with
  | text s => exact .scalar (.text (spellsText_quoted s))
  | number x => exact .scalar (.number (spellsNumber_plain x))
  | bool b =>
      cases b with
      | true => exact .scalar .yes
      | false => exact .scalar .no
  | texts ss =>
      cases ss with
      | nil =>
          have hblanks : ∀ c ∈ ([] : List Char), Text.isBlank c := by simp
          exact .emptyList hblanks
      | cons s ss =>
          obtain ⟨items, hlist, hitems⟩ := exists_list_eq spellsText_quoted s ss
          rw [Value.characters, hlist]
          exact .texts hitems
  | numbers xs =>
      cases xs with
      | nil => exact absurd rfl h
      | cons x xs =>
          obtain ⟨items, hlist, hitems⟩ := exists_list_eq spellsNumber_plain x xs
          rw [Value.characters, hlist]
          exact .numbers hitems

theorem ne_numbers_nil_of_spells {cs : List Char} {v : Value} (h : Spells cs (.literal v)) :
    v ≠ .numbers [] := by
  rintro rfl
  cases h with
  | scalar h => cases h
  | numbers h => exact h.ne_nil rfl

theorem ne_numbers_nil_of_ofJson? {j : Json} {v : Value} (h : Value.ofJson? j = some v) :
    v ≠ .numbers [] := by
  rintro rfl
  unfold Value.ofJson? at h
  split at h
  · cases h
  · obtain ⟨x, -, hx⟩ := Option.map_eq_some_iff.mp h
    cases hx
  · cases h
  · next items =>
      cases items with
      | nil => cases h
      | cons item items =>
          split at h
          · cases h
          · simp [Option.bind_eq_some_iff] at h
  · cases h
  · cases h

theorem Spells.printed {cs : List Char} {o : Operand} (h : Spells cs o) :
    Spells o.characters o := by
  cases o with
  | literal v => exact spells_characters (ne_numbers_nil_of_spells h)
  | reference name =>
      cases h with
      | @reference inside hclosed hname =>
          obtain ⟨before, after, hsplit, -, -⟩ := Text.exists_eq_append_trim inside
          have hclosed' : '}' ∉ Text.trim inside := by
            intro hmem
            apply hclosed
            rw [hsplit]
            simp [hmem]
          have htrim := Text.trim_eq_self (Text.trimmed_trim inside)
          have hspells := Spells.reference hclosed' (htrim.symm ▸ hname)
          rw [htrim] at hspells
          rw [characters, String.toList_ofList]
          exact hspells

theorem parse_characters {cs : List Char} {o : Operand} (h : parse cs = .ok o) :
    parse o.characters = .ok o := by
  have hspells := padded_iff_trim.mp (parse_eq_ok_iff_padded.mp h)
  exact hspells.printed.parse

end Operand

namespace Condition

variable [PatternEngine]

theorem characters_of_targetOf {op : Operator} {o : Operand} {t : Target}
    (h : targetOf op o = .ok t) : t.characters = o.characters := by
  unfold targetOf at h
  split at h
  · cases h
    rfl
  · split at h
    · split at h
      · split at h
        · next hcompile =>
            cases h
            rw [Target.characters, PatternEngine.source_of_compile hcompile]
            rfl
        · cases h
      · cases h
        rfl
    · cases h

theorem compile_eq_ok_iff {property operator value : String} {c : Condition} :
    compile property operator value = .ok c ↔ ∃ o, Operator.ofName? operator = some c.operator ∧
      Identifier.isValid property.toList ∧ Operand.parse value.toList = .ok o ∧
      targetOf c.operator o = .ok c.target ∧ c.property = property := by
  unfold compile
  constructor
  · intro h
    split at h
    · cases h
    · next op hop =>
        dsimp only at h
        split at h
        · next hvalid =>
            split at h
            · cases h
            · next o hparse =>
                split at h
                · cases h
                · next t ht =>
                    cases h
                    exact ⟨o, hop, hvalid, hparse, ht, rfl⟩
        · cases h
  · rintro ⟨o, hop, hvalid, hparse, ht, rfl⟩
    simp [hop, hvalid, hparse, ht]

/-- Printing and reading are inverse: a value that was read, or came with a request, is read
back from its text, and a condition is compiled again from the text of its target. -/
theorem reads_back :
    (∀ v : Value, (∃ cs, Operand.parse cs = .ok (.literal v)) ∨ (∃ j, Value.ofJson? j = some v) →
      Operand.parse v.characters = .ok (.literal v)) ∧
    ∀ (property operator value : String) (c : Condition), compile property operator value = .ok c →
      compile property operator (String.ofList c.target.characters) = .ok c := by
  constructor
  · rintro v (⟨cs, hparse⟩ | ⟨j, hjson⟩)
    · exact Operand.parse_characters hparse
    · exact (Operand.spells_characters (Operand.ne_numbers_nil_of_ofJson? hjson)).parse
  · intro property operator value c h
    obtain ⟨o, hop, hvalid, hparse, htarget, hproperty⟩ := compile_eq_ok_iff.mp h
    refine compile_eq_ok_iff.mpr ⟨o, hop, hvalid, ?_, htarget, hproperty⟩
    rw [String.toList_ofList, characters_of_targetOf htarget]
    exact Operand.parse_characters hparse

end Condition

namespace Condition

theorem reads_back_of_streetPattern :
    Operand.parse "[\"Quai \\\"A\\\"\", \"B\"]".toList =
        .ok (.literal (.texts ["Quai \"A\"", "B"])) ∧
      ∃ c, compile "street" "EREG" "'^Quai \"[A-C]'" = .ok c ∧
        compile "street" "EREG" "\"^Quai \\\"[A-C]\"" = .ok c := by
  constructor
  · have hread : Operand.parse "['Quai \"A\"','B']".toList =
        .ok (.literal (.texts ["Quai \"A\"", "B"])) := by cbv
    exact reads_back.1 _ (.inl ⟨_, hread⟩)
  · obtain ⟨c, hcompile, htext⟩ : ∃ c, compile "street" "EREG" "'^Quai \"[A-C]'" = .ok c ∧
        String.ofList c.target.characters = "\"^Quai \\\"[A-C]\"" := ⟨_, rfl, rfl⟩
    refine ⟨c, hcompile, ?_⟩
    rw [← htext]
    exact reads_back.2 _ _ _ c hcompile

end Condition

end FeatureFlags
