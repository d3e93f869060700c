import FeatureFlags.Text.Class
import Mathlib.Data.List.Basic

namespace FeatureFlags

theorem Text.split_eq_splitOn (separator : Char) (cs : List Char) :
    split separator cs = cs.splitOn separator := by
  induction cs with
  | nil => rfl
  | cons c rest ih =>
      rw [split, ih, List.splitOn_cons_eq_if_modifyHead]
      cases h : rest.splitOn separator with
      | nil => exact absurd h (List.splitOn_ne_nil _ _)
      | cons piece pieces => simp

namespace Identifier

/-- Parts with dots between them, none of them empty, of the characters of names. -/
def IsName (cs : List Char) : Prop :=
  ∃ parts : List (List Char), parts ≠ [] ∧ cs = ['.'].intercalate parts ∧
    ∀ part ∈ parts, part ≠ [] ∧
      ∀ c ∈ part, Text.isAlphanumeric c ∨ c = '_' ∨ c = '@' ∨ c = '-'

theorem isPart_iff {c : Char} :
    isPart c ↔ Text.isAlphanumeric c ∨ c = '_' ∨ c = '@' ∨ c = '-' := by
  simp [isPart, or_assoc]

theorem isValid_iff {cs : List Char} : isValid cs ↔ IsName cs := by
  have hpart : ∀ part : List Char, (!part.isEmpty && part.all isPart) ↔
      part ≠ [] ∧ ∀ c ∈ part, Text.isAlphanumeric c ∨ c = '_' ∨ c = '@' ∨ c = '-' := by
    intro part
    simp only [Bool.and_eq_true, Bool.not_eq_true', List.isEmpty_eq_false_iff, List.all_eq_true,
      isPart_iff, ne_eq]
  unfold isValid
  rw [Text.split_eq_splitOn, List.all_eq_true]
  simp only [hpart]
  constructor
  · intro h
    exact ⟨cs.splitOn '.', List.splitOn_ne_nil _ _, (List.intercalate_splitOn '.').symm, h⟩
  · rintro ⟨parts, hne, rfl, h⟩
    have hdots : ∀ part ∈ parts, '.' ∉ part := by
      intro part hmem hdot
      have := (h part hmem).2 '.' hdot
      revert this
      decide
    rwa [List.splitOn_intercalate '.' hdots hne]

theorem eq_dot_or_isPart_of_mem {cs : List Char} (h : IsName cs) {c : Char} (hc : c ∈ cs) :
    c = '.' ∨ isPart c := by
  obtain ⟨parts, -, rfl, hparts⟩ := h
  induction parts with
  | nil => cases hc
  | cons part rest ih =>
      have hpart : c ∈ part → c = '.' ∨ isPart c := fun hmem =>
        .inr (isPart_iff.mpr ((hparts part (by simp)).2 c hmem))
      cases rest with
      | nil =>
          rw [List.intercalate_singleton] at hc
          exact hpart hc
      | cons next rest =>
          rw [List.intercalate_cons_cons, List.mem_append, List.mem_append,
            List.mem_singleton] at hc
          rcases hc with (hc | hc) | hc
          · exact hpart hc
          · exact .inl hc
          · exact ih (fun p hp => hparts p (List.mem_cons_of_mem _ hp)) hc

end Identifier

end FeatureFlags
