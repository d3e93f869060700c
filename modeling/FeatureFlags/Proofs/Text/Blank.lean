import FeatureFlags.Proofs.Search
import FeatureFlags.Text.Class
import Mathlib.Data.List.TakeWhile
import Mathlib.Tactic.IntervalCases

namespace FeatureFlags

theorem CharSet.exists_range_of_contains {s : CharSet} {c : Char} (h : s.contains c) :
    ∃ i low, s.edges[2 * i]? = some low ∧ low ≤ c.toNat ∧
      ∀ high, s.edges[2 * i + 1]? = some high → c.toNat < high := by
  rw [contains, beq_iff_eq] at h
  obtain ⟨i, hi⟩ : ∃ i, partitionPoint s.edges (· ≤ c.toNat) = 2 * i + 1 :=
    ⟨partitionPoint s.edges (· ≤ c.toNat) / 2, by omega⟩
  have hsize := partitionPoint_le s.edges (· ≤ c.toNat)
  have hlow : s.edges[2 * i]? = some s.edges[2 * i] := Array.getElem?_eq_getElem (by omega)
  refine ⟨i, s.edges[2 * i], hlow, ?_, ?_⟩
  · simpa using test_before_partitionPoint hi hlow
  · intro high hhigh
    rw [← hi] at hhigh
    simpa using test_partitionPoint hhigh

namespace Text

/-- The code points of white space. -/
def blankCodePoints : List Nat :=
  [0x9, 0xA, 0xB, 0xC, 0xD, 0x20, 0x85, 0xA0, 0x1680, 0x2000, 0x2001, 0x2002, 0x2003, 0x2004,
    0x2005, 0x2006, 0x2007, 0x2008, 0x2009, 0x200A, 0x2028, 0x2029, 0x202F, 0x205F, 0x3000]

theorem toNat_mem_of_isBlank {c : Char} (h : isBlank c) : c.toNat ∈ blankCodePoints := by
  unfold isBlank isIn at h
  split at h
  · simp only [Bool.or_eq_true, beq_iff_eq, Bool.and_eq_true, decide_eq_true_eq] at h
    rcases h with rfl | ⟨hlow, hhigh⟩
    · decide
    · have hlow : 9 ≤ c.toNat := hlow
      have hhigh : c.toNat ≤ 13 := hhigh
      simp only [blankCodePoints, List.mem_cons, List.not_mem_nil, or_false]
      omega
  · obtain ⟨i, low, hlow, hle, hlt⟩ := CharSet.exists_range_of_contains h
    have hi : 2 * i < CharSet.blank.edges.size := (Array.getElem?_eq_some_iff.mp hlow).1
    have hsize : CharSet.blank.edges.size = 20 := rfl
    have hrange : i < 10 := by omega
    interval_cases i
    all_goals
      simp [CharSet.blank] at hlow hlt
      subst hlow
      simp only [blankCodePoints, List.mem_cons, List.not_mem_nil, or_false]
      omega

theorem isBlank_eq_false_of {p : Char → Bool} {c : Char} (h : p c)
    (hnone : ∀ n ∈ blankCodePoints, p (Char.ofNat n) = false) : isBlank c = false := by
  rw [Bool.eq_false_iff]
  intro hblank
  have hc := hnone c.toNat (toNat_mem_of_isBlank hblank)
  rw [Char.ofNat_toNat, h] at hc
  cases hc

theorem isBlank_eq_false_of_isAlphanumeric {c : Char} (h : isAlphanumeric c) :
    isBlank c = false :=
  isBlank_eq_false_of h (by decide +kernel)

/-- A text without a blank at either end. -/
structure Trimmed (cs : List Char) : Prop where
  head : ∀ c ∈ cs.head?, isBlank c = false
  last : ∀ c ∈ cs.getLast?, isBlank c = false

theorem dropWhile_eq_self {p : Char → Bool} {cs : List Char}
    (h : ∀ c ∈ cs.head?, p c = false) : cs.dropWhile p = cs := by
  cases cs with
  | nil => rfl
  | cons c rest => exact List.dropWhile_cons_of_neg (by simp [h c rfl])

theorem head_dropWhile {p : Char → Bool} {cs : List Char} :
    ∀ c ∈ (cs.dropWhile p).head?, p c = false := by
  intro c hc
  have hhead := List.head?_dropWhile_not p cs
  rw [Option.mem_def.mp hc] at hhead
  exact hhead

theorem takeWhile_dropWhile_iff {p : Char → Bool} {cs run rest : List Char} :
    cs.takeWhile p = run ∧ cs.dropWhile p = rest ↔
      cs = run ++ rest ∧ (∀ c ∈ run, p c) ∧ ∀ c ∈ rest.head?, p c = false := by
  constructor
  · rintro ⟨rfl, rfl⟩
    exact ⟨List.takeWhile_append_dropWhile.symm, fun _ hc => List.mem_takeWhile_imp hc,
      head_dropWhile⟩
  · rintro ⟨rfl, hrun, hrest⟩
    have hdrop : (run ++ rest).dropWhile p = rest := by
      rw [List.dropWhile_append_of_pos hrun, dropWhile_eq_self hrest]
    refine ⟨?_, hdrop⟩
    have hsplit : (run ++ rest).takeWhile p ++ rest = run ++ rest := by
      nth_rewrite 2 [← hdrop]
      exact List.takeWhile_append_dropWhile
    exact List.append_cancel_right hsplit

theorem exists_dropWhile_eq_trim_append (cs : List Char) :
    ∃ after, cs.dropWhile isBlank = trim cs ++ after ∧ ∀ c ∈ after, isBlank c := by
  refine ⟨((cs.dropWhile isBlank).reverse.takeWhile isBlank).reverse, ?_, ?_⟩
  · rw [trim, ← List.reverse_append, List.takeWhile_append_dropWhile, List.reverse_reverse]
  · intro c hc
    exact List.mem_takeWhile_imp (List.mem_reverse.mp hc)

theorem exists_eq_append_trim (cs : List Char) :
    ∃ before after, cs = before ++ trim cs ++ after ∧ (∀ c ∈ before, isBlank c) ∧
      ∀ c ∈ after, isBlank c := by
  obtain ⟨after, hsplit, hafter⟩ := exists_dropWhile_eq_trim_append cs
  refine ⟨cs.takeWhile isBlank, after, ?_, fun _ hc => List.mem_takeWhile_imp hc, hafter⟩
  rw [List.append_assoc, ← hsplit, List.takeWhile_append_dropWhile]

theorem trimmed_trim (cs : List Char) : Trimmed (trim cs) := by
  refine ⟨?_, ?_⟩
  · intro c hc
    obtain ⟨after, hsplit, -⟩ := exists_dropWhile_eq_trim_append cs
    have hmem : c ∈ (cs.dropWhile isBlank).head? := by
      rw [hsplit, List.head?_append, Option.mem_def.mp hc]
      rfl
    exact head_dropWhile c hmem
  · intro c hc
    rw [trim, List.getLast?_reverse] at hc
    exact head_dropWhile c hc

theorem trim_append {before inside after : List Char} (hbefore : ∀ c ∈ before, isBlank c)
    (hinside : Trimmed inside) (hafter : ∀ c ∈ after, isBlank c) :
    trim (before ++ inside ++ after) = inside := by
  have hafter' : ∀ c ∈ after.reverse, isBlank c := fun c hc => hafter c (List.mem_reverse.mp hc)
  rw [trim, List.append_assoc, List.dropWhile_append_of_pos hbefore]
  cases inside with
  | nil => simp [List.dropWhile_eq_nil_iff.mpr hafter]
  | cons c rest =>
      have hlast : (c :: rest).reverse.dropWhile isBlank = (c :: rest).reverse :=
        dropWhile_eq_self fun d hd => hinside.last d (by rwa [List.head?_reverse] at hd)
      have hhead : (c :: rest ++ after).dropWhile isBlank = c :: rest ++ after :=
        dropWhile_eq_self fun d hd => hinside.head d hd
      rw [hhead, List.reverse_append, List.dropWhile_append_of_pos hafter', hlast,
        List.reverse_reverse]

theorem trim_eq_self {cs : List Char} (h : Trimmed cs) : trim cs = cs := by
  have hnone : ∀ c ∈ ([] : List Char), isBlank c := by simp
  simpa using trim_append hnone h hnone

end Text

end FeatureFlags
