import FeatureFlags.Flag.Prepared
import Mathlib.Data.List.Nodup

namespace FeatureFlags

theorem find?_reverse_eq_some_iff {α : Type} {test : α → Bool} {xs : List α} {x : α} :
    xs.reverse.find? test = some x ↔
      ∃ before after, xs = before ++ x :: after ∧ test x ∧ ∀ y ∈ after, ¬ test y := by
  rw [List.find?_eq_some_iff_append]
  constructor
  · rintro ⟨htest, after, before, hsplit, hafter⟩
    refine ⟨before.reverse, after.reverse, ?_, htest, ?_⟩
    · simpa using congrArg List.reverse hsplit
    · simpa using hafter
  · rintro ⟨before, after, rfl, htest, hafter⟩
    exact ⟨htest, after.reverse, before.reverse, by simp, by simpa using hafter⟩

end FeatureFlags

namespace FeatureFlags.Flag

/-- Whether a flag is found by a key. No flag is found by the empty one. -/
def hasKey (key : String) (f : Flag) : Bool :=
  f.key == key && !f.key.isEmpty

def carries (tag : String) (f : Flag) : Bool :=
  f.tags.any (·.value == tag)

def last? (test : Flag → Bool) (flags : List Flag) : Option Flag :=
  flags.reverse.find? test

variable {test test' : Flag → Bool} {flags : List Flag} {f g : Flag}

theorem mem_of_last?_eq_some (h : last? test flags = some f) : f ∈ flags :=
  List.mem_reverse.mp (List.mem_of_find?_eq_some h)

theorem test_of_last?_eq_some (h : last? test flags = some f) : test f :=
  List.find?_some h

theorem exists_last?_eq_some (hmem : f ∈ flags) (htest : test f) :
    ∃ g, last? test flags = some g := by
  rw [← Option.isSome_iff_exists, last?, List.find?_isSome]
  exact ⟨f, List.mem_reverse.mpr hmem, htest⟩

theorem last?_eq_some_iff :
    last? test flags = some f ↔
      ∃ before after, flags = before ++ f :: after ∧ test f ∧ ∀ g ∈ after, ¬ test g :=
  find?_reverse_eq_some_iff

theorem last?_eq_none_iff : last? test flags = none ↔ ∀ f ∈ flags, ¬ test f := by
  simp [last?]

theorem last?_filter : last? test (flags.filter test) = last? test flags := by
  simp [last?, ← List.filter_reverse, List.find?_filter]

theorem last?_unique (hf : last? test flags = some f) (hg : last? test' flags = some g)
    (hf' : test' f) (hg' : test g) : f = g := by
  unfold last? at hf hg
  generalize flags.reverse = reversed at hf hg
  induction reversed with
  | nil => cases hf
  | cons first rest ih =>
      rw [List.find?_cons] at hf hg
      cases htest : test first with
      | true =>
          rw [htest] at hf
          cases hf
          rw [hf'] at hg
          exact Option.some.inj hg
      | false =>
          rw [htest] at hf
          cases htest' : test' first with
          | true =>
              rw [htest'] at hg
              cases hg
              rw [hg'] at htest
              cases htest
          | false =>
              rw [htest'] at hg
              exact ih hf hg

theorem eq_of_id_eq (hids : (flags.map Flag.id).Nodup) (hf : f ∈ flags) (hg : g ∈ flags)
    (hid : f.id = g.id) : f = g :=
  List.inj_on_of_nodup_map hids hf hg hid

theorem last?_of_nodup (hids : (flags.map Flag.id).Nodup) (hid : ∀ g, test g → g.id = f.id)
    (hf : f ∈ flags) (htest : test f) : last? test flags = some f := by
  obtain ⟨g, hg⟩ := exists_last?_eq_some hf htest
  rw [hg, eq_of_id_eq hids (mem_of_last?_eq_some hg) hf (hid g (test_of_last?_eq_some hg))]

theorem last?_eq_some_iff_of_pairwise (hlt : flags.Pairwise fun a b => a.id < b.id) :
    last? test flags = some f ↔
      f ∈ flags ∧ test f ∧ ∀ g ∈ flags, test g → g.id ≤ f.id := by
  have hgreatest : ∀ f, last? test flags = some f → ∀ g ∈ flags, test g → g.id ≤ f.id := by
    intro f hf g hg htest
    obtain ⟨-, after, before, hsplit, hafter⟩ := List.find?_eq_some_iff_append.mp hf
    have hgt := List.pairwise_reverse.mpr hlt
    rw [hsplit] at hgt
    rw [← List.mem_reverse, hsplit, List.mem_append, List.mem_cons] at hg
    rcases hg with hg | rfl | hg
    · exact absurd htest (by simpa using hafter g hg)
    · exact UInt64.le_refl g.id
    · exact UInt64.le_of_lt ((List.pairwise_cons.mp (List.pairwise_append.mp hgt).2.1).1 g hg)
  have hids : (flags.map Flag.id).Nodup :=
    List.pairwise_map.mpr (hlt.imp UInt64.ne_of_lt)
  constructor
  · intro hf
    exact ⟨mem_of_last?_eq_some hf, test_of_last?_eq_some hf, hgreatest f hf⟩
  · rintro ⟨hmem, htest, hmax⟩
    obtain ⟨g, hg⟩ := exists_last?_eq_some hmem htest
    have hid : f.id = g.id := UInt64.le_antisymm (hgreatest g hg f hmem htest)
      (hmax g (mem_of_last?_eq_some hg) (test_of_last?_eq_some hg))
    rw [hg, eq_of_id_eq hids hmem (mem_of_last?_eq_some hg) hid]

section Variants

/-- The variant is the one that its number stands for: no later one has the same. -/
def Resolves (f : Flag) (variantId : Id) (v : Variant) : Prop :=
  ∃ before after, f.variants = before ++ v :: after ∧ v.id = variantId ∧
    ∀ w ∈ after, w.id ≠ variantId

variable {f : Flag} {variantId : Id} {v : Variant}

theorem variant?_eq_some_iff_resolves : f.variant? variantId = some v ↔ f.Resolves variantId v := by
  rw [variant?, find?_reverse_eq_some_iff]
  simp [Resolves]

theorem variant?_eq_none_iff :
    f.variant? variantId = none ↔ ∀ v ∈ f.variants, v.id ≠ variantId := by
  rw [variant?, List.find?_eq_none]
  simp

theorem Resolves.mem (h : f.Resolves variantId v) : v ∈ f.variants ∧ v.id = variantId := by
  obtain ⟨before, after, hvariants, hid, -⟩ := h
  exact ⟨by simp [hvariants], hid⟩

theorem variant?_eq_some_iff (hvariants : (f.variants.map Variant.id).Nodup) :
    f.variant? variantId = some v ↔ v ∈ f.variants ∧ v.id = variantId := by
  constructor
  · intro hv
    exact (variant?_eq_some_iff_resolves.mp hv).mem
  · rintro ⟨hmem, hid⟩
    cases hfound : f.variant? variantId with
    | none => exact absurd hid (variant?_eq_none_iff.mp hfound v hmem)
    | some w =>
        obtain ⟨hmem', hid'⟩ := (variant?_eq_some_iff_resolves.mp hfound).mem
        rw [List.inj_on_of_nodup_map hvariants hmem' hmem (hid'.trans hid.symm)]

end Variants

end FeatureFlags.Flag
