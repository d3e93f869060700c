import Mathlib.Data.List.Forall2
import Mathlib.Data.List.Sort

namespace FeatureFlags

section Sorting

variable {α : Type} {le : α → α → Bool}

theorem map_fst_mergeSort (pairs : List (α × α)) :
    (pairs.mergeSort fun p q => le p.1 q.1).map Prod.fst = (pairs.map Prod.fst).mergeSort le :=
  List.map_mergeSort (f := Prod.fst) fun _ _ _ _ => rfl

theorem map_snd_mergeSort {pairs : List (α × α)}
    (hle : ∀ p ∈ pairs, ∀ q ∈ pairs, le p.1 q.1 = le p.2 q.2) :
    (pairs.mergeSort fun p q => le p.1 q.1).map Prod.snd = (pairs.map Prod.snd).mergeSort le :=
  List.map_mergeSort (f := Prod.snd) hle

/-- Elements that compare alike with all others take each other's place when sorted. -/
theorem exists_mergeSort_replace {a b : α} (hleft : ∀ x, le b x = le a x)
    (hright : ∀ x, le x b = le x a) (before after : List α) :
    ∃ sooner later, (before ++ a :: after).mergeSort le = sooner ++ a :: later ∧
      (before ++ b :: after).mergeSort le = sooner ++ b :: later := by
  -- both lists at once, as one list of pairs
  let twice : α → α × α := fun x => (x, x)
  let pairs := before.map twice ++ (a, b) :: after.map twice
  have hfst : pairs.map Prod.fst = before ++ a :: after := by
    simp [pairs, twice, Function.comp_def]
  have hsnd : pairs.map Prod.snd = before ++ b :: after := by
    simp [pairs, twice, Function.comp_def]
  have hpairs : ∀ p ∈ pairs, p = (a, b) ∨ p.1 = p.2 := by
    intro p hp
    simp only [pairs, twice, List.mem_append, List.mem_cons, List.mem_map] at hp
    rcases hp with ⟨x, -, rfl⟩ | rfl | ⟨x, -, rfl⟩
    · exact .inr rfl
    · exact .inl rfl
    · exact .inr rfl
  have hle : ∀ p ∈ pairs, ∀ q ∈ pairs, le p.1 q.1 = le p.2 q.2 := by
    intro p hp q hq
    rcases hpairs p hp with rfl | hp <;> rcases hpairs q hq with rfl | hq
    · rw [hleft, hright]
    · rw [hleft, hq]
    · rw [hright, hp]
    · rw [hp, hq]
  obtain ⟨sooner, later, hsplit⟩ :=
    List.append_of_mem (List.mem_mergeSort.mpr (by simp [pairs]) :
      (a, b) ∈ pairs.mergeSort fun p q => le p.1 q.1)
  have hothers : ∀ p ∈ sooner ++ later, p.2 = p.1 := by
    intro p hp
    have hperm : ((a, b) :: (sooner ++ later)).Perm
        ((a, b) :: (before.map twice ++ after.map twice)) := by
      refine List.perm_middle.symm.trans (.trans ?_ List.perm_middle)
      rw [← hsplit]
      exact List.mergeSort_perm pairs _
    have hmem := hperm.cons_inv.subset hp
    rw [← List.map_append] at hmem
    obtain ⟨x, -, rfl⟩ := List.mem_map.mp hmem
    rfl
  have hsooner : sooner.map Prod.snd = sooner.map Prod.fst :=
    List.map_congr_left fun p hp => hothers p (List.mem_append_left _ hp)
  have hlater : later.map Prod.snd = later.map Prod.fst :=
    List.map_congr_left fun p hp => hothers p (List.mem_append_right _ hp)
  refine ⟨sooner.map Prod.fst, later.map Prod.fst, ?_, ?_⟩
  · rw [← hfst, ← map_fst_mergeSort, hsplit, List.map_append, List.map_cons]
  · rw [← hsnd, ← map_snd_mergeSort hle, hsplit, List.map_append, List.map_cons, hsooner, hlater]

theorem forall₂_mergeSort {R : α → α → Prop} {as bs : List α} (h : List.Forall₂ R as bs)
    (hle : ∀ {a b a' b'}, R a b → R a' b' → le a a' = le b b') :
    List.Forall₂ R (as.mergeSort le) (bs.mergeSort le) := by
  obtain ⟨pairs, rfl, rfl, hpairs⟩ : ∃ pairs : List (α × α),
      pairs.map Prod.fst = as ∧ pairs.map Prod.snd = bs ∧ ∀ p ∈ pairs, R p.1 p.2 :=
    ⟨as.zip bs, List.map_fst_zip h.length_eq.le, List.map_snd_zip h.length_eq.ge,
      fun _ hp => List.forall₂_zip h hp⟩
  rw [← map_fst_mergeSort, ← map_snd_mergeSort fun p hp q hq => hle (hpairs p hp) (hpairs q hq),
    List.forall₂_map_left_iff, List.forall₂_map_right_iff, List.forall₂_same]
  intro p hp
  exact hpairs p (List.mem_mergeSort.mp hp)

theorem mergeSort_eq_of_perm {as bs : List α} (hperm : as.Perm bs)
    (has : (as.mergeSort le).Pairwise fun a b => le a b)
    (hbs : (bs.mergeSort le).Pairwise fun a b => le a b)
    (hties : ∀ a ∈ as, ∀ b ∈ as, le a b → le b a → a = b) :
    as.mergeSort le = bs.mergeSort le := by
  refine List.Perm.eq_of_pairwise ?_ has hbs ?_
  · intro a b ha hb
    exact hties a (List.mem_mergeSort.mp ha) b
      (hperm.symm.subset (List.mem_mergeSort.mp hb))
  · exact (List.mergeSort_perm as le).trans (hperm.trans (List.mergeSort_perm bs le).symm)

theorem eq_of_pairwise_lt {key : α → UInt64} {as bs : List α}
    (has : as.Pairwise fun a b => key a < key b) (hbs : bs.Pairwise fun a b => key a < key b)
    (h : ∀ a, a ∈ as ↔ a ∈ bs) : as = bs := by
  have : Std.Irrefl fun a b : α => key a < key b := ⟨fun a => UInt64.lt_irrefl (key a)⟩
  have : Std.Antisymm fun a b : α => key a < key b :=
    ⟨fun _ _ hlt hgt => (UInt64.lt_asymm hlt hgt).elim⟩
  exact has.eq_of_mem_iff hbs h

end Sorting

section Removal

variable {α : Type} {le : α → α → Bool} (htrans : ∀ a b c, le a b → le b c → le a c)
  (htotal : ∀ a b, le a b || le b a)

include htrans

theorem exists_orderedInsert_without (a : α) {sooner later : List α} {x : α}
    (hsorted : (sooner ++ x :: later).Pairwise fun a b => le a b) :
    ∃ sooner' later',
      (sooner ++ x :: later).orderedInsert (fun a b => le a b) a = sooner' ++ x :: later' ∧
        (sooner ++ later).orderedInsert (fun a b => le a b) a = sooner' ++ later' := by
  induction sooner with
  | nil =>
      rw [List.nil_append, List.nil_append] at *
      by_cases hax : le a x
      · refine ⟨[a], later, if_pos hax, ?_⟩
        cases later with
        | nil => rfl
        | cons y rest =>
            have hxy : le x y := List.rel_of_pairwise_cons hsorted List.mem_cons_self
            exact if_pos (htrans a x y hax hxy)
      · exact ⟨[], _, if_neg hax, rfl⟩
  | cons b sooner ih =>
      simp only [List.cons_append] at *
      by_cases hab : le a b
      · exact ⟨a :: b :: sooner, later, if_pos hab, if_pos hab⟩
      · obtain ⟨sooner', later', hwith, hwithout⟩ := ih (List.pairwise_cons.mp hsorted).2
        refine ⟨b :: sooner', later', ?_, ?_⟩
        · rw [List.orderedInsert_cons, if_neg hab, hwith, List.cons_append]
        · rw [List.orderedInsert_cons, if_neg hab, hwithout, List.cons_append]

include htotal

theorem mergeSort_cons_eq_orderedInsert (a : α) (xs : List α) :
    (a :: xs).mergeSort le = (xs.mergeSort le).orderedInsert (fun a b => le a b) a := by
  obtain ⟨sooner, later, hcons, hrest, hless⟩ := List.mergeSort_cons htrans htotal a xs
  have hsorted := List.pairwise_mergeSort htrans htotal (a :: xs)
  rw [hcons] at hsorted ⊢
  rw [hrest]
  clear hcons hrest
  induction sooner with
  | nil =>
      cases later with
      | nil => rfl
      | cons y rest =>
          have hay : le a y := List.rel_of_pairwise_cons hsorted List.mem_cons_self
          exact (if_pos hay).symm
  | cons b sooner ih =>
      have hab : ¬le a b := by simpa using hless b List.mem_cons_self
      rw [List.cons_append, List.cons_append, List.orderedInsert_cons, if_neg hab,
        ← ih (fun c hc => hless c (List.mem_cons_of_mem _ hc)) (List.pairwise_cons.mp hsorted).2]

theorem exists_mergeSort_without (before after : List α) (x : α) :
    ∃ sooner later, (before ++ x :: after).mergeSort le = sooner ++ x :: later ∧
      (before ++ after).mergeSort le = sooner ++ later := by
  induction before with
  | nil =>
      obtain ⟨sooner, later, hwith, hwithout, -⟩ := List.mergeSort_cons htrans htotal x after
      exact ⟨sooner, later, hwith, hwithout⟩
  | cons a before ih =>
      obtain ⟨sooner, later, hwith, hwithout⟩ := ih
      have hsorted := List.pairwise_mergeSort htrans htotal (before ++ x :: after)
      rw [hwith] at hsorted
      simp only [List.cons_append, mergeSort_cons_eq_orderedInsert htrans htotal, hwith, hwithout]
      exact exists_orderedInsert_without htrans a hsorted

end Removal

section Selection

variable {α : Type} {le : α → α → Bool}

/-- A list in an order. Elements that are equal in the order stay as they were. -/
structure StablySorted (le : α → α → Bool) (given ordered : List α) : Prop where
  perm : ordered.Perm given
  pairwise : ordered.Pairwise fun a b => le a b
  stable : ∀ x, ordered.filter (fun y => le x y && le y x) =
    given.filter fun y => le x y && le y x

theorem orderedInsert_of_forall_le {a : α} {xs : List α} (h : ∀ x ∈ xs, le a x) :
    xs.orderedInsert (fun a b => le a b) a = a :: xs := by
  cases xs with
  | nil => rfl
  | cons x xs => exact if_pos (h x List.mem_cons_self)

variable (htrans : ∀ a b c, le a b → le b c → le a c) (htotal : ∀ a b, le a b || le b a)

include htrans

theorem filter_orderedInsert (test : α → Bool) (a : α) {xs : List α}
    (hsorted : xs.Pairwise fun a b => le a b) :
    (xs.orderedInsert (fun a b => le a b) a).filter test =
      if test a then (xs.filter test).orderedInsert (fun a b => le a b) a
      else xs.filter test := by
  induction xs with
  | nil => cases htest : test a <;> simp [htest]
  | cons x xs ih =>
      obtain ⟨hx, hxs⟩ := List.pairwise_cons.mp hsorted
      by_cases hax : le a x
      · have hall : ∀ y ∈ x :: xs, le a y :=
          List.forall_mem_cons.mpr ⟨hax, fun y hy => htrans a x y hax (hx y hy)⟩
        rw [orderedInsert_of_forall_le hall,
          orderedInsert_of_forall_le fun y hy => hall y (List.mem_of_mem_filter hy),
          List.filter_cons]
      · rw [List.orderedInsert_cons, if_neg hax]
        cases htest : test x with
        | false => simp only [List.filter_cons, htest, ih hxs, Bool.false_eq_true, if_false]
        | true =>
            simp only [List.filter_cons, htest, ih hxs, if_true, List.orderedInsert_cons, hax,
              Bool.false_eq_true, if_false]
            split <;> rfl

include htotal

/-- Elements are selected before or after they are sorted. -/
theorem filter_mergeSort (test : α → Bool) (xs : List α) :
    (xs.mergeSort le).filter test = (xs.filter test).mergeSort le := by
  induction xs with
  | nil => simp
  | cons a xs ih =>
      rw [mergeSort_cons_eq_orderedInsert htrans htotal,
        filter_orderedInsert htrans test a (List.pairwise_mergeSort htrans htotal xs), ih,
        List.filter_cons]
      split
      · rw [mergeSort_cons_eq_orderedInsert htrans htotal]
      · rfl

theorem stablySorted_mergeSort (xs : List α) : StablySorted le xs (xs.mergeSort le) := by
  refine ⟨List.mergeSort_perm xs le, List.pairwise_mergeSort htrans htotal xs, fun x => ?_⟩
  have hties : (xs.filter fun y => le x y && le y x).Pairwise fun a b => le a b := by
    refine List.pairwise_of_forall_mem_list fun a ha b hb => ?_
    simp only [List.mem_filter, Bool.and_eq_true] at ha hb
    exact htrans a x b ha.2.2 hb.2.1
  rw [filter_mergeSort htrans htotal, List.mergeSort_of_pairwise hties]

end Selection

end FeatureFlags
