import Mathlib.Data.List.Sort

namespace FeatureFlags

section FirstFault

variable {α β ε : Type}

/-- The fault of the first element that has one. -/
def FirstFault (fault : α → ε → Prop) (xs : List α) (e : ε) : Prop :=
  ∃ before x after, xs = before ++ x :: after ∧ fault x e ∧ ∀ y ∈ before, ∀ e', ¬ fault y e'

/-- The elements that a stable sort puts in front of a place of a list: those that were before
and are not greater, and those that were behind and are less. -/
def InFront (le : α → α → Bool) (before after : List α) (x y : α) : Prop :=
  y ∈ before ∧ le y x ∨ y ∈ after ∧ ¬ le x y

/-- The fault of the least element that has one. Of elements that are equal in the order, the
one before is less. -/
def LeastFault (le : α → α → Bool) (fault : α → ε → Prop) (xs : List α) (e : ε) : Prop :=
  ∃ before x after, xs = before ++ x :: after ∧ fault x e ∧
    ∀ y, InFront le before after x y → ∀ e', ¬ fault y e'

variable {fault : α → ε → Prop} {x : α} {xs : List α} {e : ε}

@[simp]
theorem not_firstFault_nil : ¬ FirstFault fault [] e := by
  simp [FirstFault]

theorem firstFault_cons_iff :
    FirstFault fault (x :: xs) e ↔
      fault x e ∨ (∀ e', ¬ fault x e') ∧ FirstFault fault xs e := by
  constructor
  · rintro ⟨before, y, after, hsplit, hfault, hbefore⟩
    cases before with
    | nil =>
        obtain ⟨rfl, rfl⟩ := List.cons.inj hsplit
        exact .inl hfault
    | cons first before =>
        obtain ⟨rfl, rfl⟩ := List.cons.inj hsplit
        obtain ⟨hx, hbefore⟩ := List.forall_mem_cons.mp hbefore
        exact .inr ⟨hx, before, y, after, rfl, hfault, hbefore⟩
  · rintro (hfault | ⟨hx, before, y, after, rfl, hfault, hbefore⟩)
    · exact ⟨[], x, xs, rfl, hfault, by simp⟩
    · exact ⟨x :: before, y, after, rfl, hfault, List.forall_mem_cons.mpr ⟨hx, hbefore⟩⟩

theorem firstFault_map_iff {fault : β → ε → Prop} {f : α → β} :
    FirstFault fault (xs.map f) e ↔ FirstFault (fun x => fault (f x)) xs e := by
  induction xs with
  | nil => simp
  | cons x rest ih => rw [List.map_cons, firstFault_cons_iff, firstFault_cons_iff, ih]

end FirstFault

section Sorting

variable {α ε : Type} {le : α → α → Bool}

theorem inFront_nil_iff {after : List α} {x y : α} :
    InFront le [] after x y ↔ y ∈ after ∧ ¬ le x y := by
  simp [InFront]

theorem inFront_cons_iff_of_le {before after : List α} {a x y : α} (h : le a x) :
    InFront le (a :: before) after x y ↔ y = a ∨ InFront le before after x y := by
  by_cases hy : y = a
  · simp [InFront, hy, h]
  · simp [InFront, hy]

theorem inFront_cons_iff_of_not_le {before after : List α} {a x y : α} (h : ¬ le a x) :
    InFront le (a :: before) after x y ↔ InFront le before after x y := by
  by_cases hy : y = a
  · simp [InFront, hy, h]
  · simp [InFront, hy]

theorem append_cons_eq_append_iff {as bs cs ds : List α} {x : α} :
    as ++ x :: bs = cs ++ ds ↔
      (∃ ms, as = cs ++ ms ∧ ds = ms ++ x :: bs) ∨ ∃ ms, cs = as ++ x :: ms ∧ bs = ms ++ ds := by
  constructor
  · intro h
    rcases List.append_eq_append_iff.mp h with ⟨ms, rfl, hds⟩ | hcut
    · rcases List.cons_eq_append_iff.mp hds with ⟨rfl, rfl⟩ | ⟨ms, rfl, rfl⟩
      · exact .inl ⟨[], by simp, rfl⟩
      · exact .inr ⟨ms, rfl, rfl⟩
    · exact .inl hcut
  · rintro (⟨ms, rfl, rfl⟩ | ⟨ms, rfl, rfl⟩) <;> simp

variable (htrans : ∀ a b c, le a b → le b c → le a c) (htotal : ∀ a b, le a b || le b a)

include htrans htotal

/-- The head of a list comes behind what is less than it, and before all else. -/
theorem exists_mergeSort_cons (a : α) (xs : List α) :
    ∃ sooner later, (a :: xs).mergeSort le = sooner ++ a :: later ∧
      xs.mergeSort le = sooner ++ later ∧ (∀ y ∈ later, le a y) ∧
      ∀ y, y ∈ sooner ↔ InFront le [] xs a y := by
  obtain ⟨sooner, later, hcons, hrest, hless⟩ := List.mergeSort_cons htrans htotal a xs
  have hlater : ∀ y ∈ later, le a y := by
    have hsorted := List.pairwise_mergeSort htrans htotal (a :: xs)
    rw [hcons] at hsorted
    exact (List.pairwise_cons.mp (List.pairwise_append.mp hsorted).2.1).1
  refine ⟨sooner, later, hcons, hrest, hlater, fun y => ?_⟩
  have hxs : y ∈ xs ↔ y ∈ sooner ∨ y ∈ later := by
    rw [← List.mem_append, ← hrest, List.mem_mergeSort]
  rw [inFront_nil_iff, hxs]
  constructor
  · intro hy
    exact ⟨.inl hy, by simpa using hless y hy⟩
  · rintro ⟨hy | hy, hnot⟩
    · exact hy
    · exact absurd (hlater y hy) hnot

theorem exists_mergeSort_eq_append_cons (before after : List α) (x : α) :
    ∃ sooner later, (before ++ x :: after).mergeSort le = sooner ++ x :: later ∧
      ∀ y, y ∈ sooner ↔ InFront le before after x y := by
  induction before with
  | nil =>
      obtain ⟨sooner, later, hsplit, -, -, hmem⟩ := exists_mergeSort_cons htrans htotal x after
      exact ⟨sooner, later, hsplit, hmem⟩
  | cons a before ih =>
      obtain ⟨sooner, later, hrest, hmem⟩ := ih
      obtain ⟨less, others, hcons, hcut, hothers, hless⟩ :=
        exists_mergeSort_cons htrans htotal a (before ++ x :: after)
      rw [hrest, append_cons_eq_append_iff] at hcut
      -- the new element stands before or behind the old place
      rcases hcut with ⟨middle, rfl, rfl⟩ | ⟨middle, rfl, rfl⟩
      · have hle : le a x := hothers x (by simp)
        refine ⟨less ++ a :: middle, later, by simp [hcons], fun y => ?_⟩
        rw [inFront_cons_iff_of_le hle, ← hmem, List.mem_append, List.mem_append, List.mem_cons,
          or_left_comm]
      · have hle : ¬ le a x := (inFront_nil_iff.mp ((hless x).mp (by simp))).2
        refine ⟨sooner, middle ++ a :: others, by simp [hcons], fun y => ?_⟩
        rw [inFront_cons_iff_of_not_le hle, hmem]

theorem exists_eq_append_cons_of_mergeSort {xs sooner later : List α} {x : α}
    (h : xs.mergeSort le = sooner ++ x :: later) :
    ∃ before after, xs = before ++ x :: after ∧
      ∀ y, y ∈ sooner ↔ InFront le before after x y := by
  induction xs generalizing sooner later with
  | nil => simp at h
  | cons a xs ih =>
      obtain ⟨less, others, hcons, hrest, hothers, hless⟩ :=
        exists_mergeSort_cons htrans htotal a xs
      rw [hcons, append_cons_eq_append_iff] at h
      -- the place is that of the new element, one in front of it or one behind it
      rcases h with ⟨_ | ⟨_, middle⟩, rfl, hplace⟩ | ⟨middle, rfl, rfl⟩
      · obtain ⟨rfl, rfl⟩ := List.cons.inj hplace
        exact ⟨[], xs, rfl, by simpa using hless⟩
      · obtain ⟨rfl, rfl⟩ := List.cons.inj hplace
        obtain ⟨before, after, rfl, hmem⟩ := ih (by simpa using hrest)
        have hle : ¬ le a x := (inFront_nil_iff.mp ((hless x).mp (by simp))).2
        refine ⟨a :: before, after, rfl, fun y => ?_⟩
        rw [inFront_cons_iff_of_not_le hle, hmem]
      · have hplace : xs.mergeSort le = (less ++ middle) ++ x :: later := by simpa using hrest
        obtain ⟨before, after, rfl, hmem⟩ := ih hplace
        have hle : le a x := hothers x (by simp)
        refine ⟨a :: before, after, rfl, fun y => ?_⟩
        rw [inFront_cons_iff_of_le hle, ← hmem, List.mem_append, List.mem_append, List.mem_cons,
          or_left_comm]

theorem firstFault_mergeSort_iff {fault : α → ε → Prop} {xs : List α} {e : ε} :
    FirstFault fault (xs.mergeSort le) e ↔ LeastFault le fault xs e := by
  constructor
  · rintro ⟨sooner, x, later, hsplit, hfault, hsooner⟩
    obtain ⟨before, after, hxs, hmem⟩ := exists_eq_append_cons_of_mergeSort htrans htotal hsplit
    exact ⟨before, x, after, hxs, hfault, fun y hy => hsooner y ((hmem y).mpr hy)⟩
  · rintro ⟨before, x, after, rfl, hfault, hfront⟩
    obtain ⟨sooner, later, hsplit, hmem⟩ :=
      exists_mergeSort_eq_append_cons htrans htotal before after x
    exact ⟨sooner, x, later, hsplit, hfault, fun y hy => hfront y ((hmem y).mp hy)⟩

end Sorting

end FeatureFlags
