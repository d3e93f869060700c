import Mathlib.Data.List.Forall2

namespace FeatureFlags

section Pairing

variable {α β : Type} {R : α → β → Prop} {as : List α} {bs : List β}

theorem exists_forall₂_of_forall (h : ∀ a ∈ as, ∃ b, R a b) : ∃ bs, List.Forall₂ R as bs := by
  induction as with
  | nil => exact ⟨[], .nil⟩
  | cons a as ih =>
      obtain ⟨b, hb⟩ := h a (by simp)
      obtain ⟨bs, hbs⟩ := ih fun a' ha' => h a' (by simp [ha'])
      exact ⟨b :: bs, .cons hb hbs⟩

theorem forall₂_append_cons {before after : List α} {a : α}
    (h : List.Forall₂ R (before ++ a :: after) bs) :
    ∃ sooner b later, bs = sooner ++ b :: later ∧ List.Forall₂ R before sooner ∧ R a b ∧
      List.Forall₂ R after later := by
  induction before generalizing bs with
  | nil =>
      obtain ⟨b, later, hb, hlater, rfl⟩ := List.forall₂_cons_left_iff.mp h
      exact ⟨[], b, later, rfl, .nil, hb, hlater⟩
  | cons first before ih =>
      obtain ⟨b', rest, hb', hrest, rfl⟩ := List.forall₂_cons_left_iff.mp h
      obtain ⟨sooner, b, later, rfl, hsooner, hb, hlater⟩ := ih hrest
      exact ⟨b' :: sooner, b, later, rfl, .cons hb' hsooner, hb, hlater⟩

theorem exists_of_mem_of_forall₂ {b : β} (h : List.Forall₂ R as bs) (hb : b ∈ bs) :
    ∃ a ∈ as, R a b := by
  obtain ⟨before, after, rfl⟩ := List.append_of_mem hb
  obtain ⟨sooner, a, later, rfl, -, ha, -⟩ := forall₂_append_cons h.flip
  exact ⟨a, by simp, ha⟩

theorem forall₂_flatMap {γ : Type} {xs : List γ} {f : γ → List α} {g : γ → List β}
    (h : ∀ x ∈ xs, List.Forall₂ R (f x) (g x)) :
    List.Forall₂ R (xs.flatMap f) (xs.flatMap g) := by
  induction xs with
  | nil => exact .nil
  | cons x xs ih =>
      rw [List.flatMap_cons, List.flatMap_cons]
      exact List.rel_append (h x (by simp)) (ih fun y hy => h y (by simp [hy]))

theorem forall₂_comp {γ : Type} {S : β → γ → Prop} {cs : List γ} (h : List.Forall₂ R as bs)
    (h' : List.Forall₂ S bs cs) : List.Forall₂ (fun a c => ∃ b, R a b ∧ S b c) as cs := by
  induction h generalizing cs with
  | nil =>
      rw [List.forall₂_nil_left_iff.mp h']
      exact .nil
  | @cons a b _ _ hab _ ih =>
      obtain ⟨c, cs', hbc, hrest, rfl⟩ := List.forall₂_cons_left_iff.mp h'
      exact .cons ⟨b, hab, hbc⟩ (ih hrest)

theorem pairwise_of_forall₂ {p : α → α → Prop} {q : β → β → Prop} (h : List.Forall₂ R as bs)
    (hpq : ∀ a b a' b', R a b → R a' b' → p a a' → q b b') (hp : as.Pairwise p) :
    bs.Pairwise q := by
  induction h with
  | nil => exact .nil
  | cons hab hrest ih =>
      obtain ⟨hfirst, hp⟩ := List.pairwise_cons.mp hp
      refine List.pairwise_cons.mpr ⟨fun b' hb' => ?_, ih hp⟩
      obtain ⟨a', ha', hab'⟩ := exists_of_mem_of_forall₂ hrest hb'
      exact hpq _ _ _ _ hab hab' (hfirst a' ha')

theorem exists_mem_iff_of_forall₂ {p : α → Prop} {q : β → Prop} (h : List.Forall₂ R as bs)
    (hpq : ∀ a b, R a b → (p a ↔ q b)) : (∃ a ∈ as, p a) ↔ ∃ b ∈ bs, q b := by
  induction h with
  | nil => simp
  | cons hab _ ih => rw [List.exists_mem_cons_iff, List.exists_mem_cons_iff, hpq _ _ hab, ih]

variable {f : α → Option β}

theorem mapM_eq_some_iff_forall₂ :
    as.mapM f = some bs ↔ List.Forall₂ (fun a b => f a = some b) as bs := by
  induction as generalizing bs with
  | nil => simp [eq_comm]
  | cons a as ih =>
      rw [List.mapM_cons, List.forall₂_cons_left_iff]
      simp only [← ih]
      cases f a with
      | none => simp
      | some b => cases as.mapM f <;> simp [eq_comm]

theorem exists_of_mem_mapM (h : as.mapM f = some bs) {b : β} (hb : b ∈ bs) :
    ∃ a ∈ as, f a = some b :=
  exists_of_mem_of_forall₂ (R := fun a b => f a = some b) (mapM_eq_some_iff_forall₂.mp h) hb

theorem mapM_eq_none_iff : as.mapM f = none ↔ ∃ a ∈ as, f a = none := by
  induction as with
  | nil => simp
  | cons a as ih =>
      rw [List.mapM_cons, List.exists_mem_cons_iff, ← ih]
      cases f a with
      | none => simp
      | some b => cases as.mapM f <;> simp

end Pairing

end FeatureFlags
