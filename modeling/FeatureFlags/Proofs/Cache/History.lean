import FeatureFlags.Proofs.Cache.Interleaving

namespace FeatureFlags

namespace Action

variable {Task : Type}

def Opens (t : Task) (a : Action Task) : Prop :=
  a = .begin t ∨ ∃ outcome, a = .fetch t outcome

def IsSwap (a : Action Task) : Prop :=
  ∃ t, a = .swap t

def Takes (t : Task) (a : Action Task) : Prop :=
  ∃ query held, a = .take t query held

def isSuccessfulFetch : Action Task → Bool
  | .fetch _ (.ok _) => true
  | _ => false

end Action

namespace History

variable {Task : Type} {p : Action Task → Prop} {history before before' : List (Action Task)}
  {a a' b : Action Task} {t : Task} {first flags : List Flag} {generation : Nat}

/-- Of the actions with a property, `a` is the last one, and `before` is what came
before it. -/
def LastOf (p : Action Task → Prop) (history before : List (Action Task))
    (a : Action Task) : Prop :=
  ∃ since, history = before ++ a :: since ∧ ∀ b ∈ since, ¬ p b

theorem lastOf_snoc (p : Action Task → Prop) (history : List (Action Task))
    (a : Action Task) : LastOf p (history ++ [a]) history a :=
  ⟨[], rfl, by simp⟩

theorem LastOf.snoc (h : LastOf p history before a) (hb : ¬ p b) :
    LastOf p (history ++ [b]) before a := by
  obtain ⟨since, rfl, hsince⟩ := h
  refine ⟨since ++ [b], by simp, ?_⟩
  intro c hc
  rcases List.mem_append.mp hc with hc | hc
  · exact hsince c hc
  · rw [List.mem_singleton.mp hc]
    exact hb

theorem LastOf.unique (h : LastOf p history before a) (ha : p a)
    (h' : LastOf p history before' a') (ha' : p a') : before = before' ∧ a = a' := by
  obtain ⟨since, rfl, hsince⟩ := h
  obtain ⟨since', heq, hsince'⟩ := h'
  rcases List.append_eq_append_iff.mp heq with ⟨mid, hmid, hrest⟩ | ⟨mid, hmid, hrest⟩
  · rcases mid with _ | ⟨c, mid⟩
    · simp only [List.nil_append, List.cons.injEq] at hrest
      exact ⟨by simpa using hmid.symm, hrest.1⟩
    · simp only [List.cons_append, List.cons.injEq] at hrest
      exact absurd ha' (hsince a' (by simp [hrest.2]))
  · rcases mid with _ | ⟨c, mid⟩
    · simp only [List.nil_append, List.cons.injEq] at hrest
      exact ⟨by simpa using hmid, hrest.1.symm⟩
    · simp only [List.cons_append, List.cons.injEq] at hrest
      exact absurd ha (hsince' a (by simp [hrest.2]))

def fetches (history : List (Action Task)) : Nat :=
  history.countP Action.isSuccessfulFetch

theorem fetches_snoc (history : List (Action Task)) (a : Action Task) :
    fetches (history ++ [a]) = fetches history + if a.isSuccessfulFetch then 1 else 0 := by
  simp [fetches, List.countP_append, List.countP_cons]

/-- A task's refresh fetched these flags, and its generation is their number among all
successful fetches, where the first load has number one. -/
def Drew (history : List (Action Task)) (t : Task) (flags : List Flag)
    (generation : Nat) : Prop :=
  ∃ before, LastOf (Action.Opens t) history before (.fetch t (.ok flags)) ∧
    generation = fetches before + 2

theorem drew_fetch (history : List (Action Task)) (t : Task) (flags : List Flag) :
    Drew (history ++ [.fetch t (.ok flags)]) t flags (fetches history + 2) :=
  ⟨history, lastOf_snoc _ _ _, rfl⟩

theorem Drew.snoc (h : Drew history t flags generation) (ha : ¬ a.Opens t) :
    Drew (history ++ [a]) t flags generation := by
  obtain ⟨before, hlast, hgeneration⟩ := h
  exact ⟨before, hlast.snoc ha, hgeneration⟩

theorem Drew.unique {flags' : List Flag} {generation' : Nat}
    (h : Drew history t flags generation) (h' : Drew history t flags' generation') :
    flags = flags' ∧ generation = generation' := by
  obtain ⟨before, hlast, rfl⟩ := h
  obtain ⟨before', hlast', rfl⟩ := h'
  obtain ⟨rfl, hfetch⟩ := hlast.unique (.inr ⟨_, rfl⟩) hlast' (.inr ⟨_, rfl⟩)
  cases hfetch
  exact ⟨rfl, rfl⟩

/-- The flags and the generation of the refresh that swapped last. Before any other, it
is the first load. -/
inductive LastSwap (first : List Flag) (history : List (Action Task)) :
    List Flag → Nat → Prop
  | load (hnone : ∀ a ∈ history, ¬ a.IsSwap) : LastSwap first history first 1
  | refresh {t : Task} {before : List (Action Task)} {flags : List Flag} {generation : Nat}
      (hswap : LastOf Action.IsSwap history before (.swap t))
      (hdrew : Drew before t flags generation) : LastSwap first history flags generation

theorem LastSwap.snoc (h : LastSwap first history flags generation) (ha : ¬ a.IsSwap) :
    LastSwap first (history ++ [a]) flags generation := by
  cases h with
  | load hnone =>
      refine .load fun b hb => ?_
      rcases List.mem_append.mp hb with hb | hb
      · exact hnone b hb
      · rw [List.mem_singleton.mp hb]
        exact ha
  | refresh hswap hdrew => exact .refresh (hswap.snoc ha) hdrew

theorem LastSwap.unique {flags' : List Flag} {generation' : Nat}
    (h : LastSwap first history flags generation)
    (h' : LastSwap first history flags' generation') :
    flags = flags' ∧ generation = generation' := by
  have hnever : ∀ {before t}, (∀ a ∈ history, ¬ a.IsSwap) →
      ¬ LastOf Action.IsSwap history before (.swap t) := by
    rintro before t hnone ⟨since, rfl, -⟩
    exact hnone (.swap t) (by simp) ⟨t, rfl⟩
  cases h with
  | load hnone =>
      cases h' with
      | load => exact ⟨rfl, rfl⟩
      | refresh hswap => exact absurd hswap (hnever hnone)
  | refresh hswap hdrew =>
      cases h' with
      | load hnone => exact absurd hswap (hnever hnone)
      | refresh hswap' hdrew' =>
          obtain ⟨rfl, hsame⟩ := hswap.unique ⟨_, rfl⟩ hswap' ⟨_, rfl⟩
          cases hsame
          exact hdrew.unique hdrew'

end History

end FeatureFlags
