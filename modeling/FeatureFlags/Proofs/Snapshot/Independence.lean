import FeatureFlags.Pattern.Machine
import FeatureFlags.Proofs.Snapshot.Index

namespace FeatureFlags

namespace PreparedFlag

variable [PatternEngine]

theorem evaluate_ne_flagNotFound (p : PreparedFlag) (c : Context) (ref : FlagRef) :
    p.evaluate c ≠ .error (.flagNotFound ref) := by
  unfold evaluate
  dsimp only
  split
  · nofun
  · split
    · nofun
    · split <;> nofun

end PreparedFlag

namespace Context

variable {c : Context}

theorem flagRef?_of_id {id : Id} (h : c.flagId = some id) : c.flagRef? = some (.id id) := by
  simp [flagRef?, h]

theorem flagRef?_of_key {key : String} (hid : c.flagId = none) (hkey : c.flagKey = some key)
    (hempty : key ≠ "") : c.flagRef? = some (.key key) := by
  simp [flagRef?, hid, hkey, hempty]

end Context

namespace Snapshot

variable [PatternEngine]

section Evaluation

variable {s : Snapshot} {c : Context} {ref ref' : FlagRef} {p : PreparedFlag}

theorem evaluate_of_get?_eq_some (href : c.flagRef? = some ref) (hget : s.get? ref = some p) :
    s.evaluate c = p.evaluate c := by
  simp only [evaluate, href, hget]

theorem evaluate_eq_flagNotFound_iff (href : c.flagRef? = some ref) :
    s.evaluate c = .error (.flagNotFound ref') ↔ ref' = ref ∧ s.get? ref = none := by
  cases hget : s.get? ref with
  | none => simp [evaluate, href, hget, eq_comm]
  | some p =>
      rw [evaluate_of_get?_eq_some href hget]
      simp [p.evaluate_ne_flagNotFound c ref']

end Evaluation

/-- A context is answered by the last flag of a list that passes a test, as if it stood
alone. What else is in the list has no say. -/
structure AnsweredAlone (flags : List Flag) (test : Flag → Bool) (ref : FlagRef) (c : Context)
    (s : Snapshot) : Prop where
  found : ∀ before f after, flags = before ++ f :: after → test f → (∀ g ∈ after, ¬ test g) →
    ∃ p, PreparedFlag.prepare f = .ok p ∧ s.evaluate c = p.evaluate c
  notFound : ∀ ref', s.evaluate c = .error (.flagNotFound ref') ↔
    ref' = ref ∧ ∀ f ∈ flags, ¬ test f
  independent : ∀ flags' generation' s', (build flags' generation').2 = .ok s' →
    flags'.filter test = flags.filter test → s'.evaluate c = s.evaluate c

/-- A reference that finds in every snapshot what the last flag that passes a test prepares
to. -/
def Selects (ref : FlagRef) (test : Flag → Bool) : Prop :=
  ∀ flags generation s, (build flags generation).2 = .ok s → ∀ p,
    s.get? ref = some p ↔
      ∃ f, Flag.last? test flags = some f ∧ PreparedFlag.prepare f = .ok p

section Lookup

variable {flags flags' : List Flag} {generation generation' : Nat} {s s' : Snapshot}
  {test : Flag → Bool} {ref : FlagRef} {c : Context}

theorem selects_id (id : Id) : Selects (.id id) (·.id == id) :=
  fun _ _ _ hbuild _ => get?_id_eq_some_iff hbuild id

theorem selects_key {key : String} (hempty : key ≠ "") : Selects (.key key) (·.key == key) := by
  intro flags generation s hbuild p
  have htest : Flag.hasKey key = (·.key == key) := by
    funext f
    by_cases h : f.key = key
    · simp [Flag.hasKey, h, hempty]
    · simp [Flag.hasKey, h]
  rw [get?_key_eq_some_iff hbuild, htest]

theorem Selects.get?_eq_none_iff (hselects : Selects ref test)
    (hbuild : (build flags generation).2 = .ok s) :
    s.get? ref = none ↔ ∀ f ∈ flags, ¬ test f := by
  rw [← Flag.last?_eq_none_iff]
  constructor
  · intro hnone
    by_contra hsome
    obtain ⟨f, hlast⟩ := Option.ne_none_iff_exists'.mp hsome
    obtain ⟨p, hprepare⟩ := exists_prepare_of_build_eq_ok hbuild (Flag.mem_of_last?_eq_some hlast)
    rw [(hselects _ _ _ hbuild _).mpr ⟨f, hlast, hprepare⟩] at hnone
    cases hnone
  · intro hnone
    by_contra hsome
    obtain ⟨p, hp⟩ := Option.ne_none_iff_exists'.mp hsome
    obtain ⟨f, hlast, -⟩ := (hselects _ _ _ hbuild _).mp hp
    rw [hnone] at hlast
    cases hlast

theorem Selects.get?_congr (hselects : Selects ref test)
    (hbuild : (build flags generation).2 = .ok s)
    (hbuild' : (build flags' generation').2 = .ok s')
    (hfilter : flags'.filter test = flags.filter test) : s'.get? ref = s.get? ref := by
  have hlast : Flag.last? test flags' = Flag.last? test flags := by
    rw [← Flag.last?_filter, hfilter, Flag.last?_filter]
  apply Option.ext
  intro p
  rw [hselects _ _ _ hbuild, hselects _ _ _ hbuild', hlast]

theorem Selects.answeredAlone (hselects : Selects ref test)
    (hbuild : (build flags generation).2 = .ok s) (href : c.flagRef? = some ref) :
    s.AnsweredAlone flags test ref c := by
  refine ⟨?_, ?_, ?_⟩
  · intro before f after hsplit htest hafter
    have hlast : Flag.last? test flags = some f :=
      Flag.last?_eq_some_iff.mpr ⟨before, after, hsplit, htest, hafter⟩
    obtain ⟨p, hprepare⟩ := exists_prepare_of_build_eq_ok hbuild (Flag.mem_of_last?_eq_some hlast)
    have hget : s.get? ref = some p := (hselects _ _ _ hbuild _).mpr ⟨f, hlast, hprepare⟩
    exact ⟨p, hprepare, evaluate_of_get?_eq_some href hget⟩
  · intro ref'
    rw [evaluate_eq_flagNotFound_iff href, hselects.get?_eq_none_iff hbuild]
  · intro flags' generation' s' hbuild' hfilter
    simp only [evaluate, href, hselects.get?_congr hbuild hbuild' hfilter]

theorem key_of_get?_key (hbuild : (build flags generation).2 = .ok s) {key : String}
    {p : PreparedFlag} (hp : s.get? (.key key) = some p) : p.flag.key = key ∧ key ≠ "" := by
  obtain ⟨f, hlast, hprepare⟩ := (get?_key_eq_some_iff hbuild key).mp hp
  have htest := Flag.test_of_last?_eq_some hlast
  simp only [Flag.hasKey, Bool.and_eq_true, beq_iff_eq, Bool.not_eq_true',
    String.isEmpty_eq_false_iff] at htest
  obtain ⟨rfl, hempty⟩ := htest
  rw [PreparedFlag.flag_of_prepare hprepare]
  exact ⟨rfl, hempty⟩

/-- A context with a number is answered by the last flag of the number alone, and one with a
key and no number by the last flag of the key alone. A flag without key is found by none. -/
theorem answeredAlone_of_build (hbuild : (build flags generation).2 = .ok s) :
    (∀ c id, c.flagId = some id → s.AnsweredAlone flags (·.id == id) (.id id) c) ∧
    (∀ c key, c.flagId = none → c.flagKey = some key → key ≠ "" →
      s.AnsweredAlone flags (·.key == key) (.key key) c) ∧
    ∀ key p, s.get? (.key key) = some p → p.flag.key = key ∧ key ≠ "" := by
  refine ⟨?_, ?_, fun key p hp => key_of_get?_key hbuild hp⟩
  · intro c id hid
    exact (selects_id id).answeredAlone hbuild (Context.flagRef?_of_id hid)
  · intro c key hid hkey hempty
    exact (selects_key hempty).answeredAlone hbuild (Context.flagRef?_of_key hid hkey hempty)

end Lookup

end Snapshot

namespace Snapshot

theorem answeredAlone_of_renamed :
    ∃ s s', (build [.plain 1 "a" [], .plain 2 "" [], .plain 1 "b" []] 1).2 = .ok s ∧
      (build [.plain 1 "a" [], .plain 1 "b" [], .plain 3 "a" []] 2).2 = .ok s' ∧
      (∀ c, c.flagId = some 1 → s.evaluate c = PreparedFlag.evaluate ⟨.plain 1 "b" [], []⟩ c ∧
        s'.evaluate c = s.evaluate c) ∧
      (∀ c, c.flagId = none → c.flagKey = some "a" →
        s.evaluate c = PreparedFlag.evaluate ⟨.plain 1 "a" [], []⟩ c) ∧
      ∀ c, c.flagId = some 3 → s.evaluate c = .error (.flagNotFound (.id 3)) := by
  obtain ⟨s, hbuild⟩ :
      ∃ s, (build [.plain 1 "a" [], .plain 2 "" [], .plain 1 "b" []] 1).2 = .ok s := by
    simp [exists_build_eq_ok_iff]
  obtain ⟨s', hbuild'⟩ :
      ∃ s', (build [.plain 1 "a" [], .plain 1 "b" [], .plain 3 "a" []] 2).2 = .ok s' := by
    simp [exists_build_eq_ok_iff]
  obtain ⟨hids, hkeys, -⟩ := answeredAlone_of_build hbuild
  refine ⟨s, s', hbuild, hbuild', ?_, ?_, ?_⟩
  · intro c hid
    have halone := hids c 1 hid
    obtain ⟨p, hprepare, hevaluate⟩ :=
      halone.found [.plain 1 "a" [], .plain 2 "" []] (.plain 1 "b" []) [] rfl rfl nofun
    rw [PreparedFlag.prepare_plain] at hprepare
    cases hprepare
    exact ⟨hevaluate, halone.independent _ 2 s' hbuild' rfl⟩
  · intro c hid hkey
    obtain ⟨p, hprepare, hevaluate⟩ := (hkeys c "a" hid hkey (by decide)).found []
      (.plain 1 "a" []) [.plain 2 "" [], .plain 1 "b" []] rfl rfl (by decide)
    rw [PreparedFlag.prepare_plain] at hprepare
    cases hprepare
    exact hevaluate
  · intro c hid
    exact ((hids c 3 hid).notFound (.id 3)).mpr ⟨rfl, by decide⟩

end Snapshot

end FeatureFlags
