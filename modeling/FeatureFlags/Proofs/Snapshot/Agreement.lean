import FeatureFlags.Pattern.Machine
import FeatureFlags.Proofs.Snapshot.Tags

namespace FeatureFlags

def TagOperator.Matches (op : TagOperator) (tags : List String) (f : Flag) : Prop :=
  match op with
  | .any => ∃ tag ∈ tags, f.carries tag
  | .all => tags ≠ [] ∧ ∀ tag ∈ tags, f.carries tag

/-- What the keys and the tags of a snapshot find is what is found by number, and it has
the key or the tags. -/
structure Snapshot.Agrees (s : Snapshot) : Prop where
  key : ∀ key p, s.get? (.key key) = some p →
    p.flag.key = key ∧ s.get? (.id p.flag.id) = some p
  tags : ∀ tags op, ∀ p ∈ s.getByTags tags op,
    op.Matches tags p.flag ∧ s.get? (.id p.flag.id) = some p

namespace Flag

/-- The last flag of a key, and the last one of a number and a tag, is the last one of
its number. -/
structure Current (flags : List Flag) : Prop where
  key : ∀ key f, last? (hasKey key) flags = some f → last? (·.id == f.id) flags = some f
  tag : ∀ tag id f, last? (fun f => f.id == id && f.carries tag) flags = some f →
    last? (·.id == id) flags = some f

theorem key_eq_of_hasKey {key : String} {f : Flag} (h : f.hasKey key) : f.key = key := by
  simp only [hasKey, Bool.and_eq_true, beq_iff_eq] at h
  exact h.1

theorem last?_id_of_nodup {flags : List Flag} (hids : (flags.map Flag.id).Nodup) {f : Flag}
    (hf : f ∈ flags) : last? (·.id == f.id) flags = some f :=
  last?_of_nodup hids (fun _ => eq_of_beq) hf (beq_self_eq_true f.id)

theorem current_of_nodup {flags : List Flag} (hids : (flags.map Flag.id).Nodup) :
    Current flags := by
  refine ⟨?_, ?_⟩
  · intro key f hlast
    exact last?_id_of_nodup hids (mem_of_last?_eq_some hlast)
  · intro tag id f hlast
    have htest := test_of_last?_eq_some hlast
    rw [Bool.and_eq_true, beq_iff_eq] at htest
    rw [← htest.1]
    exact last?_id_of_nodup hids (mem_of_last?_eq_some hlast)

end Flag

namespace Snapshot

variable [PatternEngine] {flags : List Flag} {generation : Nat} {s : Snapshot}

theorem get?_id_of_last? (hbuild : (build flags generation).2 = .ok s) {f : Flag}
    {p : PreparedFlag} (hprepare : PreparedFlag.prepare f = .ok p)
    (hlast : Flag.last? (·.id == f.id) flags = some f) :
    s.get? (.id p.flag.id) = some p := by
  rw [PreparedFlag.flag_id_of_prepare hprepare, get?_id_eq_some_iff hbuild]
  exact ⟨f, hlast, hprepare⟩

theorem last?_of_get?_id (hbuild : (build flags generation).2 = .ok s) {f : Flag}
    {p : PreparedFlag} (hprepare : PreparedFlag.prepare f = .ok p) {test : Flag → Bool}
    (hsorted : ∀ f, test f.sorted = test f) (hlast : Flag.last? test flags = some f)
    (hid : s.get? (.id p.flag.id) = some p) :
    Flag.last? (·.id == f.id) flags = some f := by
  have hf := PreparedFlag.flag_of_prepare hprepare
  obtain ⟨g, hg, hprepare'⟩ := (get?_id_eq_some_iff hbuild _).mp hid
  have hsame : g.sorted = f.sorted := by
    rw [← hf, PreparedFlag.flag_of_prepare hprepare']
  rw [hf, Flag.sorted_id] at hg
  have hgtest : test g := by
    rw [← hsorted, hsame, hsorted]
    exact Flag.test_of_last?_eq_some hlast
  rw [hg, Flag.last?_unique hg hlast hgtest (beq_self_eq_true f.id)]

theorem agrees_of_current (hbuild : (build flags generation).2 = .ok s)
    (hcurrent : Flag.Current flags) : s.Agrees := by
  refine ⟨?_, ?_⟩
  · intro key p hp
    obtain ⟨f, hlast, hprepare⟩ := (get?_key_eq_some_iff hbuild key).mp hp
    refine ⟨?_, get?_id_of_last? hbuild hprepare (hcurrent.key key f hlast)⟩
    rw [PreparedFlag.flag_of_prepare hprepare, Flag.sorted_key]
    exact Flag.key_eq_of_hasKey (Flag.test_of_last?_eq_some hlast)
  · intro tags op p hp
    obtain ⟨tag, htag, id, hfound, hall⟩ := s.exists_tagged_of_mem_getByTags hp
    obtain ⟨f, hlast, hprepare⟩ := (tagged_eq_some_iff hbuild tag id).mp hfound
    have hcurrentf := hcurrent.tag tag id f hlast
    have hflag := PreparedFlag.flag_of_prepare hprepare
    obtain ⟨hid, hcarries⟩ : f.id = id ∧ f.carries tag := by
      simpa using Flag.test_of_last?_eq_some hlast
    refine ⟨?_, get?_id_of_last? hbuild hprepare (by rwa [hid])⟩
    rw [hflag]
    cases op with
    | any => exact ⟨tag, htag, hcarries⟩
    | all =>
        refine ⟨List.ne_nil_of_mem htag, fun other hother => ?_⟩
        obtain ⟨q, hq⟩ := Option.isSome_iff_exists.mp (hall rfl other hother)
        obtain ⟨g, hg, -⟩ := (tagged_eq_some_iff hbuild other id).mp hq
        -- both tags hold a flag of one number, and each is the last one of it
        have hsame : g = f :=
          Option.some.inj ((hcurrent.tag other id g hg).symm.trans hcurrentf)
        subst hsame
        exact (Bool.and_eq_true_iff.mp (Flag.test_of_last?_eq_some hg)).2

theorem current_of_agrees (hbuild : (build flags generation).2 = .ok s) (hagrees : s.Agrees) :
    Flag.Current flags := by
  refine ⟨?_, ?_⟩
  · intro key f hlast
    obtain ⟨p, hprepare⟩ :=
      exists_prepare_of_build_eq_ok hbuild (Flag.mem_of_last?_eq_some hlast)
    have hkey := (get?_key_eq_some_iff hbuild key).mpr ⟨f, hlast, hprepare⟩
    exact last?_of_get?_id hbuild hprepare (fun _ => rfl) hlast (hagrees.key key p hkey).2
  · intro tag id f hlast
    obtain ⟨p, hprepare⟩ :=
      exists_prepare_of_build_eq_ok hbuild (Flag.mem_of_last?_eq_some hlast)
    have htagged := (tagged_eq_some_iff hbuild tag id).mpr ⟨f, hlast, hprepare⟩
    have hmem := s.mem_getByTags_singleton htagged .any
    have hid : f.id = id :=
      eq_of_beq (Bool.and_eq_true_iff.mp (Flag.test_of_last?_eq_some hlast)).1
    rw [← hid]
    exact last?_of_get?_id hbuild hprepare (fun _ => rfl) hlast (hagrees.tags _ _ p hmem).2

/-- The indexes agree just if the last flag of each key, and of each number and tag, is the
last one of its number. -/
theorem agrees_iff_current (hbuild : (build flags generation).2 = .ok s) :
    s.Agrees ↔ Flag.Current flags :=
  ⟨current_of_agrees hbuild, agrees_of_current hbuild⟩

end Snapshot

namespace Snapshot

theorem agrees_of_retagged :
    ∃ s, (build [.plain 1 "a" [], .plain 1 "a" [⟨1, "x"⟩]] 1).2 = .ok s ∧ s.Agrees := by
  obtain ⟨s, hbuild⟩ :
      ∃ s, (build [.plain 1 "a" [], .plain 1 "a" [⟨1, "x"⟩]] 1).2 = .ok s := by
    simp [exists_build_eq_ok_iff]
  refine ⟨s, hbuild, (agrees_iff_current hbuild).mpr ⟨?_, ?_⟩⟩
  · intro key f hlast
    have hf : f = .plain 1 "a" [⟨1, "x"⟩] := by
      by_cases hkey : "a" = key
      · subst hkey
        exact (Option.some.inj hlast).symm
      · simp [Flag.last?, Flag.hasKey, Flag.plain, hkey] at hlast
    rw [hf]
    rfl
  · intro tag id f hlast
    obtain ⟨⟨rfl, -⟩, rfl⟩ : (1 = id ∧ "x" = tag) ∧ .plain 1 "a" [⟨1, "x"⟩] = f := by
      simpa [Flag.last?, Flag.carries, Flag.plain] using hlast
    rfl

theorem not_forall_agrees :
    ¬ ∀ flags generation s, (build flags generation).2 = .ok s → s.Agrees := by
  intro h
  obtain ⟨s, hbuild⟩ : ∃ s, (build [.plain 1 "a" [], .plain 1 "b" []] 1).2 = .ok s := by
    simp [exists_build_eq_ok_iff]
  have hkey : s.get? (.key "a") = some ⟨.plain 1 "a" [], []⟩ :=
    (get?_key_eq_some_iff hbuild "a").mpr ⟨_, rfl, PreparedFlag.prepare_plain 1 "a" []⟩
  obtain ⟨-, hid⟩ := (h _ _ s hbuild).key "a" _ hkey
  obtain ⟨g, hlast, hprepare'⟩ := (get?_id_eq_some_iff hbuild 1).mp hid
  -- the number finds the flag that came again
  have hg : Flag.plain 1 "b" [] = g := Option.some.inj hlast
  rw [← hg, PreparedFlag.prepare_plain] at hprepare'
  have hkeys := congrArg (fun p => p.flag.key) (Except.ok.inj hprepare')
  exact absurd hkeys (by decide)

end Snapshot

end FeatureFlags
