import FeatureFlags.Pattern.Machine
import FeatureFlags.Proofs.Snapshot.Agreement
import Mathlib.Data.List.Dedup

namespace FeatureFlags

namespace Flag

/-- Of the flags that are the last ones of their numbers, none with the key of the last
flag of a key has a greater number than that one. -/
def KeysInOrder (flags : List Flag) : Prop :=
  ∀ key f other, last? (hasKey key) flags = some f →
    last? (·.id == other.id) flags = some other → other.hasKey key → other.id ≤ f.id

theorem keysInOrder_of_nodup {flags : List Flag} (hkeys : (flags.map Flag.key).Nodup) :
    KeysInOrder flags := by
  intro key f other hlast hother hkey
  have hsame : other = f := by
    refine List.inj_on_of_nodup_map hkeys (mem_of_last?_eq_some hother)
      (mem_of_last?_eq_some hlast) ?_
    rw [key_eq_of_hasKey hkey, key_eq_of_hasKey (test_of_last?_eq_some hlast)]
  rw [hsame]
  exact UInt64.le_refl f.id

end Flag

namespace Snapshot

variable [PatternEngine]

/-- Snapshots that answer every lookup with the same definitions, and every context with
the same result. -/
structure Alike (s s' : Snapshot) : Prop where
  get? : ∀ ref, (s.get? ref).map PreparedFlag.flag = (s'.get? ref).map PreparedFlag.flag
  getByTags : ∀ tags op,
    (s.getByTags tags op).map PreparedFlag.flag = (s'.getByTags tags op).map PreparedFlag.flag
  evaluate : ∀ c, s.evaluate c = s'.evaluate c

theorem Alike.exists_get?_eq_some {s s' : Snapshot} (h : s.Alike s') {ref : FlagRef}
    {p : PreparedFlag} (hp : s.get? ref = some p) :
    ∃ p', s'.get? ref = some p' ∧ p'.flag = p.flag := by
  have hget := h.get? ref
  rw [hp, Option.map_some, eq_comm] at hget
  exact Option.map_eq_some_iff.mp hget

section Flags

variable {flags : List Flag} {generation : Nat} {s : Snapshot}

theorem id_of_get?_id (hbuild : (build flags generation).2 = .ok s) {id : Id}
    {p : PreparedFlag} (hp : s.get? (.id id) = some p) : p.flag.id = id := by
  obtain ⟨f, hlast, hprepare⟩ := (get?_id_eq_some_iff hbuild id).mp hp
  rw [PreparedFlag.flag_id_of_prepare hprepare]
  exact eq_of_beq (Flag.test_of_last?_eq_some hlast)

/-- The flags of a snapshot are the last ones of their numbers, with their segments in
order. -/
theorem mem_flags_iff (hbuild : (build flags generation).2 = .ok s) {f : Flag} :
    f ∈ s.flags ↔ ∃ g, Flag.last? (·.id == g.id) flags = some g ∧ g.sorted = f := by
  simp only [Snapshot.flags, List.mem_map, mem_values_iff]
  constructor
  · rintro ⟨p, ⟨id, hid⟩, rfl⟩
    obtain ⟨g, hlast, hprepare⟩ := (get?_id_eq_some_iff hbuild id).mp hid
    have hg : g.id = id := eq_of_beq (Flag.test_of_last?_eq_some hlast)
    exact ⟨g, by rwa [hg], (PreparedFlag.flag_of_prepare hprepare).symm⟩
  · rintro ⟨g, hlast, rfl⟩
    obtain ⟨p, hprepare⟩ :=
      exists_prepare_of_build_eq_ok hbuild (Flag.mem_of_last?_eq_some hlast)
    exact ⟨p, ⟨g.id, (get?_id_eq_some_iff hbuild g.id).mpr ⟨g, hlast, hprepare⟩⟩,
      PreparedFlag.flag_of_prepare hprepare⟩

theorem flags_pairwise (hbuild : (build flags generation).2 = .ok s) :
    s.flags.Pairwise fun a b => a.id < b.id :=
  List.pairwise_map.mpr (FlagIndex.values_pairwise fun _ _ => id_of_get?_id hbuild)

theorem nodup_map_id_flags (hbuild : (build flags generation).2 = .ok s) :
    (s.flags.map Flag.id).Nodup :=
  List.pairwise_map.mpr ((flags_pairwise hbuild).imp UInt64.ne_of_lt)

/-- There are as many flags in a snapshot as there are numbers in the list. -/
theorem length_flags_of_build (hbuild : (build flags generation).2 = .ok s) :
    s.flags.length = (flags.map Flag.id).dedup.length := by
  rw [← List.length_map Flag.id]
  refine ((List.perm_ext_iff_of_nodup (nodup_map_id_flags hbuild)
    (List.nodup_dedup _)).mpr fun id => ?_).length_eq
  simp only [List.mem_dedup, List.mem_map]
  constructor
  · rintro ⟨f, hf, rfl⟩
    obtain ⟨g, hlast, rfl⟩ := (mem_flags_iff hbuild).mp hf
    exact ⟨g, Flag.mem_of_last?_eq_some hlast, rfl⟩
  · rintro ⟨f, hf, rfl⟩
    obtain ⟨g, hlast⟩ : ∃ g, Flag.last? (·.id == f.id) flags = some g :=
      Flag.exists_last?_eq_some hf (beq_self_eq_true f.id)
    have hg : g.id = f.id := eq_of_beq (Flag.test_of_last?_eq_some hlast)
    exact ⟨g.sorted, (mem_flags_iff hbuild).mpr ⟨g, by rwa [hg], rfl⟩, hg⟩

/-- A test finds the same in the flags of the snapshot as in those it was built of, if it
finds a last one of its number, of the greatest number that passes it. -/
theorem last?_flags (hbuild : (build flags generation).2 = .ok s) {test : Flag → Bool}
    (hsorted : ∀ f, test f.sorted = test f)
    (hcurrent : ∀ f, Flag.last? test flags = some f →
      Flag.last? (·.id == f.id) flags = some f)
    (hgreatest : ∀ f other, Flag.last? test flags = some f →
      Flag.last? (·.id == other.id) flags = some other → test other → other.id ≤ f.id) :
    Flag.last? test s.flags = (Flag.last? test flags).map Flag.sorted := by
  cases hlast : Flag.last? test flags with
  | some f =>
      refine (Flag.last?_eq_some_iff_of_pairwise (flags_pairwise hbuild)).mpr ⟨?_, ?_, ?_⟩
      · exact (mem_flags_iff hbuild).mpr ⟨f, hcurrent f hlast, rfl⟩
      · rw [hsorted]
        exact Flag.test_of_last?_eq_some hlast
      · intro other hmem htest
        obtain ⟨g, hg, rfl⟩ := (mem_flags_iff hbuild).mp hmem
        rw [hsorted] at htest
        exact hgreatest f g hlast hg htest
  | none =>
      rw [Option.map_none, Option.eq_none_iff_forall_ne_some]
      intro f hf
      obtain ⟨g, hg, rfl⟩ := (mem_flags_iff hbuild).mp (Flag.mem_of_last?_eq_some hf)
      have htest := Flag.test_of_last?_eq_some hf
      rw [hsorted] at htest
      obtain ⟨f, hf⟩ := Flag.exists_last?_eq_some (Flag.mem_of_last?_eq_some hg) htest
      rw [hlast] at hf
      cases hf

theorem exists_build_flags_eq_ok (hbuild : (build flags generation).2 = .ok s)
    (generation' : Nat) : ∃ s', (build s.flags generation').2 = .ok s' := by
  rw [exists_build_eq_ok_iff]
  intro f hf
  obtain ⟨g, hlast, rfl⟩ := (mem_flags_iff hbuild).mp hf
  rw [PreparedFlag.prepare_sorted]
  exact exists_prepare_of_build_eq_ok hbuild (Flag.mem_of_last?_eq_some hlast)

end Flags

section Rebuild

variable {flags : List Flag} {generation generation' : Nat} {s s' : Snapshot}

theorem lookup_eq_of_last?_eq {found found' : Option PreparedFlag} {test : Flag → Bool}
    {flags' : List Flag}
    (hfound : ∀ p, found = some p ↔
      ∃ f, Flag.last? test flags = some f ∧ PreparedFlag.prepare f = .ok p)
    (hfound' : ∀ p, found' = some p ↔
      ∃ f, Flag.last? test flags' = some f ∧ PreparedFlag.prepare f = .ok p)
    (hlast : Flag.last? test flags' = (Flag.last? test flags).map Flag.sorted) :
    found' = found := by
  apply Option.ext
  intro p
  rw [hfound, hfound', hlast]
  cases Flag.last? test flags with
  | none => simp
  | some f => simp

theorem get?_id_build_flags (hbuild : (build flags generation).2 = .ok s)
    (hbuild' : (build s.flags generation').2 = .ok s') (id : Id) :
    s'.get? (.id id) = s.get? (.id id) := by
  have hid : ∀ {f}, Flag.last? (·.id == id) flags = some f → f.id = id := fun hlast =>
    eq_of_beq (Flag.test_of_last?_eq_some hlast)
  refine lookup_eq_of_last?_eq (fun _ => get?_id_eq_some_iff hbuild id)
    (fun _ => get?_id_eq_some_iff hbuild' id) (last?_flags hbuild (fun _ => rfl) ?_ ?_)
  · intro f hlast
    rwa [hid hlast]
  · intro f other hlast _ hother
    rw [hid hlast, eq_of_beq hother]
    exact UInt64.le_refl id

theorem get?_key_build_flags (hbuild : (build flags generation).2 = .ok s)
    (hbuild' : (build s.flags generation').2 = .ok s') (hcurrent : Flag.Current flags)
    (horder : Flag.KeysInOrder flags) (key : String) :
    s'.get? (.key key) = s.get? (.key key) :=
  lookup_eq_of_last?_eq (fun _ => get?_key_eq_some_iff hbuild key)
    (fun _ => get?_key_eq_some_iff hbuild' key)
    (last?_flags hbuild (fun _ => rfl) (hcurrent.key key) (horder key))

theorem tagged_build_flags (hbuild : (build flags generation).2 = .ok s)
    (hbuild' : (build s.flags generation').2 = .ok s') (hcurrent : Flag.Current flags)
    (tag : String) (id : Id) : (s'.tagged tag)[id]? = (s.tagged tag)[id]? := by
  have hid : ∀ {f : Flag}, (f.id == id && f.carries tag) → f.id = id := fun htest =>
    eq_of_beq (Bool.and_eq_true_iff.mp htest).1
  refine lookup_eq_of_last?_eq (fun _ => tagged_eq_some_iff hbuild tag id)
    (fun _ => tagged_eq_some_iff hbuild' tag id) (last?_flags hbuild (fun _ => rfl) ?_ ?_)
  · intro f hlast
    rw [hid (Flag.test_of_last?_eq_some hlast)]
    exact hcurrent.tag tag id f hlast
  · intro f other hlast _ hother
    rw [hid (Flag.test_of_last?_eq_some hlast), hid hother]
    exact UInt64.le_refl id

theorem alike_of_current (hbuild : (build flags generation).2 = .ok s)
    (hbuild' : (build s.flags generation').2 = .ok s') (hcurrent : Flag.Current flags)
    (horder : Flag.KeysInOrder flags) : s.Alike s' := by
  have hget : ∀ ref, s'.get? ref = s.get? ref := by
    intro ref
    cases ref with
    | id id => exact get?_id_build_flags hbuild hbuild' id
    | key key => exact get?_key_build_flags hbuild hbuild' hcurrent horder key
  refine ⟨?_, ?_, ?_⟩
  · intro ref
    rw [hget]
  · intro tags op
    rw [getByTags_congr (tagged_build_flags hbuild hbuild' hcurrent)]
  · intro c
    simp only [evaluate, hget]

theorem prepare_flag_of_get? (hbuild : (build flags generation).2 = .ok s) {ref : FlagRef}
    {p : PreparedFlag} (hp : s.get? ref = some p) : PreparedFlag.prepare p.flag = .ok p := by
  cases ref with
  | id id =>
      obtain ⟨f, -, hprepare⟩ := (get?_id_eq_some_iff hbuild id).mp hp
      exact PreparedFlag.prepare_flag hprepare
  | key key =>
      obtain ⟨f, -, hprepare⟩ := (get?_key_eq_some_iff hbuild key).mp hp
      exact PreparedFlag.prepare_flag hprepare

theorem prepare_flag_of_mem_getByTags (hbuild : (build flags generation).2 = .ok s)
    {tags : List String} {op : TagOperator} {p : PreparedFlag} (hp : p ∈ s.getByTags tags op) :
    PreparedFlag.prepare p.flag = .ok p := by
  obtain ⟨tag, -, id, hfound, -⟩ := s.exists_tagged_of_mem_getByTags hp
  obtain ⟨f, -, hprepare⟩ := (tagged_eq_some_iff hbuild tag id).mp hfound
  exact PreparedFlag.prepare_flag hprepare

theorem eq_of_flag_eq {p p' : PreparedFlag} (hp : PreparedFlag.prepare p.flag = .ok p)
    (hp' : PreparedFlag.prepare p'.flag = .ok p') (hflag : p.flag = p'.flag) : p = p' := by
  rw [hflag, hp'] at hp
  exact (Except.ok.inj hp).symm

theorem agrees_of_alike (hbuild : (build flags generation).2 = .ok s)
    (hbuild' : (build s.flags generation').2 = .ok s') (halike : s.Alike s') : s.Agrees := by
  have hagrees : s'.Agrees :=
    agrees_of_current hbuild' (Flag.current_of_nodup (nodup_map_id_flags hbuild))
  refine ⟨?_, ?_⟩
  · intro key p hp
    obtain ⟨p', hp', hflag⟩ := halike.exists_get?_eq_some hp
    obtain rfl := eq_of_flag_eq (prepare_flag_of_get? hbuild' hp')
      (prepare_flag_of_get? hbuild hp) hflag
    rw [← get?_id_build_flags hbuild hbuild']
    exact hagrees.key key p' hp'
  · intro tags op p hp
    have hmem := List.mem_map_of_mem (f := PreparedFlag.flag) hp
    rw [halike.getByTags, List.mem_map] at hmem
    obtain ⟨p', hp', hflag⟩ := hmem
    obtain rfl := eq_of_flag_eq (prepare_flag_of_mem_getByTags hbuild' hp')
      (prepare_flag_of_mem_getByTags hbuild hp) hflag
    rw [← get?_id_build_flags hbuild hbuild']
    exact hagrees.tags tags op p' hp'

theorem keysInOrder_of_alike (hbuild : (build flags generation).2 = .ok s)
    (hbuild' : (build s.flags generation').2 = .ok s') (halike : s.Alike s') :
    Flag.KeysInOrder flags := by
  intro key f other hlast hother hkey
  obtain ⟨p, hprepare⟩ :=
    exists_prepare_of_build_eq_ok hbuild (Flag.mem_of_last?_eq_some hlast)
  have hp := (get?_key_eq_some_iff hbuild key).mpr ⟨f, hlast, hprepare⟩
  obtain ⟨p', hp', hflag⟩ := halike.exists_get?_eq_some hp
  obtain ⟨f', hlast', hprepare'⟩ := (get?_key_eq_some_iff hbuild' key).mp hp'
  have hid : f'.id = f.id := by
    calc
      f'.id = p'.flag.id := (PreparedFlag.flag_id_of_prepare hprepare').symm
      _ = p.flag.id := congrArg Flag.id hflag
      _ = f.id := PreparedFlag.flag_id_of_prepare hprepare
  -- the rebuilt snapshot gives a key to its flag of the greatest number
  have hgreatest :=
    ((Flag.last?_eq_some_iff_of_pairwise (flags_pairwise hbuild)).mp hlast').2.2
  rw [← hid]
  exact hgreatest other.sorted ((mem_flags_iff hbuild).mpr ⟨other, hother, rfl⟩) hkey

/-- The flags of a snapshot always build again. What they build answers as the snapshot
does just if the last flag of each key or tag is the last one of its number, and no other
flag of the key has a greater number. -/
theorem exists_build_flags_alike_iff (hbuild : (build flags generation).2 = .ok s)
    (generation' : Nat) :
    ∃ s', (build s.flags generation').2 = .ok s' ∧
      (s.Alike s' ↔ Flag.Current flags ∧ Flag.KeysInOrder flags) := by
  obtain ⟨s', hbuild'⟩ := exists_build_flags_eq_ok hbuild generation'
  refine ⟨s', hbuild', ?_, ?_⟩
  · intro halike
    exact ⟨current_of_agrees hbuild (agrees_of_alike hbuild hbuild' halike),
      keysInOrder_of_alike hbuild hbuild' halike⟩
  · rintro ⟨hcurrent, horder⟩
    exact alike_of_current hbuild hbuild' hcurrent horder

end Rebuild

end Snapshot

namespace Snapshot

theorem alike_of_reversed :
    ∃ s s', (build [.plain 2 "b" [], .plain 1 "a" []] 1).2 = .ok s ∧
      (build s.flags 2).2 = .ok s' ∧ s.Alike s' := by
  obtain ⟨s, hbuild⟩ : ∃ s, (build [.plain 2 "b" [], .plain 1 "a" []] 1).2 = .ok s := by
    simp [exists_build_eq_ok_iff]
  obtain ⟨s', hbuild', hiff⟩ := exists_build_flags_alike_iff hbuild 2
  exact ⟨s, s', hbuild, hbuild', hiff.mpr ⟨Flag.current_of_nodup (by decide),
    Flag.keysInOrder_of_nodup (by decide)⟩⟩

theorem not_forall_alike :
    ¬ ∀ flags generation s, (build flags generation).2 = .ok s → ∀ generation',
      ∃ s', (build s.flags generation').2 = .ok s' ∧ s.Alike s' := by
  intro h
  obtain ⟨s, hbuild⟩ : ∃ s, (build [.plain 2 "k" [], .plain 1 "k" []] 1).2 = .ok s := by
    simp [exists_build_eq_ok_iff]
  obtain ⟨s', hbuild', halike⟩ := h _ _ s hbuild 2
  have hle : (2 : Id) ≤ 1 := keysInOrder_of_alike hbuild hbuild' halike "k"
    (.plain 1 "k" []) (.plain 2 "k" []) rfl rfl rfl
  exact absurd hle (by decide)

end Snapshot

end FeatureFlags
