import FeatureFlags.Proofs.Flag.Last
import FeatureFlags.Proofs.Flag.Preparation
import FeatureFlags.Proofs.Pairing
import FeatureFlags.Snapshot
import Std.Data.TreeMap.Lemmas

namespace FeatureFlags

theorem values_eq_map_toList {α β : Type} [Ord α] (m : Std.TreeMap α β) :
    m.values = m.toList.map Prod.snd := by
  calc
    m.values = m.foldr (fun _ b bs => b :: bs) [] := rfl
    _ = m.toList.foldr (fun ab bs => ab.2 :: bs) [] := Std.TreeMap.foldr_eq_foldr_toList
    _ = m.toList.map Prod.snd := List.foldr_cons_eq_append.trans (by simp)

theorem length_values {α β : Type} [Ord α] [Std.TransOrd α] (m : Std.TreeMap α β) :
    m.values.length = m.size := by
  rw [values_eq_map_toList, List.length_map, Std.TreeMap.length_toList]

theorem mem_values_iff {α β : Type} [Ord α] [Std.TransOrd α] [Std.LawfulEqOrd α]
    {m : Std.TreeMap α β} {b : β} : b ∈ m.values ↔ ∃ a : α, m[a]? = some b := by
  rw [values_eq_map_toList, List.mem_map]
  constructor
  · rintro ⟨⟨a, b⟩, hab, rfl⟩
    exact ⟨a, Std.TreeMap.mem_toList_iff_getElem?_eq_some.mp hab⟩
  · rintro ⟨a, ha⟩
    exact ⟨(a, b), Std.TreeMap.mem_toList_iff_getElem?_eq_some.mpr ha, rfl⟩

theorem FlagIndex.values_pairwise {m : FlagIndex}
    (hid : ∀ (id : Id) p, m[id]? = some p → p.flag.id = id) :
    m.values.Pairwise fun p q => p.flag.id < q.flag.id := by
  have hids : m.values.map (·.flag.id) = m.keys := by
    rw [values_eq_map_toList, List.map_map, ← Std.TreeMap.map_fst_toList_eq_keys]
    refine List.map_congr_left fun entry hentry => ?_
    exact hid _ _ (Std.TreeMap.mem_toList_iff_getElem?_eq_some.mp hentry)
  rw [← List.pairwise_map (f := fun p : PreparedFlag => p.flag.id), hids]
  exact m.ordered_keys.imp Std.compare_eq_lt.mp

namespace Snapshot

theorem size_eq_length_flags (s : Snapshot) : s.size = s.flags.length := by
  rw [size, flags, List.length_map, length_values]

section Insert

variable (s : Snapshot) (p : PreparedFlag)

theorem byId_insert (id : Id) :
    (s.insert p).byId[id]? = if p.flag.id == id then some p else s.byId[id]? := by
  simp [insert, Std.TreeMap.getElem?_insert]

theorem byKey_insert (key : String) :
    (s.insert p).byKey[key]? = if p.flag.hasKey key then some p else s.byKey[key]? := by
  by_cases hempty : p.flag.key.isEmpty
  · simp [insert, Flag.hasKey, hempty]
  · simp [insert, Flag.hasKey, hempty, Std.TreeMap.getElem?_insert]

theorem getElem?_foldl_addTag (tags : List Tag) (index : Std.TreeMap String FlagIndex)
    (tag : String) (id : Id) :
    ((tags.foldl (addTag p) index)[tag]?.getD ∅)[id]? =
      if p.flag.id == id && tags.any (·.value == tag) then some p
      else (index[tag]?.getD ∅)[id]? := by
  induction tags generalizing index with
  | nil => simp
  | cons first rest ih =>
      rw [List.foldl_cons, ih, List.any_cons]
      by_cases htag : first.value = tag
      · by_cases hid : p.flag.id = id
        · simp [addTag, htag, hid]
        · simp [addTag, htag, hid, Std.TreeMap.getElem?_insert]
      · simp [addTag, htag, Std.TreeMap.getElem?_insert]

theorem tagged_insert (tag : String) (id : Id) :
    ((s.insert p).tagged tag)[id]? =
      if p.flag.id == id && p.flag.carries tag then some p else (s.tagged tag)[id]? :=
  getElem?_foldl_addTag p p.flag.tags s.byTag tag id

theorem lookup_foldl_insert {lookup : Snapshot → Option PreparedFlag} {test : Flag → Bool}
    (hinsert : ∀ s p, lookup (insert s p) = if test p.flag then some p else lookup s)
    (ps : List PreparedFlag) :
    lookup (ps.foldl insert s) = (ps.reverse.find? (test ·.flag)).or (lookup s) := by
  induction ps generalizing s with
  | nil => simp
  | cons p rest ih =>
      rw [List.foldl_cons, ih, List.reverse_cons, List.find?_append, hinsert]
      by_cases htest : test p.flag
      · cases rest.reverse.find? (test ·.flag) <;> simp [htest]
      · cases rest.reverse.find? (test ·.flag) <;> simp [htest]

end Insert

variable [PatternEngine]

/-- Flags one by one with what they prepare to. -/
abbrev Prepares (flags : List Flag) (ps : List PreparedFlag) : Prop :=
  List.Forall₂ (fun f p => PreparedFlag.prepare f = .ok p) flags ps

theorem addAll_eq_ok_iff {s s' : Snapshot} {flags : List Flag} :
    (s.addAll flags).2 = .ok s' ↔ ∃ ps, Prepares flags ps ∧ s' = ps.foldl insert s := by
  induction flags generalizing s with
  | nil => simp [addAll, Prepares, eq_comm]
  | cons f rest ih =>
      rw [addAll]
      cases hprepare : PreparedFlag.prepare f with
      | error e => simp [Prepares, List.forall₂_cons_left_iff, hprepare]
      | ok p =>
          constructor
          · intro h
            obtain ⟨ps, hps, rfl⟩ := ih.mp h
            exact ⟨p :: ps, .cons hprepare hps, rfl⟩
          · rintro ⟨_ | ⟨q, ps⟩, hps, rfl⟩
            · cases hps
            · obtain ⟨hq, hrest⟩ := List.forall₂_cons.mp hps
              rw [hprepare] at hq
              cases hq
              exact ih.mpr ⟨ps, hrest, rfl⟩

theorem build_eq_ok_iff {flags : List Flag} {generation : Nat} {s : Snapshot} :
    (build flags generation).2 = .ok s ↔
      ∃ ps, Prepares flags ps ∧ s = ps.foldl insert (empty generation) :=
  addAll_eq_ok_iff

theorem Prepares.find?_reverse_eq_some_iff {flags : List Flag} {ps : List PreparedFlag}
    (h : Prepares flags ps) {test : Flag → Bool} (hsorted : ∀ f, test f.sorted = test f)
    {p : PreparedFlag} :
    ps.reverse.find? (test ·.flag) = some p ↔
      ∃ f, Flag.last? test flags = some f ∧ PreparedFlag.prepare f = .ok p := by
  have hreverse := List.forall₂_reverse_iff.mpr h
  rw [Flag.last?]
  generalize flags.reverse = fs at hreverse
  generalize ps.reverse = qs at hreverse
  induction hreverse with
  | nil => simp
  | @cons f q fs qs hprepare _ ih =>
      have htest : test q.flag = test f := by
        rw [PreparedFlag.flag_of_prepare hprepare, hsorted]
      by_cases hf : test f
      · simp [htest, hf, hprepare]
      · simp [htest, hf, ih]

section Build

variable {flags : List Flag} {generation : Nat} {s : Snapshot} {p : PreparedFlag}

theorem exists_prepare_of_build_eq_ok (hbuild : (build flags generation).2 = .ok s)
    {f : Flag} (hf : f ∈ flags) : ∃ p, PreparedFlag.prepare f = .ok p := by
  obtain ⟨ps, hps, -⟩ := build_eq_ok_iff.mp hbuild
  obtain ⟨p, -, hprepare⟩ := exists_of_mem_of_forall₂ hps.flip hf
  exact ⟨p, hprepare⟩

/-- A list makes a snapshot just if each of its flags can be prepared. -/
theorem exists_build_eq_ok_iff :
    (∃ s, (build flags generation).2 = .ok s) ↔
      ∀ f ∈ flags, ∃ p, PreparedFlag.prepare f = .ok p := by
  constructor
  · rintro ⟨s, hbuild⟩ f hf
    exact exists_prepare_of_build_eq_ok hbuild hf
  · intro h
    obtain ⟨ps, hps⟩ := exists_forall₂_of_forall h
    exact ⟨_, build_eq_ok_iff.mpr ⟨ps, hps, rfl⟩⟩

/-- A lookup in a built snapshot finds what the last flag that passes its test prepares
to. -/
theorem lookup_build_eq_some_iff (hbuild : (build flags generation).2 = .ok s)
    (lookup : Snapshot → Option PreparedFlag) (test : Flag → Bool)
    (hempty : lookup (empty generation) = none)
    (hinsert : ∀ s p, lookup (insert s p) = if test p.flag then some p else lookup s)
    (hsorted : ∀ f, test f.sorted = test f) :
    lookup s = some p ↔
      ∃ f, Flag.last? test flags = some f ∧ PreparedFlag.prepare f = .ok p := by
  obtain ⟨ps, hps, rfl⟩ := build_eq_ok_iff.mp hbuild
  rw [lookup_foldl_insert _ hinsert, hempty, Option.or_none]
  exact hps.find?_reverse_eq_some_iff hsorted

theorem get?_id_eq_some_iff (hbuild : (build flags generation).2 = .ok s) (id : Id) :
    s.get? (.id id) = some p ↔
      ∃ f, Flag.last? (·.id == id) flags = some f ∧ PreparedFlag.prepare f = .ok p :=
  lookup_build_eq_some_iff hbuild (fun s => s.byId[id]?) (·.id == id) rfl
    (fun s p => s.byId_insert p id) (fun _ => rfl)

theorem get?_key_eq_some_iff (hbuild : (build flags generation).2 = .ok s) (key : String) :
    s.get? (.key key) = some p ↔
      ∃ f, Flag.last? (Flag.hasKey key) flags = some f ∧ PreparedFlag.prepare f = .ok p :=
  lookup_build_eq_some_iff hbuild (fun s => s.byKey[key]?) (Flag.hasKey key) rfl
    (fun s p => s.byKey_insert p key) (fun _ => rfl)

theorem tagged_eq_some_iff (hbuild : (build flags generation).2 = .ok s) (tag : String)
    (id : Id) :
    (s.tagged tag)[id]? = some p ↔
      ∃ f, Flag.last? (fun f => f.id == id && f.carries tag) flags = some f ∧
        PreparedFlag.prepare f = .ok p :=
  lookup_build_eq_some_iff hbuild (fun s => (s.tagged tag)[id]?)
    (fun f => f.id == id && f.carries tag) rfl (fun s p => s.tagged_insert p tag id) (fun _ => rfl)

end Build

end Snapshot

end FeatureFlags
