import FeatureFlags.Proofs.Snapshot.Index

namespace FeatureFlags.Snapshot

variable (s : Snapshot)

theorem getElem?_taggedAny (tags : List String) (id : Id) :
    (s.taggedAny tags)[id]? = tags.reverse.findSome? fun tag => (s.tagged tag)[id]? := by
  have hfold : ∀ found : FlagIndex,
      (tags.foldl (fun found tag => found ∪ s.tagged tag) found)[id]? =
        (tags.reverse.findSome? fun tag => (s.tagged tag)[id]?).or found[id]? := by
    induction tags with
    | nil => simp
    | cons tag rest ih =>
        intro found
        rw [List.foldl_cons, ih, List.reverse_cons, List.findSome?_append,
          Std.TreeMap.getElem?_union]
        cases rest.reverse.findSome? fun tag => (s.tagged tag)[id]? <;> simp
  simpa [taggedAny] using hfold ∅

/-- The flag is that of the first tag; the other tags only have to hold its number. -/
theorem getElem?_taggedAll_cons (tag : String) (tags : List String) (id : Id) :
    (s.taggedAll (tag :: tags))[id]? =
      if tags.all fun other => (s.tagged other)[id]?.isSome then (s.tagged tag)[id]?
      else none := by
  have hfold : ∀ found : FlagIndex,
      (tags.foldl (fun found other => found.filter fun id _ => (s.tagged other).contains id)
        found)[id]? =
        if tags.all fun other => (s.tagged other)[id]?.isSome then found[id]? else none := by
    induction tags with
    | nil => simp
    | cons other rest ih =>
        intro found
        rw [List.foldl_cons, ih, Std.TreeMap.getElem?_filter', List.all_cons]
        simp only [Std.TreeMap.contains_eq_isSome_getElem?]
        cases (s.tagged other)[id]?.isSome <;> cases found[id]? <;> simp [Option.filter]
  exact hfold (s.tagged tag)

theorem exists_tagged_of_taggedAny {tags : List String} {id : Id} {p : PreparedFlag}
    (hp : (s.taggedAny tags)[id]? = some p) : ∃ tag ∈ tags, (s.tagged tag)[id]? = some p := by
  rw [getElem?_taggedAny] at hp
  obtain ⟨tag, htag, hfound⟩ := List.exists_of_findSome?_eq_some hp
  exact ⟨tag, List.mem_reverse.mp htag, hfound⟩

theorem exists_tagged_of_taggedAll {tags : List String} {id : Id} {p : PreparedFlag}
    (hp : (s.taggedAll tags)[id]? = some p) :
    ∃ tag ∈ tags, (s.tagged tag)[id]? = some p ∧
      ∀ other ∈ tags, (s.tagged other)[id]?.isSome := by
  cases tags with
  | nil => simp [taggedAll] at hp
  | cons tag rest =>
      rw [getElem?_taggedAll_cons] at hp
      split at hp
      case isTrue hall =>
        refine ⟨tag, by simp, hp, fun other hother => ?_⟩
        rcases List.mem_cons.mp hother with rfl | hother
        · simp [hp]
        · exact List.all_eq_true.mp hall other hother
      case isFalse => cases hp

theorem exists_tagged_of_mem_getByTags {tags : List String} {op : TagOperator}
    {p : PreparedFlag} (hp : p ∈ s.getByTags tags op) :
    ∃ tag ∈ tags, ∃ id : Id, (s.tagged tag)[id]? = some p ∧
      (op = .all → ∀ other ∈ tags, (s.tagged other)[id]?.isSome) := by
  cases op with
  | any =>
      obtain ⟨id, hid⟩ := mem_values_iff.mp hp
      obtain ⟨tag, htag, hfound⟩ := s.exists_tagged_of_taggedAny hid
      exact ⟨tag, htag, id, hfound, nofun⟩
  | all =>
      obtain ⟨id, hid⟩ := mem_values_iff.mp hp
      obtain ⟨tag, htag, hfound, hall⟩ := s.exists_tagged_of_taggedAll hid
      exact ⟨tag, htag, id, hfound, fun _ => hall⟩

@[simp]
theorem getByTags_nil (op : TagOperator) : s.getByTags [] op = [] := by
  cases op <;> rfl

theorem mem_getByTags_any {tags : List String} {tag : String} {id : Id} {p : PreparedFlag}
    (htag : tag ∈ tags) (hp : (s.tagged tag)[id]? = some p)
    (hsame : ∀ other ∈ tags, ∀ q, (s.tagged other)[id]? = some q → q = p) :
    p ∈ s.getByTags tags .any := by
  have hsome : ((s.taggedAny tags)[id]?).isSome := by
    rw [getElem?_taggedAny, List.findSome?_isSome_iff]
    exact ⟨tag, List.mem_reverse.mpr htag, by simp [hp]⟩
  obtain ⟨q, hq⟩ := Option.isSome_iff_exists.mp hsome
  obtain ⟨other, hother, hfound⟩ := s.exists_tagged_of_taggedAny hq
  rw [hsame other hother q hfound] at hq
  exact mem_values_iff.mpr ⟨id, hq⟩

theorem mem_getByTags_all {tags : List String} {id : Id} {p : PreparedFlag} (hne : tags ≠ [])
    (hp : ∀ tag ∈ tags, (s.tagged tag)[id]? = some p) : p ∈ s.getByTags tags .all := by
  obtain ⟨tag, rest, rfl⟩ := List.exists_cons_of_ne_nil hne
  obtain ⟨htag, hrest⟩ := List.forall_mem_cons.mp hp
  have hall : (rest.all fun other => (s.tagged other)[id]?.isSome) = true :=
    List.all_eq_true.mpr fun other hother => by simp [hrest other hother]
  refine mem_values_iff.mpr ⟨id, ?_⟩
  rw [getElem?_taggedAll_cons, if_pos hall]
  exact htag

theorem mem_getByTags_singleton {tag : String} {id : Id} {p : PreparedFlag}
    (hp : (s.tagged tag)[id]? = some p) (op : TagOperator) : p ∈ s.getByTags [tag] op := by
  cases op with
  | any => exact s.mem_getByTags_any (List.mem_singleton_self tag) hp (by simp [hp])
  | all =>
      have hall : ∀ other ∈ [tag], (s.tagged other)[id]? = some p := by simpa using hp
      exact s.mem_getByTags_all (List.cons_ne_nil tag []) hall

theorem getByTags_congr {s s' : Snapshot}
    (htagged : ∀ (tag : String) (id : Id), (s.tagged tag)[id]? = (s'.tagged tag)[id]?)
    (tags : List String) (op : TagOperator) : s.getByTags tags op = s'.getByTags tags op := by
  cases op with
  | any =>
      apply Std.TreeMap.Equiv.values_eq
      apply Std.TreeMap.Equiv.of_forall_constGet?_eq
      intro id
      simp only [getElem?_taggedAny, htagged]
  | all =>
      cases tags with
      | nil => rfl
      | cons tag rest =>
          apply Std.TreeMap.Equiv.values_eq
          apply Std.TreeMap.Equiv.of_forall_constGet?_eq
          intro id
          simp only [getElem?_taggedAll_cons, htagged]

section Build

variable {s} {flags : List Flag} {generation : Nat} {p : PreparedFlag}

variable [PatternEngine]

theorem id_of_tagged (hbuild : (build flags generation).2 = .ok s) {tag : String} {id : Id}
    (hp : (s.tagged tag)[id]? = some p) : p.flag.id = id ∧ (s.get? (.id id)).isSome := by
  obtain ⟨f, hlast, hprepare⟩ := (tagged_eq_some_iff hbuild tag id).mp hp
  obtain ⟨hid, -⟩ := Bool.and_eq_true_iff.mp (Flag.test_of_last?_eq_some hlast)
  obtain ⟨g, hg⟩ : ∃ g, Flag.last? (·.id == id) flags = some g :=
    Flag.exists_last?_eq_some (Flag.mem_of_last?_eq_some hlast) hid
  obtain ⟨q, hq⟩ := exists_prepare_of_build_eq_ok hbuild (Flag.mem_of_last?_eq_some hg)
  rw [PreparedFlag.flag_id_of_prepare hprepare, (get?_id_eq_some_iff hbuild id).mpr ⟨g, hg, hq⟩]
  exact ⟨eq_of_beq hid, rfl⟩

theorem getByTags_pairwise (hbuild : (build flags generation).2 = .ok s) (tags : List String)
    (op : TagOperator) : (s.getByTags tags op).Pairwise fun p q => p.flag.id < q.flag.id := by
  cases op with
  | any =>
      refine FlagIndex.values_pairwise fun id p hp => ?_
      obtain ⟨tag, -, hfound⟩ := s.exists_tagged_of_taggedAny hp
      exact (id_of_tagged hbuild hfound).1
  | all =>
      refine FlagIndex.values_pairwise fun id p hp => ?_
      obtain ⟨tag, -, hfound, -⟩ := s.exists_tagged_of_taggedAll hp
      exact (id_of_tagged hbuild hfound).1

theorem isSome_get?_of_mem_getByTags (hbuild : (build flags generation).2 = .ok s)
    {tags : List String} {op : TagOperator} (hp : p ∈ s.getByTags tags op) :
    (s.get? (.id p.flag.id)).isSome := by
  obtain ⟨tag, -, id, hfound, -⟩ := s.exists_tagged_of_mem_getByTags hp
  obtain ⟨hid, hknown⟩ := id_of_tagged hbuild hfound
  rwa [hid]

end Build

end FeatureFlags.Snapshot
