import FeatureFlags.Proofs.Json.Record
import FeatureFlags.Proofs.Pairing

namespace FeatureFlags

namespace Document

theorem nesting_le_of_toJson? {room : Nat} {d : Document} {j : Json}
    (h : toJson? room d = some j) : j.nesting ≤ room := by
  -- each container takes one from the room
  induction room using Nat.strong_induction_on generalizing d j with
  | _ room ih =>
      cases d with
      | null | bool b =>
          cases h
          exact Nat.zero_le _
      | number n | string s =>
          obtain ⟨_, -, rfl⟩ := Option.map_eq_some_iff.mp h
          exact Nat.zero_le _
      | array items =>
          cases room with
          | zero => cases h
          | succ room =>
              obtain ⟨read, hread, rfl⟩ := Option.map_eq_some_iff.mp h
              rw [itemsToJson?_eq_mapM] at hread
              rw [Json.nesting_array_le_iff]
              intro item hitem
              obtain ⟨d, -, hd⟩ := exists_of_mem_mapM hread hitem
              exact ih room room.lt_succ_self hd
      | object members =>
          cases room with
          | zero => cases h
          | succ room =>
              obtain ⟨read, hread, rfl⟩ := Option.map_eq_some_iff.mp h
              rw [membersToJson?_eq_mapM] at hread
              rw [Json.nesting_object_le_iff]
              intro m hm
              obtain ⟨⟨name, d⟩, -, hd⟩ := exists_of_mem_mapM hread (Attributes.mem_ofList hm)
              obtain ⟨_, -, hd⟩ := Option.bind_eq_some_iff.mp hd
              obtain ⟨j, hj, rfl⟩ := Option.map_eq_some_iff.mp hd
              exact ih room room.lt_succ_self hj

/-- A value that is read of some document, in so much room. -/
def Reader.Yields {α : Type} (read : Reader α) (room : Nat) (a : α) : Prop :=
  ∃ d, read room d = some a

variable {α : Type} {read : Reader α} {room : Nat} {name : String}

namespace Reader

variable {names : List String} {build : Fields → Option α} {a : α}

theorem Yields.record (h : (record names build).Yields (room + 1) a) :
    ∃ f : Fields, f.room = room ∧ build f = some a := by
  obtain ⟨d, hd⟩ := h
  obtain ⟨f, hf, hbuild⟩ := Option.bind_eq_some_iff.mp hd
  refine ⟨f, ?_, hbuild⟩
  cases d with
  | array items =>
      rw [Fields.ofDocument?] at hf
      split at hf <;> cases hf
      rfl
  | object members =>
      obtain ⟨cells, -, rfl⟩ := Option.map_eq_some_iff.mp hf
      rfl
  | _ => cases hf

theorem Yields.list {xs : List α} (h : (list read).Yields (room + 1) xs) :
    ∀ x ∈ xs, read.Yields room x := by
  obtain ⟨d, hd⟩ := h
  intro x hx
  cases d with
  | array items =>
      obtain ⟨item, -, hitem⟩ := exists_of_mem_mapM hd hx
      exact ⟨item, hitem⟩
  | _ => cases hd

theorem Yields.optional {o : Option α} (h : (optional read).Yields room o) :
    ∀ a ∈ o, read.Yields room a := by
  obtain ⟨d, hd⟩ := h
  rintro a rfl
  unfold Reader.optional at hd
  split at hd
  · cases hd
  · obtain ⟨_, hread, hsome⟩ := Option.map_eq_some_iff.mp hd
    cases hsome
    exact ⟨d, hread⟩

theorem Yields.attributes {members : Attributes} (h : Reader.attributes.Yields room members) :
    (Json.object members).Kept Json.Numeric.Bounded ∧ (Json.object members).nesting ≤ room := by
  obtain ⟨d, hd⟩ := h
  rw [attributes_eq_some_iff] at hd
  exact ⟨kept_of_toJson? d hd, nesting_le_of_toJson? hd⟩

end Reader

namespace Fields

variable {f : Fields} {a default : α}

theorem yields_of_required (h : f.required name read = some a) : read.Yields f.room a := by
  obtain ⟨d, -, hread⟩ := Option.bind_eq_some_iff.mp h
  exact ⟨d, hread⟩

theorem yields_of_withDefault (h : f.withDefault name read default = some a) :
    a = default ∨ read.Yields f.room a := by
  rw [withDefault] at h
  split at h
  · exact .inr ⟨_, h⟩
  · exact .inl (Option.some.inj h).symm

/-- The fields of a record without one of them. -/
def without (f : Fields) (name : String) : Fields :=
  { f with cells := f.cells.filter fun cell => cell.1 ≠ name }

variable {other : String}

theorem find?_without (f : Fields) (name other : String) :
    (f.without name).find? other = if other = name then none else f.find? other := by
  rw [find?, without, List.find?_filter]
  split
  · next hsame =>
      rw [List.find?_eq_none.mpr]
      · rfl
      · rintro cell - hfound
        simp [hsame] at hfound
  · next hne =>
      rw [find?]
      congr 2
      funext cell
      by_cases hcell : cell.1 = other
      · simp [hcell, hne]
      · simp [hcell]

theorem required_without (hne : other ≠ name) :
    (f.without name).required other read = f.required other read := by
  rw [required, find?_without, if_neg hne]
  rfl

theorem withDefault_without (h : f.withDefault other read default = some a) (name : String) :
    (f.without name).withDefault other read default =
      some (if other = name then default else a) := by
  rw [withDefault, find?_without]
  by_cases hsame : other = name
  · rw [if_pos hsame, if_pos hsame]
  · rw [if_neg hsame, if_neg hsame, ← h]
    rfl

theorem ofMembers?_cons_eq_some_iff {names : List String} {key : String} {d : Document}
    {members : List (StringText × Document)} {cells : List (String × Document)} :
    ofMembers? names ((some key, d) :: members) = some cells ↔
      ∃ rest, ofMembers? names members = some rest ∧
        if key ∈ names then (∀ cell ∈ rest, cell.1 ≠ key) ∧ cells = (key, d) :: rest
        else cells = rest := by
  rw [ofMembers?]
  cases ofMembers? names members with
  | none => simp
  | some rest =>
      have hany : rest.any (·.1 == key) = true ↔ ¬ ∀ cell ∈ rest, cell.1 ≠ key := by
        simp
      simp only [List.contains_iff_mem, hany, Option.some.injEq, exists_eq_left']
      by_cases hkey : key ∈ names
      · rw [if_pos hkey, if_pos hkey]
        by_cases hfresh : ∀ cell ∈ rest, cell.1 ≠ key
        · rw [if_neg (not_not.mpr hfresh), Option.some.injEq, eq_comm]
          exact (and_iff_right hfresh).symm
        · rw [if_pos hfresh]
          exact iff_of_false (by simp) fun h => hfresh h.1
      · rw [if_neg hkey, if_neg hkey, Option.some.injEq, eq_comm]

theorem ofMembers?_without {names : List String} {members : List (StringText × Document)}
    {cells : List (String × Document)} (h : ofMembers? names members = some cells)
    (name : String) :
    ofMembers? names (members.filter fun m => m.1 ≠ some name) =
      some (cells.filter fun cell => cell.1 ≠ name) := by
  induction members generalizing cells with
  | nil =>
      cases h
      rfl
  | cons m members ih =>
      obtain ⟨key | key, d⟩ := m
      · cases h
      · obtain ⟨rest, hrest, hcells⟩ := ofMembers?_cons_eq_some_iff.mp h
        have hwithout := ih hrest
        by_cases hkey : key = name
        · rw [List.filter_cons_of_neg (by simp [hkey]), hwithout]
          split at hcells
          · rw [hcells.2, List.filter_cons_of_neg (by simp [hkey])]
          · rw [hcells]
        · rw [List.filter_cons_of_pos (by simp [hkey]), ofMembers?_cons_eq_some_iff]
          refine ⟨_, hwithout, ?_⟩
          split at hcells
          · next hfield =>
              obtain ⟨hfresh, rfl⟩ := hcells
              rw [if_pos hfield, List.filter_cons_of_pos (by simp [hkey])]
              exact ⟨fun cell hcell => hfresh cell (List.mem_of_mem_filter hcell), rfl⟩
          · next hother => rw [if_neg hother, hcells]

end Fields

namespace Reader

/-- A field that is taken out of an object is read as if it had never been there. -/
theorem record_without {names : List String} {build : Fields → Option α} {a : α}
    {members : List (StringText × Document)}
    (h : record names build room (.object members) = some a) (name : String) :
    ∃ f : Fields, build f = some a ∧
      record names build room (.object (members.filter fun m => m.1 ≠ some name)) =
        build (f.without name) := by
  cases room with
  | zero => cases h
  | succ room =>
      obtain ⟨f, hf, hbuild⟩ := Option.bind_eq_some_iff.mp h
      obtain ⟨cells, hcells, rfl⟩ := Option.map_eq_some_iff.mp hf
      refine ⟨_, hbuild, ?_⟩
      simp only [record, Fields.ofDocument?, Fields.ofMembers?_without hcells name]
      rfl

end Reader

end Document

end FeatureFlags
