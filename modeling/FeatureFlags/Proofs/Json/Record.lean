import FeatureFlags.Proofs.Json.Nesting

namespace FeatureFlags

namespace Document

namespace Fields

def written (room : Nat) (fields : List (String × Option Json)) : Fields :=
  ⟨room, false, fields.filterMap fun field => field.2.map fun value =>
    (field.1, value.toDocument)⟩

theorem ofMembers?_of_nodup {names : List String} {members : List (String × Document)}
    (hnames : ∀ m ∈ members, m.1 ∈ names) (hnodup : (members.map Prod.fst).Nodup) :
    ofMembers? names (members.map fun m => (some m.1, m.2)) = some members := by
  induction members with
  | nil => rfl
  | cons m members ih =>
      obtain ⟨hm, hmembers⟩ := List.forall_mem_cons.mp hnames
      obtain ⟨hnew, hnodup⟩ := List.nodup_cons.mp hnodup
      have hfresh : members.any (·.1 == m.1) = false := by
        rw [List.any_eq_false]
        intro b hb hsame
        exact hnew (List.mem_map.mpr ⟨b, hb, by simpa using hsame⟩)
      simp only [List.map_cons, ofMembers?, ih hmembers hnodup]
      rw [if_pos (by simpa using hm), hfresh]
      rfl

section Written

variable {α : Type} {room : Nat} {fields : List (String × Option Json)} {name : String}
  {value : Option Json}

theorem find?_cons (field : String × Option Json) (hne : field.1 ≠ name) :
    (written room (field :: fields)).find? name = (written room fields).find? name := by
  obtain ⟨key, value⟩ := field
  cases value with
  | none => rfl
  | some j => simp [find?, written, hne]

theorem find?_of_notMem (h : name ∉ fields.map Prod.fst) :
    (written room fields).find? name = none := by
  induction fields with
  | nil => rfl
  | cons field rest ih =>
      obtain ⟨hne, hrest⟩ := not_or.mp (mt List.mem_cons.mpr h)
      rw [find?_cons field (Ne.symm hne), ih hrest]

theorem names_written_sublist (room : Nat) (fields : List (String × Option Json)) :
    ((written room fields).cells.map Prod.fst).Sublist (fields.map Prod.fst) := by
  induction fields with
  | nil => exact .slnil
  | cons field rest ih =>
      obtain ⟨key, value⟩ := field
      cases value with
      | none => exact ih.cons key
      | some j => exact ih.cons_cons key

theorem find?_written (hnodup : (fields.map Prod.fst).Nodup) (h : (name, value) ∈ fields) :
    (written room fields).find? name = value.map Json.toDocument := by
  induction fields with
  | nil => cases h
  | cons field rest ih =>
      obtain ⟨hfield, hrest⟩ := List.nodup_cons.mp hnodup
      rcases List.mem_cons.mp h with rfl | hmem
      · cases value with
        | none =>
            rw [find?, written, List.filterMap_cons_none rfl]
            exact find?_of_notMem hfield
        | some j => simp [find?, written]
      · have hne : field.1 ≠ name := by
          rintro rfl
          exact hfield (List.mem_map.mpr ⟨_, hmem, rfl⟩)
        rw [find?_cons field hne, ih hrest hmem]

theorem required_written {j : Json} (hnodup : (fields.map Prod.fst).Nodup)
    (h : (name, some j) ∈ fields) (read : Reader α) :
    (written room fields).required name read = read room j.toDocument := by
  rw [required, find?_written hnodup h]
  rfl

theorem withDefault_written (hnodup : (fields.map Prod.fst).Nodup) (h : (name, value) ∈ fields)
    (read : Reader α) (default : α) :
    (written room fields).withDefault name read default =
      value.elim (some default) fun j => read room j.toDocument := by
  rw [withDefault, find?_written hnodup h]
  cases value <;> rfl

end Written

end Fields

namespace Reader

theorem record_written {α : Type} {names : List String} {build : Fields → Option α}
    {fields : List (String × Option Json)} (room : Nat) (hnames : fields.map Prod.fst = names)
    (hnodup : names.Nodup) :
    record names build (room + 1) (Json.record fields).toDocument =
      build (.written room fields) := by
  have hmembers : Json.membersToDocument (fields.filterMap fun field =>
      field.2.map (field.1, ·)) = (Fields.written room fields).cells.map fun m =>
        (some m.1, m.2) := by
    rw [Json.membersToDocument_eq_map, Fields.written, List.map_filterMap, List.map_filterMap]
    simp only [Option.map_map]
    rfl
  have hcells := hnames ▸ Fields.names_written_sublist room fields
  have hread : Fields.ofMembers? names ((Fields.written room fields).cells.map fun m =>
      (some m.1, m.2)) = some (Fields.written room fields).cells := by
    refine Fields.ofMembers?_of_nodup ?_ (hcells.nodup hnodup)
    exact fun m hm => hcells.subset (List.mem_map_of_mem hm)
  have hrecord : (Json.record fields).toDocument = .object
      ((Fields.written room fields).cells.map fun m => (some m.1, m.2)) := by
    rw [← hmembers]
    rfl
  rw [hrecord]
  simp only [record, Fields.ofDocument?, hread]
  rfl

theorem text_written (room : Nat) (s : String) :
    text room (Json.string s).toDocument = some s := rfl

theorem bool_written (room : Nat) (b : Bool) : bool room (Json.bool b).toDocument = some b := rfl

theorem natBelow_written {n bound : Nat} (h : n < bound) (room : Nat) :
    natBelow bound room (Json.nat n).toDocument = some n := by
  have hvalue : Number.digitsValue (Nat.toDigits 10 n) = n := Nat.ofDigitChars_ten_toDigits
  have hnat : (Json.Numeric.integer n).numeral.nat? = some n := by
    simp [Json.Numeric.numeral, Numeral.nat?, hvalue]
  rw [Json.nat, Json.toDocument, natBelow, hnat, Option.bind_some, if_pos h]

theorem uint64_written (room : Nat) (n : UInt64) :
    uint64 room (Json.nat n.toNat).toDocument = some n := by
  rw [uint64, natBelow_written n.toNat_lt, Option.map_some, UInt64.ofNat_toNat]

theorem uint32_written (room : Nat) (n : UInt32) :
    uint32 room (Json.nat n.toNat).toDocument = some n := by
  rw [uint32, natBelow_written n.toNat_lt, Option.map_some, UInt32.ofNat_toNat]

theorem optional_written {α : Type} {read : Reader α} {toJson : α → Json} {room : Nat}
    {o : Option α} (h : ∀ a ∈ o, read room (toJson a).toDocument = some a)
    (hnull : ∀ a, toJson a ≠ .null) :
    ((o.map toJson).elim (some none) fun j => Reader.optional read room j.toDocument) = some o := by
  cases o with
  | none => rfl
  | some a =>
      have hread := h a rfl
      have hpresent := hnull a
      rw [Option.map_some, Option.elim_some]
      generalize toJson a = j at hread hpresent
      cases j with
      | null => exact absurd rfl hpresent
      | _ =>
          simpa only [Json.toDocument, Reader.optional, Option.map_eq_some_iff,
            Option.some.injEq, exists_eq_right] using hread

theorem list_written {α : Type} {read : Reader α} {toJson : α → Json} {p : α → Prop}
    [DecidablePred p] {room : Nat} {xs : List α}
    (h : ∀ x ∈ xs, read room (toJson x).toDocument = if p x then some x else none) :
    list read (room + 1) (Json.array (xs.map toJson)).toDocument =
      if ∀ x ∈ xs, p x then some xs else none := by
  rw [Json.toDocument, Json.itemsToDocument_eq_map, List.map_map]
  exact mapM_map_eq_ite h

theorem list_written_of_read {α : Type} {read : Reader α} {toJson : α → Json} {room : Nat}
    (h : ∀ x, read room (toJson x).toDocument = some x) (xs : List α) :
    list read (room + 1) (Json.array (xs.map toJson)).toDocument = some xs := by
  have hread := @list_written α read toJson (fun _ => True) _ room xs fun x _ => by
    rw [h x, if_pos trivial]
  rw [hread, if_pos fun _ _ => trivial]

theorem attributes_written {attributes : Attributes}
    (h : (Json.object attributes).Kept Json.Numeric.ReadsBack) (room : Nat) :
    Reader.attributes room (Json.object attributes).toDocument =
      if (Json.object attributes).nesting ≤ room then some attributes else none := by
  have hread := toJson?_toDocument h room
  split
  · next hroom => exact attributes_eq_some_iff.mpr (hread.trans (if_pos hroom))
  · next hroom =>
      refine Option.eq_none_iff_forall_ne_some.mpr fun members hmembers => ?_
      rw [attributes_eq_some_iff, hread, if_neg hroom] at hmembers
      cases hmembers

end Reader

end Document

end FeatureFlags
