import FeatureFlags.Json.Record
import FeatureFlags.Proofs.Json.Scanning
import Mathlib.Data.List.Induction
import Mathlib.Data.String.Basic

namespace FeatureFlags

theorem mapM_map_eq_ite {α β : Type} {f : α → β} {g : β → Option α} {p : α → Prop}
    [DecidablePred p] {xs : List α} (h : ∀ x ∈ xs, g (f x) = if p x then some x else none) :
    (xs.map f).mapM g = if ∀ x ∈ xs, p x then some xs else none := by
  induction xs with
  | nil => simp
  | cons x xs ih =>
      obtain ⟨hx, hxs⟩ := List.forall_mem_cons.mp h
      rw [List.map_cons, List.mapM_cons, hx, ih hxs]
      by_cases hp : p x
      · by_cases hps : ∀ x ∈ xs, p x
        · rw [if_pos hp, if_pos hps, if_pos (List.forall_mem_cons.mpr ⟨hp, hps⟩)]
          rfl
        · rw [if_pos hp, if_neg hps, if_neg fun h => hps (List.forall_mem_cons.mp h).2]
          rfl
      · rw [if_neg hp, if_neg fun h => hp (List.forall_mem_cons.mp h).1]
        rfl

namespace Attributes

variable {key : String} {value : Json} {attributes : Attributes} {m : String × Json}

theorem mem_insert (h : m ∈ insert key value attributes) : m = (key, value) ∨ m ∈ attributes := by
  induction attributes with
  | nil => exact .inl (List.mem_singleton.mp h)
  | cons first rest ih =>
      unfold insert at h
      split at h
      · exact List.mem_cons.mp h
      · split at h
        · rcases List.mem_cons.mp h with h | h
          · exact .inl h
          · exact .inr (List.mem_cons_of_mem _ h)
        · rcases List.mem_cons.mp h with h | h
          · exact .inr (h ▸ List.mem_cons_self)
          · exact (ih h).imp_right (List.mem_cons_of_mem _)

theorem pairwise_insert (h : attributes.Pairwise fun a b => a.1 < b.1) :
    (insert key value attributes).Pairwise fun a b => a.1 < b.1 := by
  induction attributes with
  | nil => exact List.pairwise_singleton _ _
  | cons first rest ih =>
      obtain ⟨hfirst, hrest⟩ := List.pairwise_cons.mp h
      unfold insert
      split
      · next hless =>
          refine List.pairwise_cons.mpr ⟨?_, h⟩
          intro b hb
          rcases List.mem_cons.mp hb with rfl | hb
          · exact hless
          · exact hless.trans (hfirst b hb)
      · next hnot =>
          split
          · next hsame =>
              refine List.pairwise_cons.mpr ⟨?_, hrest⟩
              simpa [hsame] using hfirst
          · next hne =>
              refine List.pairwise_cons.mpr ⟨?_, ih hrest⟩
              intro b hb
              rcases mem_insert hb with rfl | hb
              · exact lt_of_le_of_ne (not_lt.mp hnot) (Ne.symm hne)
              · exact hfirst b hb

theorem insert_of_forall_lt (h : ∀ m ∈ attributes, m.1 < key) :
    insert key value attributes = attributes ++ [(key, value)] := by
  induction attributes with
  | nil => rfl
  | cons first rest ih =>
      obtain ⟨hfirst, hrest⟩ := List.forall_mem_cons.mp h
      unfold insert
      rw [if_neg (lt_asymm hfirst), if_neg hfirst.ne', ih hrest]
      rfl

@[simp]
theorem ofList_snoc (members : List (String × Json)) (m : String × Json) :
    ofList (members ++ [m]) = insert m.1 m.2 (ofList members) := by
  simp [ofList]

theorem mem_ofList {members : List (String × Json)} (h : m ∈ ofList members) : m ∈ members := by
  induction members using List.reverseRecOn with
  | nil => cases h
  | append_singleton members last ih =>
      rw [ofList_snoc] at h
      rcases mem_insert h with rfl | h
      · exact List.mem_append_right _ (List.mem_singleton_self _)
      · exact List.mem_append_left _ (ih h)

theorem pairwise_ofList (members : List (String × Json)) :
    (ofList members).Pairwise fun a b => a.1 < b.1 := by
  induction members using List.reverseRecOn with
  | nil => exact .nil
  | append_singleton members last ih =>
      rw [ofList_snoc]
      exact pairwise_insert ih

theorem ofList_of_pairwise {members : List (String × Json)}
    (h : members.Pairwise fun a b => a.1 < b.1) : ofList members = members := by
  induction members using List.reverseRecOn with
  | nil => rfl
  | append_singleton members last ih =>
      obtain ⟨hinit, -, hlast⟩ := List.pairwise_append.mp h
      rw [ofList_snoc, ih hinit]
      exact insert_of_forall_lt fun m hm => hlast m hm last (List.mem_singleton_self _)

end Attributes

namespace Json

mutual

/-- The number of containers around the innermost part of a value. -/
def nesting : Json → Nat
  | .array items => itemsNesting items + 1
  | .object members => membersNesting members + 1
  | _ => 0

def itemsNesting : List Json → Nat
  | [] => 0
  | item :: items => max item.nesting (itemsNesting items)

def membersNesting : List (String × Json) → Nat
  | [] => 0
  | (_, value) :: members => max value.nesting (membersNesting members)

end

theorem nesting_array_le_iff {items : List Json} {room : Nat} :
    (array items).nesting ≤ room + 1 ↔ ∀ item ∈ items, item.nesting ≤ room := by
  have hitems : itemsNesting items ≤ room ↔ ∀ item ∈ items, item.nesting ≤ room := by
    induction items with
    | nil => simp [itemsNesting]
    | cons item items ih => rw [itemsNesting, Nat.max_le, ih, List.forall_mem_cons]
  rw [nesting, Nat.succ_le_succ_iff, hitems]

theorem nesting_object_le_iff {members : List (String × Json)} {room : Nat} :
    (object members).nesting ≤ room + 1 ↔ ∀ m ∈ members, m.2.nesting ≤ room := by
  have hmembers : membersNesting members ≤ room ↔ ∀ m ∈ members, m.2.nesting ≤ room := by
    induction members with
    | nil => simp [membersNesting]
    | cons m members ih => rw [membersNesting, Nat.max_le, ih, List.forall_mem_cons]
  rw [nesting, Nat.succ_le_succ_iff, hmembers]

/-- A value as it is kept: numbers with a property, and members in order of their names. -/
inductive Kept (p : Numeric → Prop) : Json → Prop
  | null : Kept p .null
  | bool (b : Bool) : Kept p (.bool b)
  | number {n : Numeric} (hn : p n) : Kept p (.number n)
  | string (s : String) : Kept p (.string s)
  | array {items : List Json} (hitems : ∀ item ∈ items, Kept p item) : Kept p (.array items)
  | object {members : List (String × Json)} (hnames : members.Pairwise fun a b => a.1 < b.1)
      (hmembers : ∀ m ∈ members, Kept p m.2) : Kept p (.object members)

inductive HasNumber (n : Numeric) : Json → Prop
  | number : HasNumber n (.number n)
  | item {items : List Json} {item : Json} (hitem : item ∈ items) (h : HasNumber n item) :
      HasNumber n (.array items)
  | member {members : List (String × Json)} {m : String × Json} (hm : m ∈ members)
      (h : HasNumber n m.2) : HasNumber n (.object members)

theorem Kept.imp {p q : Numeric → Prop} {j : Json} (h : j.Kept p)
    (himp : ∀ n, j.HasNumber n → p n → q n) : j.Kept q := by
  induction h with
  | null => exact .null
  | bool b => exact .bool b
  | number hn => exact .number (himp _ .number hn)
  | string s => exact .string s
  | array hitems ih =>
      exact .array fun item hitem => ih item hitem fun n hn => himp n (.item hitem hn)
  | object hnames hmembers ih =>
      exact .object hnames fun m hm => ih m hm fun n hn => himp n (.member hm hn)

end Json

namespace Document

theorem itemsToJson?_eq_mapM (room : Nat) (items : List Document) :
    itemsToJson? room items = items.mapM (toJson? room) := by
  induction items with
  | nil => rfl
  | cons item items ih => simp [itemsToJson?, ih]

theorem membersToJson?_eq_mapM (room : Nat) (members : List (StringText × Document)) :
    membersToJson? room members = members.mapM fun m => m.1.bind fun name =>
      (toJson? room m.2).map fun value => (name, value) := by
  induction members with
  | nil => rfl
  | cons m members ih =>
      obtain ⟨key, value⟩ := m
      cases key with
      | none => rfl
      | some name =>
          cases hvalue : toJson? room value <;> simp [membersToJson?, ih, hvalue]

/-- A kept value whose numbers read back is read as itself just if there is room for its
containers. -/
theorem toJson?_toDocument {j : Json} (h : j.Kept Json.Numeric.ReadsBack) (room : Nat) :
    toJson? room j.toDocument = if j.nesting ≤ room then some j else none := by
  -- each container leaves less room for what is in it, so the room is any
  induction h generalizing room with
  | null => rfl
  | bool b => rfl
  | number hn =>
      rw [Json.toDocument, toJson?, Json.Numeric.numeric?_numeral hn]
      rfl
  | string s => rfl
  | @array items hitems ih =>
      cases room with
      | zero => simp [Json.toDocument, toJson?, Json.nesting]
      | succ room =>
          have hread : itemsToJson? room (Json.itemsToDocument items) =
              if ∀ item ∈ items, item.nesting ≤ room then some items else none := by
            rw [itemsToJson?_eq_mapM, Json.itemsToDocument_eq_map]
            exact mapM_map_eq_ite fun item hitem => ih item hitem room
          simp only [Json.toDocument, toJson?, hread, Json.nesting_array_le_iff]
          split <;> rfl
  | @object members hnames hmembers ih =>
      cases room with
      | zero => simp [Json.toDocument, toJson?, Json.nesting]
      | succ room =>
          have hread : membersToJson? room (Json.membersToDocument members) =
              if ∀ m ∈ members, m.2.nesting ≤ room then some members else none := by
            rw [membersToJson?_eq_mapM, Json.membersToDocument_eq_map]
            apply mapM_map_eq_ite
            intro m hm
            rw [Option.bind_some, ih m hm room]
            split <;> rfl
          simp only [Json.toDocument, toJson?, hread, Json.nesting_object_le_iff]
          split
          · rw [Option.map_some, Attributes.ofList_of_pairwise hnames]
          · rfl

theorem bounded_of_numeric? {n : Numeral} {k : Json.Numeric} (h : n.numeric? = some k) :
    k.Bounded := by
  have hreal : ∀ {k}, n.real?.map Json.Numeric.real = some k → k.Bounded := by
    intro k hk
    obtain ⟨x, -, rfl⟩ := Option.map_eq_some_iff.mp hk
    trivial
  simp only [Numeral.numeric?] at h
  split at h
  · split at h
    · next hsmall =>
        cases h
        simp only [Bool.and_eq_true, decide_eq_true_eq] at hsmall
        exact ⟨by simp only [Nat.pow_eq]; omega, by exact_mod_cast hsmall.2⟩
    · split at h
      · next hnegative =>
          cases h
          simp only [Bool.and_eq_true, decide_eq_true_eq] at hnegative
          obtain ⟨⟨-, hpos⟩, hle⟩ := hnegative
          exact ⟨by omega, by omega⟩
      · exact hreal h
  · exact hreal h

mutual

theorem kept_of_toJson? (d : Document) {room : Nat} {j : Json} (h : toJson? room d = some j) :
    j.Kept Json.Numeric.Bounded := by
  match d, room with
  | .null, _ =>
      cases h
      exact .null
  | .bool b, _ =>
      cases h
      exact .bool b
  | .number n, _ =>
      obtain ⟨k, hk, rfl⟩ := Option.map_eq_some_iff.mp h
      exact .number (bounded_of_numeric? hk)
  | .string s, _ =>
      obtain ⟨text, -, rfl⟩ := Option.map_eq_some_iff.mp h
      exact .string text
  | .array items, 0 => cases h
  | .array items, room + 1 =>
      obtain ⟨read, hread, rfl⟩ := Option.map_eq_some_iff.mp h
      exact .array (kept_of_itemsToJson? items hread)
  | .object members, 0 => cases h
  | .object members, room + 1 =>
      obtain ⟨read, hread, rfl⟩ := Option.map_eq_some_iff.mp h
      refine .object (Attributes.pairwise_ofList read) ?_
      exact fun m hm => kept_of_membersToJson? members hread m (Attributes.mem_ofList hm)

theorem kept_of_itemsToJson? (items : List Document) {room : Nat} {read : List Json}
    (h : itemsToJson? room items = some read) : ∀ j ∈ read, j.Kept Json.Numeric.Bounded := by
  match items with
  | [] =>
      cases h
      simp
  | item :: items =>
      obtain ⟨first, hfirst, h⟩ := Option.bind_eq_some_iff.mp h
      obtain ⟨rest, hrest, h⟩ := Option.bind_eq_some_iff.mp h
      cases h
      exact List.forall_mem_cons.mpr
        ⟨kept_of_toJson? item hfirst, kept_of_itemsToJson? items hrest⟩

theorem kept_of_membersToJson? (members : List (StringText × Document)) {room : Nat}
    {read : List (String × Json)} (h : membersToJson? room members = some read) :
    ∀ m ∈ read, m.2.Kept Json.Numeric.Bounded := by
  match members with
  | [] =>
      cases h
      simp
  | (key, value) :: members =>
      obtain ⟨name, -, h⟩ := Option.bind_eq_some_iff.mp h
      obtain ⟨first, hfirst, h⟩ := Option.bind_eq_some_iff.mp h
      obtain ⟨rest, hrest, h⟩ := Option.bind_eq_some_iff.mp h
      cases h
      exact List.forall_mem_cons.mpr
        ⟨kept_of_toJson? value hfirst, kept_of_membersToJson? members hrest⟩

end

theorem Reader.attributes_eq_some_iff {room : Nat} {d : Document} {members : Attributes} :
    Reader.attributes room d = some members ↔ toJson? room d = some (.object members) := by
  cases d with
  | object | array => cases room <;> simp [attributes, toJson?]
  | _ => simp [attributes, toJson?]

end Document

/-- What is written for a double is read as the double. -/
def Number.ReadsBack (x : Number) : Prop :=
  Document.parseJson? (String.ofList x.json) = some (.number (.real x))

theorem Number.readsBack_iff {x : Number} :
    x.ReadsBack ↔ (Json.Numeric.real x).ReadsBack := by
  have hparse : Document.parse? (String.ofList x.json) =
      some (Json.number (.real x)).toDocument :=
    Json.parse?_compact (.number (.real x))
  have hread : Document.parseJson? (String.ofList x.json) =
      x.numeral.real?.map fun y => .number (.real y) := by
    rw [Document.parseJson?, hparse, Option.bind_eq_bind, Option.bind_some, Json.toDocument,
      Document.toJson?, Json.Numeric.numeral, x.numeric?_numeral, Option.map_map]
    rfl
  rw [ReadsBack, hread, Json.Numeric.ReadsBack]
  simp

theorem Json.Kept.readsBack {j : Json} (h : j.Kept Numeric.Bounded)
    (hdoubles : ∀ x, j.HasNumber (.real x) → x.ReadsBack) : j.Kept Numeric.ReadsBack := by
  apply h.imp
  intro n hn hbounded
  cases n with
  | integer n => exact hbounded
  | real x => exact Number.readsBack_iff.mp (hdoubles x hn)

end FeatureFlags
