import Mathlib
import FeatureFlags.Pattern.Machine
import FeatureFlags.Proofs.Condition.Complement

namespace FeatureFlags

theorem Number.near_comm (x y : Number) : x.near y = y.near x := by
  unfold near distance
  rw [← Int.natAbs_neg, Int.neg_sub]

namespace Value

def isList : Value → Bool
  | texts _ | numbers _ => true
  | _ => false

/-- The elements of a list, each as a value. -/
def elements : Value → List Value
  | texts ss => ss.map text
  | numbers xs => xs.map number
  | _ => []

theorem allNear_comm (xs ys : List Number) : allNear xs ys = allNear ys xs := by
  induction xs generalizing ys with
  | nil => cases ys <;> rfl
  | cons x xs ih =>
      cases ys with
      | nil => rfl
      | cons y ys => rw [allNear, allNear, Number.near_comm, ih]

theorem looselyEquals_comm (v w : Value) : v.looselyEquals w = w.looselyEquals v := by
  cases v with
  | text s =>
      cases w with
      | text t => exact Bool.beq_comm
      | _ => rfl
  | number x =>
      cases w with
      | number y => exact Number.near_comm x y
      | _ => rfl
  | bool b =>
      cases w with
      | bool c => exact Bool.beq_comm
      | _ => rfl
  | texts ss =>
      cases w with
      | texts ts => exact Bool.beq_comm
      | _ => rfl
  | numbers xs =>
      cases w with
      | numbers ys => exact allNear_comm xs ys
      | _ => rfl

theorem isMemberOf_eq_any (v w : Value) :
    v.isMemberOf w = w.elements.any fun e => v.looselyEquals e := by
  cases w with
  | texts ss =>
      cases v with
      | text s =>
          rw [isMemberOf, List.contains_eq_any_beq, elements, List.any_map]
          rfl
      | _ => simp [isMemberOf, elements, looselyEquals]
  | numbers xs =>
      cases v with
      | number x =>
          have hcomm : (fun y : Number => y.near x) = fun y => x.near y :=
            funext fun y => Number.near_comm y x
          simp only [isMemberOf, hcomm, elements, List.any_map, Function.comp_def, looselyEquals]
      | _ => simp [isMemberOf, elements, looselyEquals]
  | _ => cases v <;> rfl

theorem contains_of_isList {v : Value} (h : v.isList) (w : Value) :
    v.contains w = w.isMemberOf v := by
  cases v with
  | texts | numbers => rfl
  | _ => cases h

theorem contains_eq_any {v : Value} (h : v.isList) (w : Value) :
    v.contains w = v.elements.any fun e => e.looselyEquals w := by
  rw [contains_of_isList h, isMemberOf_eq_any]
  simp only [looselyEquals_comm w]

theorem elements_of_ofJson? {items : List Json} {v : Value}
    (h : ofJson? (.array items) = some v) :
    List.Forall₂ (fun item e => ofJson? item = some e) items v.elements := by
  rw [ofJson?] at h
  cases hss : items.mapM Json.string? with
  | some ss =>
      rw [hss] at h
      cases h
      rw [elements, List.forall₂_map_right_iff]
      refine (mapM_eq_some_iff_forall₂.mp hss).imp fun item s hs => ?_
      cases item with
      | string t =>
          cases hs
          rfl
      | _ => cases hs
  | none =>
      rw [hss] at h
      obtain ⟨xs, hxs, rfl⟩ := Option.map_eq_some_iff.mp h
      rw [elements, List.forall₂_map_right_iff]
      refine (mapM_eq_some_iff_forall₂.mp hxs).imp fun item x hx => ?_
      cases item with
      | number n => exact Option.map_eq_some_iff.mpr ⟨x, hx, rfl⟩
      | _ => cases hx

end Value

theorem Attributes.get?_insert_self (attributes : Attributes) (key : String) (value : Json) :
    (attributes.insert key value).get? key = some value := by
  induction attributes with
  | nil => simp [insert, get?]
  | cons first rest ih =>
      unfold insert
      split
      · simp [get?]
      · split
        · simp [get?]
        · next hne =>
            have hkey : (first.1 == key) = false := beq_eq_false_iff_ne.mpr (Ne.symm hne)
            rw [get?, List.find?_cons, hkey]
            exact ih

namespace Context

variable {context : Context} {name : String} {v : Value}

theorem resolve_withAttribute {j : Json} (h : Value.ofJson? j = some v) :
    (context.withAttribute name j).resolve name = .ok v := by
  have hlookup : (context.withAttribute name j).attributes.lookup name = some j := by
    unfold Attributes.lookup
    rw [withAttribute, Attributes.get?_insert_self]
  rw [resolve, hlookup]
  dsimp only
  rw [h]

theorem exists_items_of_resolve (h : context.resolve name = .ok v) (hlist : v.isList) :
    ∃ items, context.attributes.lookup name = some (.array items) ∧
      Value.ofJson? (.array items) = some v := by
  unfold resolve at h
  split at h
  · next j hlookup =>
      split at h
      · next hj =>
          cases h
          cases j with
          | array items => exact ⟨items, hlookup, hj⟩
          | number n =>
              obtain ⟨x, -, rfl⟩ := Option.map_eq_some_iff.mp hj
              cases hlist
          | null | object => cases hj
          | bool | string =>
              cases hj
              cases hlist
      · cases h
  · split at h
    · cases h
      cases hlist
    · split at h
      · cases h
        cases hlist
      · cases h

end Context

namespace Operand

/-- Operands between brackets, with commas between them. -/
def bracketed (items : List String) : String :=
  "[" ++ ", ".intercalate items ++ "]"

def IsText (item : String) : Prop :=
  ∃ s, parse item.toList = .ok (.literal (.text s))

def IsNumber (item : String) : Prop :=
  ∃ x, parse item.toList = .ok (.literal (.number x))

theorem Items.append_blanks {α : Type} {spells : List Char → α → Prop} {cs blanks : List Char}
    {xs : List α} (hblanks : ∀ c ∈ blanks, Text.isBlank c) (h : Items spells cs xs) :
    Items spells (blanks ++ cs) xs := by
  cases h with
  | last hitem => exact .last (hitem.append_blanks hblanks)
  | more hitem hrest =>
      rw [← List.append_assoc]
      exact .more (hitem.append_blanks hblanks) hrest

theorem items_intercalate {α : Type} {spells : List Char → α → Prop} {items : List (List Char)}
    {xs : List α} (h : List.Forall₂ (Padded spells) items xs) (hne : items ≠ []) :
    Items spells ([',', ' '].intercalate items) xs := by
  induction h with
  | nil => exact absurd rfl hne
  | @cons item x rest xs hitem hrest ih =>
      cases rest with
      | nil =>
          cases hrest
          rw [List.intercalate_singleton]
          exact .last hitem
      | cons next rest =>
          have hspace : ∀ c ∈ [' '], Text.isBlank c := List.all_eq_true.mp (by decide)
          rw [List.intercalate_cons_cons, List.append_assoc]
          exact .more hitem ((ih (by simp)).append_blanks hspace)

theorem Spells.text {cs : List Char} {s : String} (h : Spells cs (.literal (.text s))) :
    SpellsText cs s := by
  cases h with
  | scalar hscalar =>
      cases hscalar with
      | text htext => exact htext

theorem Spells.number {cs : List Char} {x : Number} (h : Spells cs (.literal (.number x))) :
    SpellsNumber cs x := by
  cases h with
  | scalar hscalar =>
      cases hscalar with
      | number hnumber => exact hnumber

theorem toList_bracketed (items : List String) :
    (bracketed items).toList =
      '[' :: [',', ' '].intercalate (items.map String.toList) ++ [']'] := by
  unfold bracketed
  rw [String.toList_append, String.toList_append, String.toList_intercalate]
  rfl

theorem exists_parse_bracketed {items : List String}
    (h : (∀ item ∈ items, IsText item) ∨ ∀ item ∈ items, IsNumber item) :
    ∃ w : Value, w.isList ∧ parse (bracketed items).toList = .ok (.literal w) ∧
      List.Forall₂ (fun item e => parse item.toList = .ok (.literal e)) items w.elements := by
  by_cases hne : items = []
  · subst hne
    have hblanks : ∀ c ∈ ([] : List Char), Text.isBlank c := by simp
    exact ⟨.texts [], rfl, (Spells.emptyList hblanks).parse, .nil⟩
  · have hne' : items.map String.toList ≠ [] := by simpa using hne
    rw [toList_bracketed]
    rcases h with htexts | hnumbers
    · obtain ⟨ss, hss⟩ := exists_forall₂_of_forall htexts
      refine ⟨.texts ss, rfl, ?_, ?_⟩
      · refine (Spells.texts (items_intercalate (List.forall₂_map_left_iff.mpr ?_) hne')).parse
        exact hss.imp fun item s hs => (parse_eq_ok_iff_padded.mp hs).imp fun _ => Spells.text
      · exact List.forall₂_map_right_iff.mpr hss
    · obtain ⟨xs, hxs⟩ := exists_forall₂_of_forall hnumbers
      refine ⟨.numbers xs, rfl, ?_, ?_⟩
      · refine (Spells.numbers (items_intercalate (List.forall₂_map_left_iff.mpr ?_) hne')).parse
        exact hxs.imp fun item x hx => (parse_eq_ok_iff_padded.mp hx).imp fun _ => Spells.number
      · exact List.forall₂_map_right_iff.mpr hxs

end Operand

namespace Condition

variable [PatternEngine] {p t : String} {context : Context} {v : Value}

theorem answers_equal_iff {e : Value} {b : Bool} (hp : Identifier.isValid p.toList)
    (ht : Operand.parse t.toList = .ok (.literal e)) (hv : context.resolve p = .ok v) :
    Answers context p Operator.equal.name t (.ok b) ↔ v.looselyEquals e = b := by
  rw [answers_name_iff_compare ht hv rfl, compare]
  constructor
  · rintro ⟨-, -, hb⟩
    exact Except.ok.inj hb
  · rintro rfl
    exact ⟨hp, ⟨.value e, rfl⟩, rfl⟩

section Lists

variable {items : List String} {w : Value}

theorem exists_targetOf_of_isList (hw : w.isList) :
    ∃ target, targetOf .member (.literal w) = .ok target := by
  cases w with
  | texts | numbers => exact ⟨_, rfl⟩
  | _ => cases hw

/-- Whether a value is in a list of literals is whether it equals one of them. -/
theorem answers_member (hp : Identifier.isValid p.toList) (hw : w.isList)
    (hparse : Operand.parse (Operand.bracketed items).toList = .ok (.literal w))
    (hv : context.resolve p = .ok v) :
    Answers context p Operator.member.name (Operand.bracketed items)
      (.ok (w.elements.any fun e => v.looselyEquals e)) := by
  rw [answers_name_iff_compare hparse hv rfl, ← Value.isMemberOf_eq_any]
  exact ⟨hp, exists_targetOf_of_isList hw, rfl⟩

theorem answers_items {op : Operator} {f : Value → Bool}
    (hitems : List.Forall₂ (fun item e => Operand.parse item.toList = .ok (.literal e)) items
      w.elements)
    (h : ∀ item e, Operand.parse item.toList = .ok (.literal e) →
      Answers context p op.name item (.ok (f e))) :
    List.Forall₂ (fun item b => Answers context p op.name item (.ok b)) items
      (w.elements.map f) :=
  List.forall₂_map_right_iff.mpr (hitems.imp h)

end Lists

theorem exists_answers_containing {e : Value} (hp : Identifier.isValid p.toList)
    (ht : Operand.parse t.toList = .ok (.literal e))
    (htarget : ∃ target, targetOf .containing (.literal e) = .ok target)
    (hv : context.resolve p = .ok v) (hlist : v.isList) :
    ∃ items, context.attributes.lookup p = some (.array items) ∧
      ∃ b, Answers context p Operator.containing.name t (.ok b) ∧
        (b = true ↔ ∃ item ∈ items,
          Answers (context.withAttribute p item) p Operator.equal.name t (.ok true)) := by
  obtain ⟨items, hlookup, hitems⟩ := Context.exists_items_of_resolve hv hlist
  refine ⟨items, hlookup, v.contains e, ?_, ?_⟩
  · exact (answers_name_iff_compare ht hv rfl).mpr ⟨hp, htarget, rfl⟩
  · rw [Value.contains_eq_any hlist, List.any_eq_true]
    refine (exists_mem_iff_of_forall₂ (Value.elements_of_ofJson? hitems) fun item u hu => ?_).symm
    exact answers_equal_iff hp ht (Context.resolve_withAttribute hu)

/-- Membership and containment agree with equality. A value is in a list of literals if it equals
one of them, and in none if it equals none; a list contains a literal if one of its items equals
it; and to be in a list that is a property is the same as to be contained in it. -/
theorem membership_by_equality {p : String} (hp : Identifier.isValid p.toList) :
    (∀ items : List String,
      ((∀ item ∈ items, Operand.IsText item) ∨ ∀ item ∈ items, Operand.IsNumber item) →
      (∃ c, compile p Operator.member.name (Operand.bracketed items) = .ok c) ∧
      ∀ context v, context.resolve p = .ok v →
        (∃ bs, List.Forall₂ (fun item b => Answers context p Operator.equal.name item (.ok b))
            items bs ∧
          Answers context p Operator.member.name (Operand.bracketed items) (.ok (bs.any id))) ∧
        ∃ bs, List.Forall₂ (fun item b => Answers context p Operator.notEqual.name item (.ok b))
            items bs ∧
          Answers context p Operator.notMember.name (Operand.bracketed items)
            (.ok (bs.all id))) ∧
    (∀ t, Operand.IsText t ∨ Operand.IsNumber t → ∀ context v, context.resolve p = .ok v →
      v.isList →
      ∃ items, context.attributes.lookup p = some (.array items) ∧
        ∃ b, Answers context p Operator.containing.name t (.ok b) ∧
          (b = true ↔ ∃ item ∈ items,
            Answers (context.withAttribute p item) p Operator.equal.name t (.ok true))) ∧
    ∀ q, Identifier.isValid q.toList → ∀ context v w, context.resolve p = .ok v →
      context.resolve q = .ok w → w.isList →
      ∃ b, Answers context p Operator.member.name ("\x7b" ++ q ++ "\x7d") (.ok b) ∧
        Answers context q Operator.containing.name ("\x7b" ++ p ++ "\x7d") (.ok b) := by
  refine ⟨?_, ?_, ?_⟩
  · intro items hliterals
    obtain ⟨w, hw, hparse, hitems⟩ := Operand.exists_parse_bracketed hliterals
    obtain ⟨target, htarget⟩ := exists_targetOf_of_isList hw
    refine ⟨exists_compile_name_iff.mpr ⟨hp, _, target, hparse, htarget⟩, fun context v hv => ?_⟩
    have hequal : ∀ item e, Operand.parse item.toList = .ok (.literal e) →
        Answers context p Operator.equal.name item (.ok (v.looselyEquals e)) :=
      fun item e he => (answers_equal_iff hp he hv).mpr rfl
    have hmember := answers_member hp hw hparse hv
    refine ⟨⟨_, answers_items hitems hequal, ?_⟩,
      ⟨_, answers_items hitems fun item e he => (hequal item e he).complement, ?_⟩⟩
    · rw [List.any_map]
      exact hmember
    · rw [List.all_map]
      have hnone : (w.elements.all fun e => !v.looselyEquals e) =
          !w.elements.any fun e => v.looselyEquals e := List.not_any_eq_all_not.symm
      exact hnone ▸ hmember.complement
  · intro t ht context v hv hlist
    rcases ht with ⟨s, hs⟩ | ⟨x, hx⟩
    · exact exists_answers_containing hp hs ⟨_, rfl⟩ hv hlist
    · exact exists_answers_containing hp hx ⟨_, rfl⟩ hv hlist
  · intro q hq context v w hv hw hlist
    refine ⟨v.isMemberOf w, ?_, ?_⟩
    · exact (answers_name_iff_compare (parse_reference hq) hv hw).mpr ⟨hp, ⟨_, rfl⟩, rfl⟩
    · rw [← Value.contains_of_isList hlist]
      exact (answers_name_iff_compare (parse_reference hp) hw hv).mpr ⟨hq, ⟨_, rfl⟩, rfl⟩

end Condition

namespace Condition

def proCustomer : Context :=
  ((Context.ofEntity "ann").withAttribute "plan" (.string "pro")).withAttribute "plans"
    (.array [.string "free", .string "pro"])

theorem membership_of_plan :
    Answers proCustomer "plan" "IN" "['free', \"pro\"]" (.ok true) ∧
    Answers proCustomer "plans" "CONTAINS" "'pro'" (.ok true) ∧
    ∃ b, Answers proCustomer "plan" "IN" "\x7bplans\x7d" (.ok b) ∧
      Answers proCustomer "plans" "CONTAINS" "\x7bplan\x7d" (.ok b) := by
  have hplan : Identifier.isValid "plan".toList := by decide +kernel
  have hplans : Identifier.isValid "plans".toList := by decide +kernel
  have hpro : proCustomer.resolve "plan" = .ok (.text "pro") := by decide +kernel
  have hlist : proCustomer.resolve "plans" = .ok (.texts ["free", "pro"]) := by decide +kernel
  refine ⟨?_, ?_, (membership_by_equality hplan).2.2 _ hplans _ _ _ hpro hlist rfl⟩
  · have htexts : ∀ item ∈ ["'free'", "\"pro\""], Operand.IsText item := by
      simp only [List.mem_cons, List.not_mem_nil, or_false]
      rintro item (rfl | rfl)
      · exact ⟨"free", by decide +kernel⟩
      · exact ⟨"pro", by decide +kernel⟩
    obtain ⟨-, hanswers⟩ := (membership_by_equality hplan).1 _ (.inl htexts)
    obtain ⟨⟨bs, hbs, hmember⟩, -⟩ := hanswers proCustomer _ hpro
    obtain ⟨b, c, rfl⟩ : ∃ b c, bs = [b, c] := List.length_eq_two.mp hbs.length_eq.symm
    have hequal : Answers proCustomer "plan" Operator.equal.name "\"pro\"" (.ok true) := by
      decide +kernel
    obtain ⟨-, hrest⟩ := List.forall₂_cons.mp hbs
    have hc : c = true := Except.ok.inj ((List.forall₂_cons.mp hrest).1.unique hequal)
    have htext : Operand.bracketed ["'free'", "\"pro\""] = "['free', \"pro\"]" := by
      decide +kernel
    have hany : [b, c].any id = true := by simp [hc]
    rwa [htext, hany] at hmember
  · have htext : Operand.IsText "'pro'" := ⟨"pro", by decide +kernel⟩
    obtain ⟨items, hitems, b, hb, hiff⟩ :=
      (membership_by_equality hplans).2.1 _ (.inl htext) proCustomer _ hlist rfl
    obtain rfl : [.string "free", .string "pro"] = items := by
      have hlookup : proCustomer.attributes.lookup "plans" =
          some (.array [.string "free", .string "pro"]) := by rfl
      simpa [hlookup] using hitems
    have hequal : Answers (proCustomer.withAttribute "plans" (.string "pro")) "plans"
        Operator.equal.name "'pro'" (.ok true) := by
      decide +kernel
    exact hiff.mpr ⟨.string "pro", by simp, hequal⟩ ▸ hb

end Condition

end FeatureFlags
