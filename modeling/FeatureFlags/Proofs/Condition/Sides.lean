import Mathlib
import FeatureFlags.Proofs.Condition.Comparison
import FeatureFlags.Proofs.Pairing

namespace FeatureFlags

@[simp]
theorem Operator.ofName?_name (op : Operator) : ofName? op.name = some op := by
  cases op <;> rfl

namespace Json

/-- Values that no constraint compares: null, objects, and lists with items of another type
than text and of another type than number. -/
inductive Unsupported : Json → Prop
  | null : Unsupported .null
  | object (members : List (String × Json)) : Unsupported (.object members)
  | number {n : Numeric} (h : n.toNumber? = none) : Unsupported (.number n)
  | list {items : List Json} (htext : ∃ item ∈ items, item.string? = none)
      (hnumber : ∃ item ∈ items, Value.real? item = none) : Unsupported (.array items)

end Json

theorem Value.ofJson?_eq_none_iff {j : Json} : ofJson? j = none ↔ j.Unsupported := by
  cases j with
  | null => exact iff_of_true rfl .null
  | object members => exact iff_of_true rfl (.object members)
  | bool b => exact iff_of_false nofun nofun
  | string s => exact iff_of_false nofun nofun
  | number n =>
      rw [ofJson?, Option.map_eq_none_iff]
      refine ⟨.number, fun h => ?_⟩
      cases h with
      | number h => exact h
  | array items =>
      have hlist : (Json.array items).Unsupported ↔
          items.mapM Json.string? = none ∧ items.mapM real? = none := by
        rw [mapM_eq_none_iff, mapM_eq_none_iff]
        refine ⟨fun h => ?_, fun h => .list h.1 h.2⟩
        cases h with
        | list htext hnumber => exact ⟨htext, hnumber⟩
      rw [hlist, ofJson?]
      cases items.mapM Json.string? <;> simp

namespace Context

/-- Why a property has no value: the context does not tell it, or tells a value that no
constraint compares. -/
inductive Lacks (c : Context) (name : String) : EvaluationError → Prop
  | missing (hlookup : c.attributes.lookup name = none) (hid : name ≠ entityIdProperty)
      (htype : name ≠ entityTypeProperty) : c.Lacks name (.missingProperty name)
  | unsupported {j : Json} (hlookup : c.attributes.lookup name = some j)
      (hj : j.Unsupported) : c.Lacks name (.unsupportedType name)

theorem resolve_eq_error_iff {c : Context} {name : String} {e : EvaluationError} :
    c.resolve name = .error e ↔ c.Lacks name e := by
  unfold resolve
  constructor
  · intro h
    split at h
    · next j hlookup =>
        split at h
        · cases h
        · next hj =>
            cases h
            exact .unsupported hlookup (Value.ofJson?_eq_none_iff.mp hj)
    · next hlookup =>
        split at h
        · cases h
        · next hid =>
            split at h
            · cases h
            · next htype =>
                cases h
                exact .missing hlookup hid htype
  · rintro (⟨hlookup, hid, htype⟩ | ⟨hlookup, hj⟩)
    · simp [hlookup, hid, htype]
    · simp [hlookup, Value.ofJson?_eq_none_iff.mpr hj]

end Context

namespace Operand

/-- The value that stands on the right of a condition. -/
def resolve (context : Context) : Operand → Except EvaluationError Value
  | literal v => .ok v
  | reference name => context.resolve name

end Operand

namespace Condition

variable [PatternEngine]

/-- The answer of an operator between two sides. The left one is looked at first. -/
def between (op : Operator) :
    Except EvaluationError Value → Except EvaluationError Value → Except EvaluationError Bool
  | .error e, _ => .error e
  | .ok _, .error e => .error e
  | .ok left, .ok right => compare op left right

/-- A constraint compiles to a condition that evaluates to the answer or the error. -/
def Answers (context : Context) (property operator value : String)
    (answer : Except EvaluationError Bool) : Prop :=
  ∃ c, compile property operator value = .ok c ∧ c.evaluate context = answer

variable {property operator value : String} {op : Operator} {c : Condition} {o : Operand}
  {context : Context} {answer : Except EvaluationError Bool}

theorem answers_iff_map : Answers context property operator value answer ↔
    (compile property operator value).toOption.map (·.evaluate context) = some answer := by
  unfold Answers
  cases compile property operator value <;> simp [Except.toOption]

instance : Decidable (Answers context property operator value answer) :=
  decidable_of_iff _ answers_iff_map.symm

theorem Answers.unique {answer' : Except EvaluationError Bool}
    (h : Answers context property operator value answer)
    (h' : Answers context property operator value answer') : answer = answer' := by
  rw [answers_iff_map] at h h'
  exact Option.some.inj (h.symm.trans h')

theorem evaluate_of_compile (hcompile : compile property operator value = .ok c)
    (hparse : Operand.parse value.toList = .ok o) (context : Context) :
    c.evaluate context = between c.operator (context.resolve property) (o.resolve context) := by
  obtain ⟨o', -, -, hparse', htarget, rfl⟩ := compile_eq_ok_iff.mp hcompile
  obtain rfl : o' = o := Except.ok.inj (hparse'.symm.trans hparse)
  cases o' with
  | literal v =>
      rw [evaluate_of_targetOf htarget]
      cases context.resolve c.property <;> rfl
  | reference name =>
      have htarget' : Target.property name = c.target := Except.ok.inj htarget
      unfold evaluate
      rw [← htarget', Operand.resolve]
      cases context.resolve c.property with
      | error e => rfl
      | ok left =>
          dsimp only
          cases context.resolve name <;> rfl

/-- A constraint compiles just if its property has a name, its right-hand side is an operand, and
the operator takes the operand. -/
theorem compile_name_eq_ok_iff : compile property op.name value = .ok c ↔
    Identifier.isValid property.toList ∧ ∃ o t, Operand.parse value.toList = .ok o ∧
      targetOf op o = .ok t ∧ c = ⟨property, op, t⟩ := by
  rw [compile_eq_ok_iff, Operator.ofName?_name]
  constructor
  · rintro ⟨o, hop, hvalid, hparse, htarget, rfl⟩
    cases hop
    exact ⟨hvalid, o, c.target, hparse, htarget, rfl⟩
  · rintro ⟨hvalid, o, t, hparse, htarget, rfl⟩
    exact ⟨o, rfl, hvalid, hparse, htarget, rfl⟩

theorem exists_compile_name_iff : (∃ c, compile property op.name value = .ok c) ↔
    Identifier.isValid property.toList ∧
      ∃ o t, Operand.parse value.toList = .ok o ∧ targetOf op o = .ok t := by
  constructor
  · rintro ⟨c, hcompile⟩
    obtain ⟨hvalid, o, t, hparse, htarget, -⟩ := compile_name_eq_ok_iff.mp hcompile
    exact ⟨hvalid, o, t, hparse, htarget⟩
  · rintro ⟨hvalid, o, t, hparse, htarget⟩
    exact ⟨_, compile_name_eq_ok_iff.mpr ⟨hvalid, o, t, hparse, htarget, rfl⟩⟩

theorem answers_name_iff : Answers context property op.name value answer ↔
    Identifier.isValid property.toList ∧
      ∃ o t, Operand.parse value.toList = .ok o ∧ targetOf op o = .ok t ∧
        between op (context.resolve property) (o.resolve context) = answer := by
  constructor
  · rintro ⟨c, hcompile, rfl⟩
    obtain ⟨hvalid, o, t, hparse, htarget, rfl⟩ := compile_name_eq_ok_iff.mp hcompile
    exact ⟨hvalid, o, t, hparse, htarget, (evaluate_of_compile hcompile hparse context).symm⟩
  · rintro ⟨hvalid, o, t, hparse, htarget, rfl⟩
    have hcompile := compile_name_eq_ok_iff.mpr ⟨hvalid, o, t, hparse, htarget, rfl⟩
    exact ⟨_, hcompile, evaluate_of_compile hcompile hparse context⟩

theorem answers_name_iff_compare {v w : Value} (hparse : Operand.parse value.toList = .ok o)
    (hleft : context.resolve property = .ok v) (hright : o.resolve context = .ok w) :
    Answers context property op.name value answer ↔
      Identifier.isValid property.toList ∧ (∃ t, targetOf op o = .ok t) ∧
        compare op v w = answer := by
  rw [answers_name_iff]
  constructor
  · rintro ⟨hvalid, o', t, hparse', htarget, rfl⟩
    obtain rfl : o = o' := Except.ok.inj (hparse.symm.trans hparse')
    exact ⟨hvalid, ⟨t, htarget⟩, by rw [hleft, hright, between]⟩
  · rintro ⟨hvalid, ⟨t, htarget⟩, rfl⟩
    exact ⟨hvalid, o, t, hparse, htarget, by rw [hleft, hright, between]⟩

section Between

variable {left right : Except EvaluationError Value}

theorem between_eq_ok_iff {b : Bool} : between op left right = .ok b ↔
    ∃ v w, left = .ok v ∧ right = .ok w ∧ compare op v w = .ok b := by
  cases left with
  | error e => simp [between]
  | ok v => cases right <;> simp [between]

theorem between_eq_error_iff {e : EvaluationError} : between op left right = .error e ↔
    left = .error e ∨ ∃ v, left = .ok v ∧
      (right = .error e ∨ ∃ w, right = .ok w ∧ compare op v w = .error e) := by
  cases left with
  | error e' => simp [between]
  | ok v => cases right <;> simp [between]

end Between

end Condition

end FeatureFlags
