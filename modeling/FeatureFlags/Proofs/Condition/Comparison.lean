import Mathlib
import FeatureFlags.Condition.Evaluation
import FeatureFlags.Pattern.Machine
import FeatureFlags.Proofs.Operand.RoundTrip

namespace FeatureFlags

namespace Number

def unsignZero (x : Number) : Number :=
  if x.units = 0 then { x with negative := false } else x

theorem toInt_unsignZero (x : Number) : x.unsignZero.toInt = x.toInt := by
  unfold unsignZero
  split
  · next h => simp [toInt, h]
  · rfl

theorem near_unsignZero (x y : Number) : x.unsignZero.near y.unsignZero = x.near y := by
  unfold near distance
  rw [toInt_unsignZero, toInt_unsignZero]

theorem lt_unsignZero (x y : Number) : x.unsignZero.lt y.unsignZero = x.lt y := by
  unfold lt
  rw [toInt_unsignZero, toInt_unsignZero]

end Number

theorem Operator.orders_unsignZero (op : Operator) (x y : Number) :
    op.orders x.unsignZero y.unsignZero = op.orders x y := by
  unfold orders
  simp only [Number.near_unsignZero, Number.lt_unsignZero]

namespace Value

/-- The value with every zero in it taken as positive. -/
def unsignZero : Value → Value
  | number x => number x.unsignZero
  | numbers xs => numbers (xs.map Number.unsignZero)
  | v => v

/-- Values that are equal, where the two zeros are one number. -/
def Alike (v w : Value) : Prop :=
  v.unsignZero = w.unsignZero

@[simp]
theorem typeName_unsignZero (v : Value) : v.unsignZero.typeName = v.typeName := by
  cases v <;> rfl

theorem allNear_unsignZero (xs ys : List Number) :
    allNear (xs.map Number.unsignZero) (ys.map Number.unsignZero) = allNear xs ys := by
  induction xs generalizing ys with
  | nil => cases ys <;> rfl
  | cons x xs ih =>
      cases ys with
      | nil => rfl
      | cons y ys =>
          rw [List.map_cons, List.map_cons, allNear, allNear, Number.near_unsignZero, ih]

theorem looselyEquals_unsignZero (v w : Value) :
    v.unsignZero.looselyEquals w.unsignZero = v.looselyEquals w := by
  cases v with
  | number x =>
      cases w with
      | number y => exact Number.near_unsignZero x y
      | _ => rfl
  | numbers xs =>
      cases w with
      | numbers ys => exact allNear_unsignZero xs ys
      | _ => rfl
  | _ => cases w <;> rfl

theorem isMemberOf_unsignZero (v w : Value) :
    v.unsignZero.isMemberOf w.unsignZero = v.isMemberOf w := by
  cases v with
  | number x =>
      cases w with
      | numbers ys =>
          simp only [unsignZero, isMemberOf, List.any_map, Function.comp_def,
            Number.near_unsignZero]
      | _ => rfl
  | _ => cases w <;> rfl

theorem contains_unsignZero (v w : Value) :
    v.unsignZero.contains w.unsignZero = v.contains w := by
  have hmember := isMemberOf_unsignZero w v
  cases v with
  | text s => cases w <;> rfl
  | _ => exact hmember

end Value

namespace Condition

open Value

variable [PatternEngine]

theorem search_unsignZero (op : Operator) (v : Value) (p : Pattern) :
    search op v.unsignZero p = search op v p := by
  cases v <;> rfl

theorem compare_unsignZero (op : Operator) (v w : Value) :
    compare op v.unsignZero w.unsignZero = compare op v w := by
  cases op with
  | equal | notEqual => simp only [compare, looselyEquals_unsignZero]
  | member | notMember => simp only [compare, isMemberOf_unsignZero]
  | containing | notContaining => simp only [compare, contains_unsignZero]
  | less | lessOrEqual | greater | greaterOrEqual =>
      cases v with
      | number x =>
          cases w with
          | number y => exact congrArg Except.ok (Operator.orders_unsignZero _ x y)
          | _ => rfl
      | _ => cases w <;> rfl
  | matching | notMatching =>
      cases w with
      | text source =>
          change compare _ v.unsignZero (.text source) = _
          simp only [compare, search_unsignZero]
      | _ =>
          change Except.error (EvaluationError.typeMismatch _ v.unsignZero.typeName _) = _
          rw [typeName_unsignZero]
          rfl

variable {v w v' w' : Value}

/-- Every operator gives values that are alike the same answer, or the same error. -/
theorem compare_congr (op : Operator) (hv : v.Alike v') (hw : w.Alike w') :
    compare op v w = compare op v' w' := by
  -- values that are alike are the same ones once zero has no sign
  rw [← compare_unsignZero op v w, hv, hw, compare_unsignZero]

theorem search_congr (op : Operator) (p : Pattern) (hv : v.Alike v') :
    search op v p = search op v' p := by
  rw [← search_unsignZero op v p, hv, search_unsignZero]

theorem compare_of_isMatch {op : Operator} {source : String} {p : Pattern} (hop : op.isMatch)
    (hcompile : PatternEngine.compile source = .ok p) (left : Value) :
    compare op left (.text source) = search op left p := by
  cases op with
  | matching | notMatching => simp only [compare, hcompile]
  | _ => cases hop

theorem evaluate_of_targetOf {op : Operator} {t : Target} (h : targetOf op (.literal w) = .ok t)
    (property : String) (context : Context) :
    (⟨property, op, t⟩ : Condition).evaluate context =
      match context.resolve property with
      | .ok left => compare op left w
      | .error e => .error e := by
  unfold targetOf at h
  dsimp only at h
  unfold evaluate
  split at h
  · split at h
    · next source hmatch haccepts =>
        split at h
        · next p hcompile =>
            cases h
            cases context.resolve property with
            | error e => rfl
            | ok left => exact (compare_of_isMatch hmatch hcompile left).symm
        · cases h
    · cases h
      cases context.resolve property <;> rfl
  · cases h

omit [PatternEngine] in
theorem parse_reference {name : String} (h : Identifier.isValid name.toList) :
    Operand.parse ("\x7b" ++ name ++ "\x7d").toList = .ok (.reference name) := by
  have hname := Identifier.isValid_iff.mp h
  have hchars : ∀ c ∈ name.toList, c ≠ '}' ∧ Text.isBlank c = false := by
    intro c hc
    rcases Identifier.eq_dot_or_isPart_of_mem hname hc with rfl | hpart
    · decide
    · refine ⟨?_, Text.isBlank_eq_false_of hpart (by decide +kernel)⟩
      rintro rfl
      exact absurd hpart (by decide +kernel)
  have htrim : Text.trim name.toList = name.toList := by
    refine Text.trim_eq_self ⟨?_, ?_⟩
    · exact fun c hc => (hchars c (List.mem_of_mem_head? hc)).2
    · exact fun c hc => (hchars c (List.mem_of_mem_getLast? hc)).2
  have hspells := @Operand.Spells.reference name.toList
    (fun hclosed => (hchars '}' hclosed).1 rfl) (htrim.symm ▸ hname)
  rw [htrim, String.ofList_toList] at hspells
  rw [String.toList_append, String.toList_append]
  exact hspells.parse

/-- A condition can compare with a property in place of a literal: wherever the property has
the literal's value, the two conditions have the same answer or the same error. -/
theorem evaluate_of_reference {property operator literal name : String} {v w : Value}
    {c : Condition} {context : Context} (hcompile : compile property operator literal = .ok c)
    (hliteral : Operand.parse literal.toList = .ok (.literal v))
    (hname : Identifier.isValid name.toList) (hresolve : context.resolve name = .ok w)
    (halike : w.Alike v) :
    ∃ d, compile property operator ("\x7b" ++ name ++ "\x7d") = .ok d ∧
      d.evaluate context = c.evaluate context := by
  obtain ⟨o, hop, hvalid, hparse, htarget, rfl⟩ := compile_eq_ok_iff.mp hcompile
  obtain rfl : o = .literal v := Except.ok.inj (hparse.symm.trans hliteral)
  refine ⟨⟨c.property, c.operator, .property name⟩, ?_, ?_⟩
  · exact compile_eq_ok_iff.mpr ⟨.reference name, hop, hvalid, parse_reference hname, rfl, rfl⟩
  · rw [evaluate_of_targetOf htarget, evaluate]
    cases context.resolve c.property with
    | error e => rfl
    | ok left =>
        dsimp only
        rw [hresolve]
        exact compare_congr c.operator rfl halike

end Condition

namespace Condition

open Value

def knownCar : Context :=
  ((Context.ofEntity "car7").withAttribute "plate" (.string "AB-12")).withAttribute
    "known.plates" (.string "^AB-[0-9]+$")

theorem evaluate_of_knownPlates :
    ∃ c d, compile "plate" "EREG" "'^AB-[0-9]+$'" = .ok c ∧
      compile "plate" "EREG" "\x7bknown.plates\x7d" = .ok d ∧ c.evaluate knownCar = .ok true ∧
      d.evaluate knownCar = c.evaluate knownCar := by
  have hliteral : Operand.parse "'^AB-[0-9]+$'".toList =
      .ok (.literal (.text "^AB-[0-9]+$")) := by cbv
  have hname : Identifier.isValid "known.plates".toList := by decide +kernel
  have hresolve : knownCar.resolve "known.plates" = .ok (.text "^AB-[0-9]+$") := by cbv
  obtain ⟨c, hcompile⟩ : ∃ c, compile "plate" "EREG" "'^AB-[0-9]+$'" = .ok c := ⟨_, by cbv⟩
  have hevaluate : c.evaluate knownCar = .ok true := by
    have hevaluates : (compile "plate" "EREG" "'^AB-[0-9]+$'").toOption.map (·.evaluate knownCar) =
        some (.ok true) := by cbv
    rw [hcompile] at hevaluates
    exact Option.some.inj hevaluates
  obtain ⟨d, hcompile', hsame⟩ :=
    evaluate_of_reference hcompile hliteral hname hresolve rfl
  exact ⟨c, d, hcompile, hcompile', hevaluate, hsame⟩

end Condition

end FeatureFlags
