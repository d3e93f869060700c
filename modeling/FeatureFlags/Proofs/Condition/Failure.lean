import Mathlib
import FeatureFlags.Pattern.Machine
import FeatureFlags.Proofs.Condition.Sides

namespace FeatureFlags

theorem Operator.name_of_ofName? {s : String} {op : Operator} (h : ofName? s = some op) :
    op.name = s := by
  have hname := List.find?_some h
  exact eq_of_beq hname

namespace Condition

variable [PatternEngine]

/-- The ways in which evaluating a constraint can fail, given its operator, its property and the
operand on its right. The order of the constructors is that in which they are found. -/
inductive Fails (op : Operator) (property : String) (o : Operand) (context : Context) :
    EvaluationError → Prop
  | property {e : EvaluationError} (h : context.Lacks property e) :
      Fails op property o context e
  | reference {name : String} {left : Value} {e : EvaluationError} (ho : o = .reference name)
      (hleft : context.resolve property = .ok left) (h : context.Lacks name e) :
      Fails op property o context e
  | order {left right : Value} (hop : op.isOrder) (hleft : context.resolve property = .ok left)
      (hright : o.resolve context = .ok right)
      (h : (∀ x, left ≠ .number x) ∨ ∀ y, right ≠ .number y) :
      Fails op property o context (.typeMismatch op left.typeName right.typeName)
  | noPattern {name : String} {left right : Value} (hop : op.isMatch) (ho : o = .reference name)
      (hleft : context.resolve property = .ok left) (hright : context.resolve name = .ok right)
      (h : ∀ s, right ≠ .text s) :
      Fails op property o context (.typeMismatch op left.typeName right.typeName)
  | invalidPattern {name source : String} {left : Value} {reason : PatternError}
      (hop : op.isMatch) (ho : o = .reference name) (hleft : context.resolve property = .ok left)
      (hright : context.resolve name = .ok (.text source))
      (h : PatternEngine.compile source = .error reason) :
      Fails op property o context (.invalidPattern source reason)
  | noText {source : String} {left : Value} {p : Pattern} (hop : op.isMatch)
      (hleft : context.resolve property = .ok left)
      (hright : o.resolve context = .ok (.text source)) (hp : PatternEngine.compile source = .ok p)
      (h : ∀ s, left ≠ .text s) :
      Fails op property o context (.typeMismatch op left.typeName "pattern")

section Compare

variable {op : Operator} {v w : Value} {e : EvaluationError}

theorem compare_eq_error_iff_of_isOrder (hop : op.isOrder) : compare op v w = .error e ↔
    ((∀ x, v ≠ .number x) ∨ ∀ y, w ≠ .number y) ∧
      .typeMismatch op v.typeName w.typeName = e := by
  cases op with
  | less | lessOrEqual | greater | greaterOrEqual =>
      cases v with
      | number x => cases w <;> simp [compare]
      | _ => simp [compare]
  | _ => cases hop

theorem search_eq_error_iff {p : Pattern} : search op v p = .error e ↔
    (∀ s, v ≠ .text s) ∧ .typeMismatch op v.typeName "pattern" = e := by
  cases v <;> simp [search]

theorem compare_eq_error_iff_of_isMatch (hop : op.isMatch) : compare op v w = .error e ↔
    ((∀ s, w ≠ .text s) ∧ .typeMismatch op v.typeName w.typeName = e) ∨
    ∃ source, w = .text source ∧
      ((∃ reason, PatternEngine.compile source = .error reason ∧
          .invalidPattern source reason = e) ∨
        ∃ p, PatternEngine.compile source = .ok p ∧ (∀ s, v ≠ .text s) ∧
          .typeMismatch op v.typeName "pattern" = e) := by
  cases op with
  | matching | notMatching =>
      cases w with
      | text source =>
          cases hcompile : PatternEngine.compile source with
          | error reason => simp [compare, hcompile]
          | ok p => simp [compare, hcompile, search_eq_error_iff]
      | _ => simp [compare]
  | _ => cases hop

theorem exists_compare_eq_ok (horder : op.isOrder = false) (hmatch : op.isMatch = false)
    (v w : Value) : ∃ b, compare op v w = .ok b := by
  cases op with
  | less | lessOrEqual | greater | greaterOrEqual => cases horder
  | matching | notMatching => cases hmatch
  | _ => exact ⟨_, rfl⟩

theorem exists_pattern_of_targetOf {t : Target} (hop : op.isMatch)
    (h : targetOf op (.literal v) = .ok t) :
    ∃ source p, v = .text source ∧ PatternEngine.compile source = .ok p := by
  cases op with
  | matching | notMatching =>
      cases v with
      | text source =>
          cases hcompile : PatternEngine.compile source with
          | error reason => simp [targetOf, accepts, Operator.isMatch, hcompile] at h
          | ok p => exact ⟨source, p, rfl, hcompile⟩
      | _ => cases h
  | _ => cases hop

end Compare

section Evaluate

variable {property operator value : String} {c : Condition} {o : Operand} {context : Context}
  {e : EvaluationError}

theorem fails_of_isMatch {op : Operator} {t : Target} {left right : Value} (hop : op.isMatch)
    (htarget : targetOf op o = .ok t) (hleft : context.resolve property = .ok left)
    (hright : o.resolve context = .ok right) (h : compare op left right = .error e) :
    Fails op property o context e := by
  rcases (compare_eq_error_iff_of_isMatch hop).mp h with
    ⟨htext, rfl⟩ | ⟨source, rfl, ⟨reason, hreason, rfl⟩ | ⟨p, hp, htext, rfl⟩⟩
  · cases o with
    | literal v =>
        obtain ⟨source, -, rfl, -⟩ := exists_pattern_of_targetOf hop htarget
        exact absurd (Except.ok.inj hright).symm (htext source)
    | reference name => exact .noPattern hop rfl hleft hright htext
  · cases o with
    | literal v =>
        obtain ⟨source', p, rfl, hp⟩ := exists_pattern_of_targetOf hop htarget
        cases hright
        rw [hp] at hreason
        cases hreason
    | reference name => exact .invalidPattern hop rfl hleft hright hreason
  · exact .noText hop hleft hright hp htext

theorem fails_of_between {op : Operator} {t : Target} (htarget : targetOf op o = .ok t)
    (h : between op (context.resolve property) (o.resolve context) = .error e) :
    Fails op property o context e := by
  rcases between_eq_error_iff.mp h with hleft | ⟨left, hleft, hright | ⟨right, hright, hcompare⟩⟩
  · exact .property (Context.resolve_eq_error_iff.mp hleft)
  · cases o with
    | literal v => cases hright
    | reference name => exact .reference rfl hleft (Context.resolve_eq_error_iff.mp hright)
  · cases horder : op.isOrder with
    | true =>
        obtain ⟨hside, rfl⟩ := (compare_eq_error_iff_of_isOrder horder).mp hcompare
        exact .order horder hleft hright hside
    | false =>
        cases hmatch : op.isMatch with
        | true => exact fails_of_isMatch hmatch htarget hleft hright hcompare
        | false =>
            obtain ⟨b, hb⟩ := exists_compare_eq_ok horder hmatch left right
            rw [hb] at hcompare
            cases hcompare

theorem Fails.between {op : Operator} (h : Fails op property o context e) :
    between op (context.resolve property) (o.resolve context) = .error e := by
  rw [between_eq_error_iff]
  cases h with
  | property h => exact .inl (Context.resolve_eq_error_iff.mpr h)
  | reference ho hleft h =>
      subst ho
      exact .inr ⟨_, hleft, .inl (Context.resolve_eq_error_iff.mpr h)⟩
  | order hop hleft hright h =>
      refine .inr ⟨_, hleft, .inr ⟨_, hright, ?_⟩⟩
      exact (compare_eq_error_iff_of_isOrder hop).mpr ⟨h, rfl⟩
  | noPattern hop ho hleft hright h =>
      subst ho
      refine .inr ⟨_, hleft, .inr ⟨_, hright, ?_⟩⟩
      exact (compare_eq_error_iff_of_isMatch hop).mpr (.inl ⟨h, rfl⟩)
  | invalidPattern hop ho hleft hright h =>
      subst ho
      refine .inr ⟨_, hleft, .inr ⟨_, hright, ?_⟩⟩
      exact (compare_eq_error_iff_of_isMatch hop).mpr (.inr ⟨_, rfl, .inl ⟨_, h, rfl⟩⟩)
  | noText hop hleft hright hp h =>
      refine .inr ⟨_, hleft, .inr ⟨_, hright, ?_⟩⟩
      exact (compare_eq_error_iff_of_isMatch hop).mpr (.inr ⟨_, rfl, .inr ⟨_, hp, h, rfl⟩⟩)

omit [PatternEngine] in
theorem isOrder_isMatch_of_mem
    (h : c.operator.name ∈ ["EQ", "NEQ", "IN", "NOTIN", "CONTAINS", "NOTCONTAINS"]) :
    c.operator.isOrder = false ∧ c.operator.isMatch = false := by
  cases hop : c.operator with
  | equal | notEqual | member | notMember | containing | notContaining => exact ⟨rfl, rfl⟩
  | _ =>
      rw [hop] at h
      exact absurd h (by decide)

theorem Fails.of_literal {op : Operator} {v : Value}
    (h : Fails op property (.literal v) context e) :
    context.Lacks property e ∨ ∃ left right, e = .typeMismatch op left right := by
  cases h with
  | property h => exact .inl h
  | order | noText => exact .inr ⟨_, _, rfl⟩
  | reference ho | noPattern _ ho | invalidPattern _ ho => cases ho

/-- Evaluating a condition fails in the ways that `Fails` lists and in no other. Once both sides
have values, equality, membership and containment have an answer; with a literal no pattern is
invalid, and no other property than the one in front lacks a value. -/
theorem error_iff_fails (hcompile : compile property operator value = .ok c) :
    ∃ o, Operand.parse value.toList = .ok o ∧ c.operator.name = operator ∧
      (∀ context e, c.evaluate context = .error e ↔ Fails c.operator property o context e) ∧
      (operator ∈ ["EQ", "NEQ", "IN", "NOTIN", "CONTAINS", "NOTCONTAINS"] →
        ∀ context left right, context.resolve property = .ok left →
          o.resolve context = .ok right → ∃ b, c.evaluate context = .ok b) ∧
      ∀ v, o = .literal v → ∀ context e, c.evaluate context = .error e →
        (∀ source reason, e ≠ .invalidPattern source reason) ∧
        ∀ name, e = .missingProperty name ∨ e = .unsupportedType name → name = property := by
  obtain ⟨o, hop, -, hparse, htarget, -⟩ := compile_eq_ok_iff.mp hcompile
  have hname := Operator.name_of_ofName? hop
  have hiff : ∀ context e, c.evaluate context = .error e ↔
      Fails c.operator property o context e := by
    intro context e
    rw [evaluate_of_compile hcompile hparse]
    exact ⟨fails_of_between htarget, Fails.between⟩
  refine ⟨o, hparse, hname, hiff, ?_, ?_⟩
  · intro hmem context left right hleft hright
    obtain ⟨horder, hmatch⟩ := isOrder_isMatch_of_mem (hname.symm ▸ hmem)
    obtain ⟨b, hb⟩ := exists_compare_eq_ok horder hmatch left right
    refine ⟨b, ?_⟩
    rw [evaluate_of_compile hcompile hparse, hleft, hright]
    exact hb
  · rintro v rfl context e he
    rcases ((hiff context e).mp he).of_literal with hlacks | ⟨left, right, rfl⟩
    · cases hlacks <;> simp
    · simp

end Evaluate

end Condition

namespace Condition

/-- A car whose known plates were not given as a pattern. -/
def misreadCar : Context :=
  knownCar.withAttribute "known.plates" (.string "AB-(")

theorem error_of_misreadPlates :
    ∃ c reason, compile "plate" "EREG" "\x7bknown.plates\x7d" = .ok c ∧
      PatternEngine.compile "AB-(" = .error reason ∧
      c.evaluate misreadCar = .error (.invalidPattern "AB-(" reason) := by
  obtain ⟨reason, hreason⟩ : ∃ reason, PatternEngine.compile "AB-(" = .error reason := ⟨_, by cbv⟩
  have hplate : misreadCar.resolve "plate" = .ok (.text "AB-12") := by decide +kernel
  have hplates : misreadCar.resolve "known.plates" = .ok (.text "AB-(") := by decide +kernel
  have hreference : Operand.parse "\x7bknown.plates\x7d".toList =
      .ok (.reference "known.plates") := by decide +kernel
  have hvalid : Identifier.isValid "plate".toList := by decide +kernel
  have hcompile : compile "plate" Operator.matching.name "\x7bknown.plates\x7d" =
      .ok ⟨"plate", .matching, .property "known.plates"⟩ :=
    compile_name_eq_ok_iff.mpr ⟨hvalid, _, _, hreference, rfl, rfl⟩
  obtain ⟨o, hparse, -, hiff, -⟩ := error_iff_fails hcompile
  obtain rfl : o = .reference "known.plates" := Except.ok.inj (hparse.symm.trans hreference)
  refine ⟨_, reason, hcompile, hreason, (hiff misreadCar _).mpr ?_⟩
  exact .invalidPattern rfl rfl hplate hplates hreason

end Condition

end FeatureFlags
