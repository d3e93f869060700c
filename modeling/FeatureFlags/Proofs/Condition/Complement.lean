import Mathlib
import FeatureFlags.Pattern.Machine
import FeatureFlags.Proofs.Condition.Sides

namespace FeatureFlags

namespace Number

variable {x y : Number}

theorem tolerance_pos : 0 < tolerance := by
  decide +kernel

theorem near_of_toInt_eq (h : x.toInt = y.toInt) : x.near y := by
  have hdistance : x.distance y = 0 := by
    unfold distance
    rw [h, Int.sub_self]
    rfl
  rw [near, hdistance]
  exact decide_eq_true tolerance_pos

theorem lt_eq_not_lt_of_not_near (h : x.near y = false) : x.lt y = !y.lt x := by
  have hne : x.toInt ≠ y.toInt := by
    intro heq
    rw [near_of_toInt_eq heq] at h
    cases h
  unfold lt
  rw [← decide_not, decide_eq_decide]
  omega

end Number

namespace Operator

/-- The operator that answers the opposite. -/
def complement : Operator → Operator
  | equal => notEqual
  | notEqual => equal
  | less => greaterOrEqual
  | greaterOrEqual => less
  | greater => lessOrEqual
  | lessOrEqual => greater
  | member => notMember
  | notMember => member
  | matching => notMatching
  | notMatching => matching
  | containing => notContaining
  | notContaining => containing

@[simp]
theorem complement_complement (op : Operator) : op.complement.complement = op := by
  cases op <;> rfl

@[simp]
theorem isMatch_complement (op : Operator) : op.complement.isMatch = op.isMatch := by
  cases op <;> rfl

theorem orders_complement {op : Operator} (hop : op.isOrder) (x y : Number) :
    op.complement.orders x y = !op.orders x y := by
  cases op with
  | less | lessOrEqual | greater | greaterOrEqual =>
      cases hnear : x.near y with
      | true => simp [complement, orders, hnear]
      | false => simp [complement, orders, hnear, Number.lt_eq_not_lt_of_not_near hnear]
  | _ => cases hop

theorem count_orders (x y : Number) :
    [less.orders x y, x.near y, greater.orders x y].count true = 1 := by
  cases hnear : x.near y with
  | true => simp [orders, hnear]
  | false =>
      have hlt := Number.lt_eq_not_lt_of_not_near hnear
      cases hyx : y.lt x <;> simp [orders, hnear, hlt, hyx]

theorem orders_lessOrEqual (x y : Number) :
    lessOrEqual.orders x y = (less.orders x y || x.near y) := by
  cases hnear : x.near y <;> simp [orders, hnear]

theorem orders_greaterOrEqual (x y : Number) :
    greaterOrEqual.orders x y = (greater.orders x y || x.near y) := by
  cases hnear : x.near y <;> simp [orders, hnear]

end Operator

namespace EvaluationError

/-- The error under another operator, if it names one. -/
def under (op : Operator) : EvaluationError → EvaluationError
  | typeMismatch _ left right => typeMismatch op left right
  | e => e

end EvaluationError

theorem Context.Lacks.under_eq {context : Context} {name : String} {e : EvaluationError}
    (h : context.Lacks name e) (op : Operator) : e.under op = e := by
  cases h <;> rfl

namespace Condition

/-- The opposite answer. An error stays, under the name of the operator. -/
def opposite (op : Operator) : Except EvaluationError Bool → Except EvaluationError Bool
  | .ok b => .ok !b
  | .error e => .error (e.under op)

theorem accepts_complement (op : Operator) (v : Value) :
    accepts op.complement v = accepts op v := by
  cases op <;> cases v <;> rfl

variable [PatternEngine]

theorem targetOf_complement {op : Operator} {o : Operand} {t : Target}
    (h : targetOf op o = .ok t) : targetOf op.complement o = .ok t := by
  cases o with
  | reference name => exact h
  | literal v =>
      simp only [targetOf, accepts_complement, Operator.isMatch_complement] at h ⊢
      split at h
      · next haccepts =>
          rw [if_pos haccepts]
          exact h
      · cases h

theorem search_complement {op : Operator} (hop : op.isMatch) (left : Value) (p : Pattern) :
    search op.complement left p = opposite op.complement (search op left p) := by
  cases left with
  | text s =>
      cases op with
      | matching | notMatching =>
          cases hs : PatternEngine.occursIn p s <;> simp [search, opposite, Operator.complement, hs]
      | _ => cases hop
  | _ => rfl

theorem compare_complement (op : Operator) (left right : Value) :
    compare op.complement left right = opposite op.complement (compare op left right) := by
  cases op with
  | equal | member | containing => rfl
  | notEqual | notMember | notContaining =>
      simp only [compare, opposite, Operator.complement, Bool.not_not]
  | less | lessOrEqual | greater | greaterOrEqual =>
      cases left with
      | number x =>
          cases right with
          | number y => exact congrArg Except.ok (Operator.orders_complement rfl x y)
          | _ => rfl
      | _ => rfl
  | matching | notMatching =>
      cases right with
      | text source =>
          cases hcompile : PatternEngine.compile source with
          | error reason =>
              simp only [compare, opposite, Operator.complement, EvaluationError.under, hcompile]
          | ok p =>
              rw [compare_of_isMatch rfl hcompile, compare_of_isMatch rfl hcompile]
              exact search_complement rfl left p
      | _ => rfl

/-- Complementary operators give opposite answers, and the same errors under their own names, to
sides whose errors name no operator. -/
theorem between_complement {op : Operator} {left right : Except EvaluationError Value}
    (hleft : ∀ e, left = .error e → e.under op.complement = e)
    (hright : ∀ e, right = .error e → e.under op.complement = e) :
    between op.complement left right = opposite op.complement (between op left right) := by
  cases left with
  | error e => exact congrArg Except.error (hleft e rfl).symm
  | ok v =>
      cases right with
      | error e => exact congrArg Except.error (hright e rfl).symm
      | ok w => exact compare_complement op v w

theorem compare_eq_ok_iff_of_isOrder {op : Operator} {v w : Value} {b : Bool}
    (hop : op.isOrder) :
    compare op v w = .ok b ↔ ∃ x y, v = .number x ∧ w = .number y ∧ op.orders x y = b := by
  cases op with
  | less | lessOrEqual | greater | greaterOrEqual =>
      cases v with
      | number x => cases w <;> simp [compare]
      | _ => simp [compare]
  | _ => cases hop

section Answers

variable {property value : String} {op : Operator} {context : Context}

theorem exists_compile_complement (h : ∃ c, compile property op.name value = .ok c) :
    ∃ c, compile property op.complement.name value = .ok c := by
  obtain ⟨hvalid, o, t, hparse, htarget⟩ := exists_compile_name_iff.mp h
  exact exists_compile_name_iff.mpr ⟨hvalid, o, t, hparse, targetOf_complement htarget⟩

omit [PatternEngine] in
theorem under_of_resolve {o : Operand} {e : EvaluationError} (h : o.resolve context = .error e)
    (op : Operator) : e.under op = e := by
  cases o with
  | literal v => cases h
  | reference name => exact (Context.resolve_eq_error_iff.mp h).under_eq op

theorem Answers.complement {answer : Except EvaluationError Bool}
    (h : Answers context property op.name value answer) :
    Answers context property op.complement.name value (opposite op.complement answer) := by
  obtain ⟨hvalid, o, t, hparse, htarget, rfl⟩ := answers_name_iff.mp h
  refine answers_name_iff.mpr ⟨hvalid, o, t, hparse, targetOf_complement htarget, ?_⟩
  apply between_complement
  · exact fun e he => (Context.resolve_eq_error_iff.mp he).under_eq op.complement
  · exact fun e he => under_of_resolve he op.complement

/-- Complementary operators take the same constraints, and give opposite answers or the same error
under their own names. Where an equality and the two strict orders of one constraint have answers,
just one of these is yes, and a weak order holds if its strict one or the equality does. -/
theorem complementary :
    (∀ (op : Operator) (property value : String),
      ((∃ c, compile property op.name value = .ok c) ↔
        ∃ c, compile property op.complement.name value = .ok c) ∧
      ∀ context answer, Answers context property op.name value answer →
        Answers context property op.complement.name value (opposite op.complement answer)) ∧
    ∀ (property value : String) (context : Context) (less equal greater : Bool),
      Answers context property Operator.less.name value (.ok less) →
      Answers context property Operator.equal.name value (.ok equal) →
      Answers context property Operator.greater.name value (.ok greater) →
        [less, equal, greater].count true = 1 ∧
        Answers context property Operator.lessOrEqual.name value (.ok (less || equal)) ∧
        Answers context property Operator.greaterOrEqual.name value (.ok (greater || equal)) := by
  constructor
  · intro op property value
    refine ⟨⟨exists_compile_complement, fun h => ?_⟩, fun context answer h => h.complement⟩
    have hback := exists_compile_complement h
    rwa [Operator.complement_complement] at hback
  · intro property value context less equal greater hless hequal hgreater
    -- the strict order has an answer, so both sides are numbers
    obtain ⟨-, o, t, hparse, htarget, hbetween⟩ := answers_name_iff.mp hless
    obtain ⟨v, w, hleft, hright, hcompare⟩ := between_eq_ok_iff.mp hbetween
    obtain ⟨x, y, rfl, rfl, rfl⟩ := (compare_eq_ok_iff_of_isOrder rfl).mp hcompare
    simp only [answers_name_iff_compare hparse hleft hright] at hequal hgreater ⊢
    obtain ⟨hvalid, -, hequal⟩ := hequal
    obtain ⟨-, ⟨t', htarget'⟩, hgreater⟩ := hgreater
    have hnear : x.near y = equal := Except.ok.inj hequal
    have horders : Operator.greater.orders x y = greater := Except.ok.inj hgreater
    rw [← hnear, ← horders, ← Operator.orders_lessOrEqual, ← Operator.orders_greaterOrEqual]
    exact ⟨Operator.count_orders x y, ⟨hvalid, ⟨t', targetOf_complement htarget'⟩, rfl⟩,
      ⟨hvalid, ⟨t, targetOf_complement htarget⟩, rfl⟩⟩

end Answers

end Condition

namespace Condition

def ofAge : Context :=
  (Context.ofEntity "ann").withAttribute "age" (.number (.integer 18))

theorem complementary_of_age :
    Answers ofAge "age" "EREG" "'^1[89]'" (.error (.typeMismatch .matching "number" "pattern")) ∧
    Answers ofAge "age" "NEREG" "'^1[89]'"
      (.error (.typeMismatch .notMatching "number" "pattern")) ∧
    Answers ofAge "age" "LT" "17.9999999" (.ok false) ∧
    Answers ofAge "age" "EQ" "17.9999999" (.ok true) ∧
    Answers ofAge "age" "GT" "17.9999999" (.ok false) ∧
    Answers ofAge "age" "LTE" "17.9999999" (.ok true) ∧
    Answers ofAge "age" "GTE" "17.9999999" (.ok true) := by
  have hmatching : Answers ofAge "age" Operator.matching.name "'^1[89]'"
      (.error (.typeMismatch .matching "number" "pattern")) := by decide +kernel
  have hless : Answers ofAge "age" Operator.less.name "17.9999999" (.ok false) := by
    decide +kernel
  have hequal : Answers ofAge "age" Operator.equal.name "17.9999999" (.ok true) := by
    decide +kernel
  have hgreater : Answers ofAge "age" Operator.greater.name "17.9999999" (.ok false) := by
    decide +kernel
  have hopposite := (complementary.1 .matching "age" "'^1[89]'").2 _ _ hmatching
  obtain ⟨-, hlessOrEqual, hgreaterOrEqual⟩ :=
    complementary.2 _ _ _ _ _ _ hless hequal hgreater
  exact ⟨hmatching, hopposite, hless, hequal, hgreater, hlessOrEqual, hgreaterOrEqual⟩

end Condition

end FeatureFlags
