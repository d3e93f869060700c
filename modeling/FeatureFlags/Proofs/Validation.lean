import FeatureFlags.Pattern.Machine
import FeatureFlags.Proofs.Flag.Preparation
import FeatureFlags.Proofs.Pairing
import FeatureFlags.Validation
import Mathlib.Data.List.Permutation

namespace FeatureFlags

namespace Validation

variable [PatternEngine]

/-- A text has a match of a pattern. A text that is no pattern has none. -/
def Matches (pattern text : String) : Prop :=
  ∃ p, PatternEngine.compile pattern = .ok p ∧ PatternEngine.occursIn p text

theorem matches_iff {pattern text : String} {p : Pattern}
    (h : PatternEngine.compile pattern = .ok p) :
    Matches pattern text ↔ PatternEngine.occursIn p text := by
  simp [Matches, h]

instance (pattern text : String) : Decidable (Matches pattern text) :=
  match h : PatternEngine.compile pattern with
  | .ok _ => decidable_of_iff _ (matches_iff h).symm
  | .error _ => isFalse (by simp [Matches, h])

namespace Rule

/-- What a rule says of a flag. -/
def Holds (f : Flag) : Rule → Prop
  | keyMatches pattern => Matches pattern f.key
  | descriptionNotEmpty => ∃ c ∈ f.description.toList, ¬ Text.isBlank c
  | hasTag tag => ∃ t ∈ f.tags, t.value = tag
  | anyTagMatches pattern => ∃ t ∈ f.tags, Matches pattern t.value
  | minSegments count => count ≤ f.segments.length
  | anyVariantKeyMatches pattern => ∃ v ∈ f.variants, Matches pattern v.key
  | allSegmentsConstrained => ∀ s ∈ f.segments, s.constraints ≠ []

instance (f : Flag) : (r : Rule) → Decidable (r.Holds f)
  | keyMatches pattern => inferInstanceAs (Decidable (Matches pattern f.key))
  | descriptionNotEmpty => inferInstanceAs (Decidable (∃ c ∈ f.description.toList, _))
  | hasTag _ => inferInstanceAs (Decidable (∃ t ∈ f.tags, _))
  | anyTagMatches pattern => inferInstanceAs (Decidable (∃ t ∈ f.tags, Matches pattern t.value))
  | minSegments count => inferInstanceAs (Decidable (count ≤ f.segments.length))
  | anyVariantKeyMatches pattern =>
    inferInstanceAs (Decidable (∃ v ∈ f.variants, Matches pattern v.key))
  | allSegmentsConstrained => inferInstanceAs (Decidable (∀ s ∈ f.segments, _))

/-- The pattern in a rule, if there is one, is a pattern. -/
def Legible : Rule → Prop
  | keyMatches pattern | anyTagMatches pattern | anyVariantKeyMatches pattern =>
    ∃ p, PatternEngine.compile pattern = .ok p
  | _ => True

variable {r : Rule} {x : Check} {build : Pattern → Check} {pattern : String} {f : Flag}

theorem pattern_eq_ok_iff : r.pattern pattern build = .ok x ↔
    ∃ p, PatternEngine.compile pattern = .ok p ∧ x = build p := by
  rw [Rule.pattern]
  cases PatternEngine.compile pattern <;> simp [eq_comm]

theorem exists_compile_eq_ok (h : r.Legible) : ∃ x, r.compile = .ok x := by
  cases r with
  | keyMatches pattern | anyTagMatches pattern | anyVariantKeyMatches pattern =>
      obtain ⟨p, hp⟩ := h
      exact ⟨_, pattern_eq_ok_iff.mpr ⟨p, hp, rfl⟩⟩
  | _ => exact ⟨_, rfl⟩

/-- A compiled rule tests what the rule says. -/
theorem passes_iff_holds (h : r.compile = .ok x) : x.passes f ↔ r.Holds f := by
  cases r with
  | keyMatches pattern =>
      obtain ⟨p, hp, rfl⟩ := pattern_eq_ok_iff.mp h
      exact (matches_iff hp).symm
  | anyTagMatches pattern =>
      obtain ⟨p, hp, rfl⟩ := pattern_eq_ok_iff.mp h
      simp [Check.passes, Holds, matches_iff hp]
  | anyVariantKeyMatches pattern =>
      obtain ⟨p, hp, rfl⟩ := pattern_eq_ok_iff.mp h
      simp [Check.passes, Holds, matches_iff hp]
  | descriptionNotEmpty | hasTag | minSegments | allSegmentsConstrained =>
      cases h
      simp [Check.passes, Holds]

end Rule

/-- What rules say of a flag, put together by an operation. With no rules every flag is fine. -/
def Accepts (operation : Operation) (rules : List Rule) (f : Flag) : Prop :=
  rules = [] ∨ (operation = .all ∧ ∀ r ∈ rules, r.Holds f) ∨
    (operation = .any ∧ ∃ r ∈ rules, r.Holds f)

instance (operation : Operation) (rules : List Rule) (f : Flag) :
    Decidable (Accepts operation rules f) :=
  inferInstanceAs (Decidable (_ ∨ (_ ∧ _) ∨ (_ ∧ _)))

variable {rules : List Rule} {checks : List (Rule × Check)}

omit [PatternEngine] in
theorem ite_eq_ok_iff {p : Prop} [Decidable p] {e : Error} :
    (if p then .ok () else .error e : Except Error Unit) = .ok () ↔ p := by
  split <;> simp [*]

/-- Rules, each with the test that it compiles to. -/
def Compiled (rules : List Rule) (checks : List (Rule × Check)) : Prop :=
  List.Forall₂ (fun r x => x.1 = r ∧ r.compile = .ok x.2) rules checks

theorem compileRules_eq_ok_iff : compileRules rules = .ok checks ↔ Compiled rules checks := by
  induction rules generalizing checks with
  | nil => simp [compileRules, Compiled, eq_comm]
  | cons r rest ih =>
      unfold Compiled at ih ⊢
      rw [List.forall₂_cons_left_iff, compileRules]
      simp only [← ih]
      cases r.compile with
      | error e => simp
      | ok x => cases compileRules rest <;> simp [eq_comm]

theorem exists_compileRules_eq_ok (h : ∀ r ∈ rules, r.Legible) :
    ∃ checks, compileRules rules = .ok checks := by
  simp only [compileRules_eq_ok_iff]
  refine exists_forall₂_of_forall fun r hr => ?_
  obtain ⟨x, hx⟩ := Rule.exists_compile_eq_ok (h r hr)
  exact ⟨(r, x), rfl, hx⟩

theorem Check.passes_sorted (x : Check) (f : Flag) : x.passes f.sorted = x.passes f := by
  cases x with
  | minSegments count => simp [passes, Flag.sorted]
  | allSegmentsConstrained =>
      have hperm := List.mergeSort_perm f.segments Segment.before
      rw [passes, passes, Flag.sorted, List.all_map]
      exact hperm.all_eq
  | _ => rfl

end Validation

namespace Validator

open Validation

variable [PatternEngine] {v : Validator} {f : Flag} {e : Validation.Error}

/-- Whether a flag breaks the rules, as a whole. -/
def Breaks (v : Validator) (f : Flag) : Prop :=
  match v.operation with
  | .all => ∃ rule ∈ v.checks, rule.2.passes f = false
  | .any => v.checks ≠ [] ∧ ∀ rule ∈ v.checks, rule.2.passes f = false

def complaint? (v : Validator) (f : Flag) : Option Validation.Error :=
  match v.validate f with
  | .ok () => none
  | .error e => some e

theorem broken_eq_nil_iff : v.broken f = [] ↔ ∀ rule ∈ v.checks, rule.2.passes f = true := by
  simp [broken, List.filter_eq_nil_iff]

theorem length_broken_lt_iff :
    (v.broken f).length < v.checks.length ↔ ∃ rule ∈ v.checks, rule.2.passes f = true := by
  rw [broken, List.length_map, List.length_filter_lt_length_iff_exists]
  simp

theorem check_eq_error_iff :
    v.check f = .error e ↔ v.Breaks f ∧ e = .failed f.key (v.broken f) := by
  rw [check, Breaks]
  cases v.operation with
  | all =>
      have hbroken : (v.broken f).isEmpty = false ↔ ∃ rule ∈ v.checks, rule.2.passes f = false := by
        simp [← Bool.not_eq_true, List.isEmpty_iff, broken_eq_nil_iff]
      rw [← hbroken]
      cases (v.broken f).isEmpty <;> simp [eq_comm]
  | any =>
      have hbroken : (v.checks.isEmpty || decide ((v.broken f).length < v.checks.length)) = false ↔
          v.checks ≠ [] ∧ ∀ rule ∈ v.checks, rule.2.passes f = false := by
        rw [Bool.or_eq_false_iff, decide_eq_false_iff_not, length_broken_lt_iff]
        simp [← Bool.not_eq_true, List.isEmpty_iff]
      rw [← hbroken]
      cases v.checks.isEmpty || decide ((v.broken f).length < v.checks.length) <;> simp [eq_comm]

theorem complaint?_eq_some_iff : v.complaint? f = some e ↔
    f.enabled = true ∧ v.Breaks f ∧ e = .failed f.key (v.broken f) := by
  rw [complaint?, validate, ← check_eq_error_iff]
  cases f.enabled with
  | false => simp
  | true =>
      rw [if_pos rfl]
      rcases v.check f with e' | _ <;> simp

theorem ofConfig_eq_ok_iff {c : Validation.Config} :
    ofConfig c = .ok v ↔ v.operation = c.operation ∧ Compiled c.rules v.checks := by
  obtain ⟨operation, checks⟩ := v
  rw [ofConfig, ← compileRules_eq_ok_iff]
  cases compileRules c.rules <;> simp [eq_comm]

section Compiled

variable {rules : List Rule} (hcompiled : Compiled rules v.checks)

include hcompiled

theorem broken_eq (f : Flag) : v.broken f = rules.filter fun r => ¬ r.Holds f := by
  unfold Compiled at hcompiled
  rw [broken]
  generalize v.checks = checks at hcompiled
  induction hcompiled with
  | nil => rfl
  | @cons r rule _ _ hrule _ ih =>
      obtain ⟨hname, hcompile⟩ := hrule
      have hpasses := Rule.passes_iff_holds (f := f) hcompile
      by_cases hholds : r.Holds f
      · simp [hholds, hpasses.mpr hholds, ih]
      · simp [hholds, mt hpasses.mp hholds, ih, hname]

theorem check_eq_ok_iff : v.check f = .ok () ↔ Accepts v.operation rules f := by
  have hlength : v.checks.length = rules.length := hcompiled.length_eq.symm
  have hempty : v.checks.isEmpty ↔ rules = [] := by
    rw [List.isEmpty_iff, ← List.length_eq_zero_iff, hlength, List.length_eq_zero_iff]
  have hall : (rules.filter fun r => ¬ r.Holds f).isEmpty ↔ ∀ r ∈ rules, r.Holds f := by
    simp
  have hany : (rules.filter fun r => ¬ r.Holds f).length < v.checks.length ↔
      ∃ r ∈ rules, r.Holds f := by
    rw [hlength, List.length_filter_lt_length_iff_exists]
    simp
  rw [check, broken_eq hcompiled, Accepts]
  cases v.operation with
  | all =>
      have hnone : rules = [] → ∀ r ∈ rules, r.Holds f := by
        rintro rfl r hr
        cases hr
      simp only [ite_eq_ok_iff, hall, true_and, reduceCtorEq, false_and, or_false]
      exact (or_iff_right_of_imp hnone).symm
  | any =>
      simp only [ite_eq_ok_iff, Bool.or_eq_true, hempty, decide_eq_true_eq, hany, true_and,
        reduceCtorEq, false_and, false_or]

end Compiled

theorem broken_sorted (v : Validator) (f : Flag) : v.broken f.sorted = v.broken f := by
  simp only [broken, Check.passes_sorted]

theorem check_sorted (v : Validator) (f : Flag) : v.check f.sorted = v.check f := by
  simp only [check, broken_sorted, Flag.sorted_key]

theorem validate_sorted (v : Validator) (f : Flag) : v.validate f.sorted = v.validate f := by
  rw [validate, validate, check_sorted]
  rfl

/-- A validator judges flags by rules and an operation that puts them together. -/
structure Judges (v : Validator) (operation : Operation) (rules : List Rule) : Prop where
  accepts : ∀ f, v.check f = .ok () ↔ Accepts operation rules f
  names : ∀ f e, v.check f = .error e → e = .failed f.key (rules.filter fun r => ¬ r.Holds f)
  disabled : ∀ f, f.enabled = false → v.validate f = .ok ()
  enabled : ∀ f, f.enabled = true → v.validate f = v.check f
  prepared : ∀ f p, PreparedFlag.prepare f = .ok p →
    v.check p.flag = v.check f ∧ v.validate p.flag = v.validate f

theorem judges_of_compiled {rules : List Rule} (hcompiled : Compiled rules v.checks) :
    v.Judges v.operation rules := by
  refine ⟨fun f => check_eq_ok_iff hcompiled, ?_, ?_, ?_, ?_⟩
  · intro f e he
    rw [← broken_eq hcompiled]
    exact (check_eq_error_iff.mp he).2
  · intro f hdisabled
    rw [validate, hdisabled]
    rfl
  · intro f henabled
    rw [validate, henabled]
    rfl
  · intro f p hprepare
    rw [PreparedFlag.flag_of_prepare hprepare]
    exact ⟨v.check_sorted f, v.validate_sorted f⟩

theorem Judges.check_eq_error {operation : Operation} {rules : List Rule}
    (h : v.Judges operation rules) (hnot : ¬ Accepts operation rules f) :
    v.check f = .error (.failed f.key (rules.filter fun r => ¬ r.Holds f)) := by
  cases hcheck : v.check f with
  | error e => rw [h.names f e hcheck]
  | ok => exact absurd ((h.accepts f).mp hcheck) hnot

theorem not_accepts_all_of_not_accepts_any {rules : List Rule} (h : ¬ Accepts .any rules f) :
    ¬ Accepts .all rules f := by
  unfold Accepts at h ⊢
  rintro (hnone | ⟨-, hall⟩ | ⟨hother, -⟩)
  · exact h (.inl hnone)
  · have hsome : rules ≠ [] := fun hnone => h (.inl hnone)
    obtain ⟨r, hr⟩ := List.exists_mem_of_ne_nil rules hsome
    exact h (.inr (.inr ⟨rfl, r, hr, hall r hr⟩))
  · cases hother

theorem check_all_of_check_any {v v' : Validator} {rules : List Rule} (hall : v.Judges .all rules)
    (hany : v'.Judges .any rules) (h : v'.check f = .error e) : v.check f = .error e := by
  have hnot : ¬ Accepts .any rules f := by
    rw [← hany.accepts, h]
    simp
  rw [hall.check_eq_error (not_accepts_all_of_not_accepts_any hnot), hany.names f e h]

end Validator

namespace Validator

open Validation

/-- A rule on keys that is there twice, with another between. -/
def teamRules : List Rule :=
  [.keyMatches "^team_", .hasTag "owned", .keyMatches "^team_"]

end Validator

end FeatureFlags
