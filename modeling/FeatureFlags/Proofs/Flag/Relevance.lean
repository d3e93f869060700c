import Mathlib
import FeatureFlags.Pattern.Machine
import FeatureFlags.Proofs.Condition.Comparison
import FeatureFlags.Proofs.Flag.SourceOrder
import FeatureFlags.Proofs.Pairing

namespace FeatureFlags

namespace Context

/-- A property has values that are alike in two contexts, or the same error. -/
inductive Agree (name : String) (c d : Context) : Prop
  | value {v w : Value} (hc : c.resolve name = .ok v) (hd : d.resolve name = .ok w)
      (h : v.Alike w)
  | error {e : EvaluationError} (hc : c.resolve name = .error e) (hd : d.resolve name = .error e)

end Context

namespace Constraint

/-- The constraint looks at a property: its own, or the one that it compares with. -/
def Names (k : Constraint) (name : String) : Prop :=
  name = k.property ∨ Operand.parse k.value.toList = .ok (.reference name)

end Constraint

namespace Flag

def Names (f : Flag) (name : String) : Prop :=
  ∃ s ∈ f.segments, ∃ k ∈ s.constraints, k.Names name

end Flag

namespace Condition

variable [PatternEngine]

theorem targetOf_eq_ok_property {op : Operator} {o : Operand} {name : String}
    (h : targetOf op o = .ok (.property name)) : o = .reference name := by
  unfold targetOf at h
  split at h
  · cases h
    rfl
  · split at h
    · split at h
      · split at h <;> cases h
      · cases h
    · cases h

/-- A condition has the same answer, or the same error, in contexts that agree on what its
constraint names. -/
theorem evaluate_congr {k : Constraint} {x : Condition} {c d : Context}
    (hcompile : compile k.property k.operator k.value = .ok x)
    (hagree : ∀ name, k.Names name → Context.Agree name c d) : x.evaluate c = x.evaluate d := by
  obtain ⟨o, -, -, hparse, htarget, hproperty⟩ := compile_eq_ok_iff.mp hcompile
  unfold evaluate
  rw [hproperty]
  cases hagree k.property (.inl rfl) with
  | error hc hd => rw [hc, hd]
  | value hc hd hleft =>
      rw [hc, hd]
      dsimp only
      cases hx : x.target with
      | pattern p => exact search_congr x.operator p hleft
      | value v => exact compare_congr x.operator hleft rfl
      | property name =>
          rw [hx] at htarget
          have hname : k.Names name := .inr (targetOf_eq_ok_property htarget ▸ hparse)
          cases hagree name hname with
          | error hc hd =>
              dsimp only
              rw [hc, hd]
          | value hc hd hright =>
              dsimp only
              rw [hc, hd]
              exact compare_congr x.operator hleft hright

end Condition

namespace PreparedSegment

variable [PatternEngine]

theorem variantId?_congr {flagId : Id} {s : Segment} {x : PreparedSegment} {c d : Context}
    (hprepare : prepare flagId s = .ok x) (hentity : c.entityId = d.entityId)
    (hagree : ∀ k ∈ s.constraints, ∀ name, k.Names name → Context.Agree name c d) :
    x.variantId? c = x.variantId? d := by
  obtain ⟨shares, conditions, -, hconditions, rfl⟩ := prepare_eq_ok_iff.mp hprepare
  have hcompiled := Condition.compileAll_eq_ok_iff.mp hconditions
  have hevaluate : ∀ condition ∈ conditions, condition.evaluate c = condition.evaluate d := by
    intro condition hcondition
    obtain ⟨k, hk, hcompile⟩ := exists_of_mem_of_forall₂ hcompiled hcondition
    exact Condition.evaluate_congr hcompile (hagree k hk)
  apply Option.ext
  intro variantId
  rw [variantId?_eq_some_iff, variantId?_eq_some_iff, hentity]
  have hmet : (∀ condition ∈ conditions, condition.evaluate c = .ok true) ↔
      ∀ condition ∈ conditions, condition.evaluate d = .ok true :=
    forall₂_congr fun condition hcondition => by rw [hevaluate condition hcondition]
  rw [hmet]

end PreparedSegment

/-- What a result assigns: the segment, and the number, the key and the attachment of the
variant. -/
def EvalResult.assignment (r : EvalResult) :
    Option Id × Option Id × Option String × Option Attributes :=
  (r.segmentId, r.variantId, r.variantKey, r.variantAttachment)

namespace PreparedFlag

variable [PatternEngine] {p : PreparedFlag} {c d : Context}

theorem map_assignment_evaluate (p : PreparedFlag) (c : Context) :
    (p.evaluate c).map EvalResult.assignment =
      ((p.evaluate c).map EvalResult.withoutLog).map EvalResult.assignment := by
  cases p.evaluate c <;> rfl

theorem assigned?_eq_of_forall {xs : List PreparedSegment}
    (h : ∀ x ∈ xs, x.variantId? c = x.variantId? d) : assigned? c xs = assigned? d xs := by
  induction xs with
  | nil => rfl
  | cons x rest ih =>
      obtain ⟨hx, hrest⟩ := List.forall_mem_cons.mp h
      have ih := ih hrest
      unfold assigned? at ih ⊢
      rw [List.findSome?_cons, List.findSome?_cons, hx, ih]

/-- An evaluation gives the same error or assigns the same in two contexts of one entity that
agree on every property that the flag names, whatever else they hold or ask for. -/
theorem evaluate_of_agree {f : Flag} (hprepare : prepare f = .ok p)
    (hentity : c.entityId = d.entityId)
    (hagree : ∀ name, f.Names name → Context.Agree name (f.override c) (f.override d)) :
    (p.evaluate c).map EvalResult.assignment = (p.evaluate d).map EvalResult.assignment := by
  obtain ⟨hflag, hprepared⟩ := prepare_eq_ok_iff_forall₂.mp hprepare
  have hoverride : ∀ c, p.flag.override c = f.override c := by
    intro c
    rw [hflag]
    rfl
  have hassigned : assigned? (f.override c) p.segments = assigned? (f.override d) p.segments := by
    apply assigned?_eq_of_forall
    intro x hx
    obtain ⟨s, hs, hsegment⟩ := exists_of_mem_of_forall₂ hprepared hx
    refine PreparedSegment.variantId?_congr hsegment (by simpa using hentity) ?_
    intro k hk name hname
    exact hagree name ⟨s, List.mem_mergeSort.mp hs, k, hk, hname⟩
  rw [map_assignment_evaluate, map_assignment_evaluate, evaluate_withoutLog, evaluate_withoutLog,
    hoverride, hoverride, hassigned, hentity]
  split <;> rfl

end PreparedFlag

namespace PreparedFlag

def upgradeFlag : Flag :=
  ⟨1, "upgrade", "", true, none,
    [⟨10, 1, "", 0, 100, [⟨1, 10, "plan", "NEQ", "\x7bwanted\x7d"⟩], [⟨1, 10, 7, "offer", 100⟩]⟩],
    [⟨7, 1, "offer", none⟩], []⟩

def freeCustomer : Context :=
  ((Context.ofEntity "ann").withAttribute "plan" (.string "free")).withAttribute
    "wanted" (.string "pro")

/-- The same customer, of whom more is known, asked about in another way. -/
def knownCustomer : Context :=
  { freeCustomer.withAttribute "country" (.string "CA") with
    entityType := "customer", debug := true, flagKey := some "upgrade" }

theorem upgradeFlag_agree (name : String) (h : upgradeFlag.Names name) :
    Context.Agree name freeCustomer knownCustomer := by
  have hplan : Context.Agree "plan" freeCustomer knownCustomer :=
    .value (v := .text "free") (by cbv) (by cbv) rfl
  have hwanted : Context.Agree "wanted" freeCustomer knownCustomer :=
    .value (v := .text "pro") (by cbv) (by cbv) rfl
  have hoperand : Operand.parse "\x7bwanted\x7d".toList = .ok (.reference "wanted") := by cbv
  rcases h with ⟨s, hs, k, hk, hname⟩
  obtain rfl := List.mem_singleton.mp hs
  obtain rfl := List.mem_singleton.mp hk
  rcases hname with rfl | hparse
  · exact hplan
  · rw [hoperand] at hparse
    cases hparse
    exact hwanted

theorem exists_prepare_upgradeFlag : ∃ p, prepare upgradeFlag = .ok p := ⟨_, by cbv⟩

theorem evaluate_of_knownCustomer :
    ∃ p, prepare upgradeFlag = .ok p ∧
      (p.evaluate freeCustomer).map EvalResult.assignment =
        .ok (some 10, some 7, some "offer", none) ∧
      (p.evaluate freeCustomer).map EvalResult.assignment =
        (p.evaluate knownCustomer).map EvalResult.assignment := by
  have hassigned : (prepare upgradeFlag).toOption.map
      (fun p => (p.evaluate freeCustomer).map EvalResult.assignment) =
        some (.ok (some 10, some 7, some "offer", none)) := by cbv
  obtain ⟨p, hprepare⟩ := exists_prepare_upgradeFlag
  rw [hprepare] at hassigned
  exact ⟨p, hprepare, Option.some.inj hassigned,
    evaluate_of_agree hprepare rfl upgradeFlag_agree⟩

end PreparedFlag

end FeatureFlags
