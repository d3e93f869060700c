import Mathlib
import FeatureFlags.Batch
import FeatureFlags.Pattern.Machine
import FeatureFlags.Proofs.Snapshot.Independence
import FeatureFlags.Proofs.Snapshot.Tags

namespace FeatureFlags

theorem getElem?_flatMap_map {α β γ : Type} {f : α → β → γ} {xs : List α} {ys : List β}
    {i j : Nat} {x : α} {y : β} (hx : xs[i]? = some x) (hy : ys[j]? = some y) :
    (xs.flatMap fun x => ys.map (f x))[i * ys.length + j]? = some (f x y) := by
  obtain ⟨hj, -⟩ := List.getElem?_eq_some_iff.mp hy
  induction xs generalizing i with
  | nil => simp at hx
  | cons first rest ih =>
      rw [List.flatMap_cons]
      -- the place is in the block of the first element, or as far behind it
      cases i with
      | zero =>
          obtain rfl : first = x := by simpa using hx
          rw [List.getElem?_append_left (by simpa using hj), Nat.zero_mul, Nat.zero_add,
            List.getElem?_map, hy, Option.map_some]
      | succ i =>
          have hplace : (i + 1) * ys.length + j = ys.length + (i * ys.length + j) := by
            rw [Nat.succ_mul]
            omega
          rw [hplace, List.getElem?_append_right (by simp), List.length_map,
            Nat.add_sub_cancel_left]
          exact ih (by simpa using hx)

namespace BatchRequest

def tagIds (r : BatchRequest) (s : Snapshot) : List Id :=
  (s.getByTags r.tags r.tagOperator).map (·.flag.id)

theorem references_eq (r : BatchRequest) (s : Snapshot) :
    r.references s = r.flagIds.map .id ++ r.flagKeys.map .key ++ (r.tagIds s).map .id := by
  simp [references, tagIds]

end BatchRequest

namespace Snapshot

variable [PatternEngine]

/-- The entries of a batch are those of each entity in turn, and for each entity those of each
reference: what the context of the entity and the reference evaluates to. -/
structure AnswersBatch (s : Snapshot) (r : BatchRequest) (refs : List FlagRef)
    (results : List (Except EvalError EvalResult)) : Prop where
  length : results.length = r.entities.length * refs.length
  byId : ∀ i j e id, r.entities[i]? = some e → refs[j]? = some (.id id) →
    results[i * refs.length + j]? = some (s.evaluate
      { entityId := e.entityId, entityType := e.entityType, attributes := e.attributes,
        debug := r.debug, flagId := some id, flagKey := none })
  byKey : ∀ i j e key, r.entities[i]? = some e → refs[j]? = some (.key key) →
    results[i * refs.length + j]? = some (s.evaluate
      { entityId := e.entityId, entityType := e.entityType, attributes := e.attributes,
        debug := r.debug, flagId := none, flagKey := some key })

section Batch

variable {s : Snapshot} {r : BatchRequest} {i j : Nat} {e : BatchEntity} {ref : FlagRef}

theorem length_evaluateBatch :
    (s.evaluateBatch r).length = r.entities.length * (r.references s).length := by
  simp [evaluateBatch, BatchRequest.contexts, List.length_flatMap]

theorem getElem?_evaluateBatch (hentity : r.entities[i]? = some e)
    (href : (r.references s)[j]? = some ref) :
    (s.evaluateBatch r)[i * (r.references s).length + j]? =
      some (s.evaluate (r.context e ref)) := by
  rw [evaluateBatch, List.getElem?_map, BatchRequest.contexts,
    getElem?_flatMap_map hentity href, Option.map_some]

theorem answersBatch (s : Snapshot) (r : BatchRequest) :
    s.AnswersBatch r (r.references s) (s.evaluateBatch r) :=
  ⟨length_evaluateBatch, fun _ _ _ _ hentity href => getElem?_evaluateBatch hentity href,
    fun _ _ _ _ hentity href => getElem?_evaluateBatch hentity href⟩

end Batch

section Failure

variable {flags : List Flag} {generation : Nat} {s : Snapshot} {r : BatchRequest} {i j : Nat}
  {e : BatchEntity} {ref : FlagRef}

theorem evaluate_context_empty :
    s.evaluate (r.context e (.key "")) = .error (.emptyContext "flag id or flag key") := rfl

theorem evaluate_context_eq_flagNotFound_iff {ref' : FlagRef} :
    s.evaluate (r.context e ref) = .error (.flagNotFound ref') ↔
      ref' = ref ∧ ref ≠ .key "" ∧ s.get? ref = none := by
  by_cases hempty : ref = .key ""
  · subst hempty
    simp [evaluate_context_empty]
  · have href : (r.context e ref).flagRef? = some ref := by
      cases ref with
      | id id => rfl
      | key key => exact Context.flagRef?_of_key rfl rfl (by simpa using hempty)
    rw [evaluate_eq_flagNotFound_iff href]
    simp [hempty]

omit [PatternEngine] in
theorem exists_tagId_of_references (href : (r.references s)[j]? = some ref)
    (htagged : r.flagIds.length + r.flagKeys.length ≤ j) : ∃ id ∈ r.tagIds s, ref = .id id := by
  rw [BatchRequest.references_eq, List.getElem?_append_right (by simpa using htagged),
    List.getElem?_map] at href
  obtain ⟨id, hid, rfl⟩ := Option.map_eq_some_iff.mp href
  exact ⟨id, List.mem_of_getElem? hid, rfl⟩

theorem isSome_get?_of_mem_tagIds (hbuild : (build flags generation).2 = .ok s) {id : Id}
    (hid : id ∈ r.tagIds s) : (s.get? (.id id)).isSome := by
  obtain ⟨p, hp, rfl⟩ := List.mem_map.mp hid
  exact isSome_get?_of_mem_getByTags hbuild hp

/-- Every batch is answered entity by entity: by numbers, by keys, and by the numbers of the
flags that match its tags, in their order. An entry is not found just if its own reference
is to no flag, and so never where the tags found one; an empty key is no reference. -/
theorem answersBatch_of_build (hbuild : (build flags generation).2 = .ok s) (r : BatchRequest) :
    r.references s = r.flagIds.map .id ++ r.flagKeys.map .key ++ (r.tagIds s).map .id ∧
    (r.tagIds s).Pairwise (· < ·) ∧ (r.tags = [] → r.tagIds s = []) ∧
    s.AnswersBatch r (r.references s) (s.evaluateBatch r) ∧
    ∀ i j e ref, r.entities[i]? = some e → (r.references s)[j]? = some ref →
      (∀ ref', (s.evaluateBatch r)[i * (r.references s).length + j]? =
          some (.error (.flagNotFound ref')) ↔
        ref' = ref ∧ ref ≠ .key "" ∧ s.get? ref = none) ∧
      (ref = .key "" → (s.evaluateBatch r)[i * (r.references s).length + j]? =
        some (.error (.emptyContext "flag id or flag key"))) ∧
      (r.flagIds.length + r.flagKeys.length ≤ j → ∀ ref',
        (s.evaluateBatch r)[i * (r.references s).length + j]? ≠
          some (.error (.flagNotFound ref'))) := by
  refine ⟨r.references_eq s, ?_, ?_, s.answersBatch r, ?_⟩
  · exact List.pairwise_map.mpr (getByTags_pairwise hbuild _ _)
  · intro htags
    simp [BatchRequest.tagIds, htags]
  · intro i j e ref hentity href
    rw [getElem?_evaluateBatch hentity href]
    refine ⟨fun ref' => ?_, ?_, ?_⟩
    · rw [Option.some_inj, evaluate_context_eq_flagNotFound_iff]
    · rintro rfl
      rw [evaluate_context_empty]
    · intro htagged ref' hfails
      rw [Option.some_inj, evaluate_context_eq_flagNotFound_iff] at hfails
      obtain ⟨-, -, hnone⟩ := hfails
      obtain ⟨id, hid, rfl⟩ := exists_tagId_of_references href htagged
      have hknown := isSome_get?_of_mem_tagIds hbuild hid
      rw [hnone] at hknown
      cases hknown

end Failure

end Snapshot

namespace Snapshot

/-- A flag that comes again without its tag, between others. -/
def retaggedFlags : List Flag :=
  [.plain 2 "b" [⟨1, "x"⟩], .plain 1 "a" [⟨2, "x"⟩], .plain 2 "b" []]

/-- References to a flag by all ways, to one of them twice, to none and by no key. -/
def mixedBatch : BatchRequest where
  entities := [⟨"ann", "user", []⟩, ⟨"bob", "", []⟩]
  flagIds := [1, 9, 1]
  flagKeys := ["", "b"]
  tags := ["x"]
  tagOperator := .any
  debug := false

theorem tagIds_mixedBatch {s : Snapshot} (hbuild : (build retaggedFlags 1).2 = .ok s) :
    mixedBatch.tagIds s = [1, 2] := by
  have hids : (build retaggedFlags 1).2.toOption.map mixedBatch.tagIds = some [1, 2] := by
    cbv
  rw [hbuild] at hids
  exact Option.some.inj hids

theorem answersBatch_of_mixedBatch :
    ∃ s, (build retaggedFlags 1).2 = .ok s ∧
      mixedBatch.references s = [.id 1, .id 9, .id 1, .key "", .key "b", .id 1, .id 2] ∧
      (s.evaluateBatch mixedBatch).length = 14 ∧
      (s.evaluateBatch mixedBatch)[8]? = some (.error (.flagNotFound (.id 9))) ∧
      (s.evaluateBatch mixedBatch)[9]? =
        some (s.evaluate ⟨"bob", "", [], false, some 1, none⟩) ∧
      (s.evaluateBatch mixedBatch)[10]? =
        some (.error (.emptyContext "flag id or flag key")) ∧
      ∀ ref, (s.evaluateBatch mixedBatch)[13]? ≠ some (.error (.flagNotFound ref)) := by
  obtain ⟨s, hbuild⟩ : ∃ s, (build retaggedFlags 1).2 = .ok s := by
    simp [exists_build_eq_ok_iff, retaggedFlags]
  obtain ⟨hrefs, -, -, hanswers, hfails⟩ := answersBatch_of_build hbuild mixedBatch
  rw [tagIds_mixedBatch hbuild] at hrefs
  have hunknown : s.get? (.id 9) = none :=
    ((selects_id 9).get?_eq_none_iff hbuild).mpr (by decide)
  have hentry := hfails 1
  rw [hrefs] at hanswers hentry
  refine ⟨s, hbuild, hrefs, hanswers.length, ?_, ?_, ?_, ?_⟩
  · exact ((hentry 1 _ _ rfl rfl).1 _).mpr ⟨rfl, by decide, hunknown⟩
  · exact hanswers.byId 1 2 _ 1 rfl rfl
  · exact (hentry 3 _ _ rfl rfl).2.1 rfl
  · exact (hentry 6 _ _ rfl rfl).2.2 (by decide)

end Snapshot

end FeatureFlags
