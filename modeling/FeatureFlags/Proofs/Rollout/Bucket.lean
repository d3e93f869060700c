import Mathlib
import FeatureFlags.Pattern.Machine
import FeatureFlags.Proofs.Checksum
import FeatureFlags.Proofs.Flag.Preparation
import FeatureFlags.Proofs.Pairing

namespace FeatureFlags

namespace Rollout

/-- The bytes that an entity of a flag is known by: the flag's number in decimal, and behind it
the entity's name. -/
def bucketBytes (flagId : Id) (entityId : String) : List UInt8 :=
  (Nat.repr flagId.toNat ++ entityId).toUTF8.data.toList

/-- The bucket that a decision was made on, if it came to that. -/
def Decision.bucket? : Decision → Option UInt32
  | outside bucket _ | excluded bucket .. | admitted bucket .. => some bucket
  | _ => none

theorem bucketOf_toString (flagId : Id) (entityId : String) :
    bucketOf entityId (toString flagId) =
      Checksum.division (bucketBytes flagId entityId) % buckets := by
  have hbytes : bucketBytes flagId entityId =
      (toString flagId).toUTF8.data.toList ++ entityId.toUTF8.data.toList := by
    have hdecimal : toString flagId = Nat.repr flagId.toNat := rfl
    rw [bucketBytes, hdecimal, String.toUTF8_eq_toByteArray, String.toByteArray_append]
    simp
  rw [bucketOf, ← Checksum.update_append, ← hbytes, ← Checksum.crc32_eq_division]
  rfl

end Rollout

namespace Shares

open Rollout

theorem bucket?_decideBucket {s : Shares} {bucket percent b : UInt32}
    (h : (s.decideBucket bucket percent).bucket? = some b) : b = bucket := by
  unfold decideBucket at h
  dsimp only at h
  split at h
  · cases h
  split at h
  · cases h
  split at h
  case h_1 => exact (Option.some.inj h).symm
  case h_2 share _ =>
    split at h
    · exact (Option.some.inj h).symm
    · exact (Option.some.inj h).symm

theorem decideEntity_of_ne {s : Shares} {entityId salt : String} {percent : UInt32}
    (hentity : entityId ≠ "") :
    s.decideEntity entityId salt percent = s.decideBucket (bucketOf entityId salt) percent := by
  rw [decideEntity, if_neg (by simpa using hentity)]

end Shares

namespace PreparedSegment

variable [PatternEngine]

theorem evaluate_eq_rollout_iff {x : PreparedSegment} {c : Context} {d : Rollout.Decision}
    (hentity : c.entityId ≠ "") :
    x.evaluate c = .ok (.rollout d) ↔
      Condition.evaluateAll x.conditions c = .ok true ∧
        d = x.shares.decideBucket (Rollout.bucketOf c.entityId x.salt) x.rolloutPercent := by
  rw [evaluate, if_neg (by simpa using hentity)]
  cases Condition.evaluateAll x.conditions c with
  | error e => simp
  | ok holds =>
      cases holds with
      | false => simp
      | true => simp [Shares.decideEntity_of_ne hentity, eq_comm]

end PreparedSegment

namespace PreparedFlag

open Rollout

variable [PatternEngine]

theorem salt_of_prepare {f : Flag} {p : PreparedFlag} (hprepare : prepare f = .ok p)
    {x : PreparedSegment} (hx : x ∈ p.segments) : x.salt = toString f.id := by
  obtain ⟨s, -, hs⟩ := exists_of_mem_of_forall₂ (prepare_eq_ok_iff_forall₂.mp hprepare).2 hx
  obtain ⟨shares, conditions, -, -, rfl⟩ := PreparedSegment.prepare_eq_ok_iff.mp hs
  rfl

/-- The bucket of an entity is the checksum of the flag's number and the entity's name, read as
one byte string in whatever pieces. All segments that come to their shares decide on it, whatever
else the context says. -/
theorem bucketed_of_prepare {f : Flag} {p : PreparedFlag} (hprepare : prepare f = .ok p)
    {entityId : String} (hentity : entityId ≠ "") :
    ∃ bucket : UInt32,
      bucket = Checksum.division (bucketBytes f.id entityId) % 1000 ∧ bucket < 1000 ∧
      (∀ chunks : List (List UInt8), chunks.flatten = bucketBytes f.id entityId →
        Checksum.finish (chunks.foldl Checksum.update Checksum.start) =
          Checksum.division (bucketBytes f.id entityId)) ∧
      ∀ x ∈ p.segments, ∀ c : Context, c.entityId = entityId → ∀ d,
        (x.evaluate c = .ok (.rollout d) ↔
          Condition.evaluateAll x.conditions c = .ok true ∧
            d = x.shares.decideBucket bucket x.rolloutPercent) ∧
        (x.evaluate c = .ok (.rollout d) → ∀ b, d.bucket? = some b → b = bucket) := by
  have hbelow : Checksum.division (bucketBytes f.id entityId) % 1000 < 1000 :=
    UInt32.mod_lt _ (by decide)
  refine ⟨_, rfl, hbelow, fun chunks hchunks => ?_, ?_⟩
  · rw [Checksum.finish_foldl_update, hchunks]
  · rintro x hx c rfl d
    have hbucket : bucketOf c.entityId x.salt =
        Checksum.division (bucketBytes f.id c.entityId) % 1000 := by
      rw [salt_of_prepare hprepare hx, bucketOf_toString]
      rfl
    have hiff := PreparedSegment.evaluate_eq_rollout_iff (x := x) (d := d) hentity
    rw [hbucket] at hiff
    refine ⟨hiff, fun hd b hb => ?_⟩
    obtain ⟨-, rfl⟩ := hiff.mp hd
    exact Shares.bucket?_decideBucket hb

end PreparedFlag

namespace PreparedFlag

open Rollout

/-- A flag whose two segments share the variants out differently, one of them only in Canada and
noted under another flag. -/
def halvedFlag : Flag :=
  ⟨100, "halved", "", true, none,
    [⟨20, 100, "", 1, 100, [], [⟨1, 20, 5, "b", 70⟩, ⟨2, 20, 4, "a", 30⟩]⟩,
      ⟨10, 7, "", 0, 50, [⟨1, 10, "country", "EQ", "'CA'"⟩],
        [⟨3, 10, 4, "a", 50⟩, ⟨4, 10, 5, "b", 50⟩]⟩],
    [⟨4, 100, "a", none⟩, ⟨5, 100, "b", none⟩], []⟩

def halvedFlagPrepared : PreparedFlag :=
  ⟨halvedFlag.sorted,
    [⟨10, 0, 50, [⟨"country", .equal, .value (.text "CA")⟩], ⟨#[⟨4, 500⟩, ⟨5, 1000⟩]⟩, "100"⟩,
      ⟨20, 1, 100, [], ⟨#[⟨4, 300⟩, ⟨5, 1000⟩]⟩, "100"⟩]⟩

theorem bucketed_of_halvedFlag :
    prepare halvedFlag = .ok halvedFlagPrepared ∧ "entity123" ≠ "" ∧
      (∀ x ∈ halvedFlagPrepared.segments, ∀ c : Context, c.entityId = "entity123" → ∀ d,
        x.evaluate c = .ok (.rollout d) → ∀ b, d.bucket? = some b → b = 585) ∧
      halvedFlagPrepared.segments.map (fun x => x.evaluate
        ((Context.ofEntity "entity123").withAttribute "country" (.string "CA"))) =
        [.ok (.rollout (.admitted 585 500 1000 5 50)),
          .ok (.rollout (.admitted 585 300 1000 5 100))] := by
  have hprepare : prepare halvedFlag = .ok halvedFlagPrepared := by cbv
  have hnamed : "entity123" ≠ "" := by decide
  obtain ⟨bucket, hbucket, -, -, hsame⟩ := bucketed_of_prepare hprepare hnamed
  have hnumber : bucket = 585 := by
    rw [hbucket, ← Checksum.crc32_eq_division]
    decide +kernel
  exact ⟨hprepare, hnamed, fun x hx c hc d => hnumber ▸ (hsame x hx c hc d).2, by decide +kernel⟩

end PreparedFlag

end FeatureFlags
