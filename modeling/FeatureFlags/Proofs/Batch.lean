import FeatureFlags.Batch
import FeatureFlags.Proofs.Flag.Reading

namespace FeatureFlags

open Document (Reader)
open Document.Reader (record_written uint64_written text_written bool_written attributes_written
  list_written list_written_of_read)
open Document.Fields (withDefault_written required_written yields_of_required)

variable {room : Nat}

/-- There is room for what an entity carries. -/
def BatchEntity.Fits (room : Nat) (e : BatchEntity) : Prop :=
  (Json.object e.attributes).nesting ≤ room

instance (room : Nat) (e : BatchEntity) : Decidable (e.Fits room) :=
  inferInstanceAs (Decidable (_ ≤ _))

theorem BatchEntity.attributes_of_yields {e : BatchEntity}
    (h : BatchEntity.read.Yields (room + 2) e) :
    Reader.attributes.Yields (room + 1) e.attributes := by
  obtain ⟨fields, hroom, hbuild⟩ := h.record
  simp only [Option.bind_eq_bind, Option.bind_eq_some_iff] at hbuild
  obtain ⟨entityId, -, entityType, -, attributes, hattributes, he⟩ := hbuild
  cases he
  exact yields_attributes_of_withDefault hroom hattributes

theorem BatchRequest.entities_of_yields {r : BatchRequest}
    (h : BatchRequest.read.Yields (room + 2) r) :
    ∀ e ∈ r.entities, BatchEntity.read.Yields room e := by
  obtain ⟨fields, hroom, hbuild⟩ := h.record
  simp only [Option.bind_eq_bind, Option.bind_eq_some_iff] at hbuild
  obtain ⟨entities, hentities, flagIds, -, flagKeys, -, tags, -, tagOperator, -, debug, -, hr⟩ :=
    hbuild
  cases hr
  have hread := yields_of_required hentities
  rw [hroom] at hread
  exact hread.list

theorem BatchEntity.read_toJson {e : BatchEntity}
    (h : (Json.object e.attributes).Kept Json.Numeric.ReadsBack) (room : Nat) :
    BatchEntity.read (room + 1) e.toJson.toDocument = if e.Fits room then some e else none := by
  have hattributes := attributes_written h room
  rw [read, toJson, record_written room]
  case hnames => rfl
  case hnodup => decide
  by_cases hroom : (Json.object e.attributes).nesting ≤ room <;>
    simp [withDefault_written, required_written, text_written, hattributes, Fits, hroom]

theorem TagOperator.named_name (op : TagOperator) (room : Nat) :
    Reader.named ofName? room (Json.string op.name).toDocument = some op := by
  cases op <;> rfl

theorem BatchRequest.read_toJson {r : BatchRequest}
    (h : ∀ e ∈ r.entities, (Json.object e.attributes).Kept Json.Numeric.ReadsBack) (room : Nat) :
    BatchRequest.read (room + 3) r.toJson.toDocument =
      if ∀ e ∈ r.entities, e.Fits room then some r else none := by
  have hentities : Reader.list BatchEntity.read (room + 2)
      (Json.array (r.entities.map BatchEntity.toJson)).toDocument =
        if ∀ e ∈ r.entities, e.Fits room then some r.entities else none :=
    list_written fun e he => BatchEntity.read_toJson (h e he) room
  have hids := list_written_of_read (uint64_written (room + 1)) r.flagIds
  have htexts := list_written_of_read (text_written (room + 1))
  rw [read, toJson, record_written (room + 2)]
  case hnames => rfl
  case hnodup => decide
  split
  · next hroom =>
      rw [if_pos hroom] at hentities
      simp [withDefault_written, required_written, bool_written, hentities, hids, htexts,
        TagOperator.named_name]
  · next hroom =>
      rw [if_neg hroom] at hentities
      simp [withDefault_written, required_written, hentities]

end FeatureFlags
