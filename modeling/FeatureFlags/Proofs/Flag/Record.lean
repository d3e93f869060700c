import FeatureFlags.Flag.Record
import FeatureFlags.Proofs.Json.Record

namespace FeatureFlags

open Document (Reader Fields)
open Document.Reader (record_written uint64_written uint32_written text_written bool_written
  optional_written list_written list_written_of_read attributes_written)
open Document.Fields (withDefault_written required_written)

theorem Constraint.read_toJson (c : Constraint) (room : Nat) :
    Constraint.read (room + 1) c.toJson.toDocument = some c := by
  rw [read, toJson, record_written room]
  case hnames => rfl
  case hnodup => decide
  simp [withDefault_written, required_written, uint64_written, text_written]

theorem Distribution.read_toJson (d : Distribution) (room : Nat) :
    Distribution.read (room + 1) d.toJson.toDocument = some d := by
  rw [read, toJson, record_written room]
  case hnames => rfl
  case hnodup => decide
  simp [withDefault_written, required_written, uint64_written, uint32_written, text_written]

theorem Tag.read_toJson (t : Tag) (room : Nat) :
    Tag.read (room + 1) t.toJson.toDocument = some t := by
  rw [read, toJson, record_written room]
  case hnames => rfl
  case hnodup => decide
  simp [withDefault_written, required_written, uint64_written, text_written]

theorem Segment.read_toJson (s : Segment) (room : Nat) :
    Segment.read (room + 3) s.toJson.toDocument = some s := by
  have hconstraints : Reader.list Constraint.read (room + 2)
      (Json.array (s.constraints.map Constraint.toJson)).toDocument = some s.constraints :=
    list_written_of_read (fun c => c.read_toJson room) _
  have hdistributions : Reader.list Distribution.read (room + 2)
      (Json.array (s.distributions.map Distribution.toJson)).toDocument = some s.distributions :=
    list_written_of_read (fun d => d.read_toJson room) _
  rw [read, toJson, record_written (room + 2)]
  case hnames => rfl
  case hnodup => decide
  simp [withDefault_written, required_written, uint64_written, uint32_written, text_written,
    hconstraints, hdistributions]

/-- There is room for what a variant carries. -/
def Variant.Fits (room : Nat) (v : Variant) : Prop :=
  ∀ attributes ∈ v.attachment, (Json.object attributes).nesting ≤ room

/-- What a variant carries reads back. -/
def Variant.ReadsBack (v : Variant) : Prop :=
  ∀ attributes ∈ v.attachment, (Json.object attributes).Kept Json.Numeric.ReadsBack

instance (room : Nat) (v : Variant) : Decidable (v.Fits room) :=
  inferInstanceAs (Decidable (∀ attributes ∈ v.attachment, _))

theorem Variant.read_toJson {v : Variant} (h : v.ReadsBack) (room : Nat) :
    Variant.read (room + 1) v.toJson.toDocument = if v.Fits room then some v else none := by
  rw [read, toJson, record_written room]
  case hnames => rfl
  case hnodup => decide
  obtain ⟨id, flagId, key, attachment⟩ := v
  cases attachment with
  | none =>
      simp [withDefault_written, required_written, uint64_written, text_written, Fits]
  | some attributes =>
      have hread : Reader.optional Reader.attributes room (Json.object attributes).toDocument =
          if (Json.object attributes).nesting ≤ room then some (some attributes) else none := by
        have hattributes := attributes_written (h attributes rfl) room
        rw [Json.toDocument] at hattributes ⊢
        rw [Reader.optional, hattributes]
        · split <;> rfl
        · simp
      by_cases hroom : (Json.object attributes).nesting ≤ room <;>
        simp [withDefault_written, required_written, uint64_written, text_written, Fits, hread,
          hroom]

/-- The numbers that a flag carries. -/
def Flag.Carries (f : Flag) (n : Json.Numeric) : Prop :=
  ∃ v ∈ f.variants, ∃ attributes ∈ v.attachment, (Json.object attributes).HasNumber n

theorem Flag.read_toJson {f : Flag} (h : ∀ v ∈ f.variants, v.ReadsBack) (room : Nat) :
    Flag.read (room + 5) f.toJson.toDocument =
      if ∀ v ∈ f.variants, v.Fits (room + 2) then some f else none := by
  have hsegments : Reader.list Segment.read (room + 4)
      (Json.array (f.segments.map Segment.toJson)).toDocument = some f.segments :=
    list_written_of_read (fun s => s.read_toJson room) _
  have hvariants : Reader.list Variant.read (room + 4)
      (Json.array (f.variants.map Variant.toJson)).toDocument =
        if ∀ v ∈ f.variants, v.Fits (room + 2) then some f.variants else none :=
    list_written fun v hv => Variant.read_toJson (h v hv) (room + 2)
  have htags : Reader.list Tag.read (room + 4)
      (Json.array (f.tags.map Tag.toJson)).toDocument = some f.tags :=
    list_written_of_read (fun t => t.read_toJson (room + 2)) _
  rw [read, toJson, record_written (room + 4)]
  case hnames => rfl
  case hnodup => decide
  have hentityType : (f.entityType.map Json.string).elim (some none)
      (fun j => Reader.optional Reader.text (room + 4) j.toDocument) = some f.entityType :=
    optional_written (fun s _ => text_written (room + 4) s) (by simp)
  split
  · next hroom =>
      rw [if_pos hroom] at hvariants
      simp [withDefault_written, required_written, uint64_written, text_written, bool_written,
        hentityType, hsegments, hvariants, htags]
  · next hroom =>
      rw [if_neg hroom] at hvariants
      simp [withDefault_written, required_written, uint64_written, text_written, bool_written,
        hentityType, hsegments, hvariants]

theorem Export.read_toJson {e : Export} (h : ∀ f ∈ e.flags, ∀ v ∈ f.variants, v.ReadsBack)
    (htimestamp : ∀ t ∈ e.timestamp, Timestamp.read? t.text = some t) (room : Nat) :
    Export.read (room + 7) e.toJson.toDocument =
      if ∀ f ∈ e.flags, ∀ v ∈ f.variants, v.Fits (room + 2) then some e else none := by
  have hflags : Reader.list Flag.read (room + 6)
      (Json.array (e.flags.map Flag.toJson)).toDocument =
        if ∀ f ∈ e.flags, ∀ v ∈ f.variants, v.Fits (room + 2) then some e.flags else none :=
    list_written fun f hf => Flag.read_toJson (h f hf) room
  have hnow : (e.timestamp.map fun t => Json.string t.text).elim (some none)
      (fun j => Reader.optional readTimestamp (room + 6) j.toDocument) = some e.timestamp := by
    apply optional_written _ (by simp)
    intro t ht
    rw [readTimestamp, text_written, Option.bind_some, htimestamp t ht]
  rw [read, toJson, record_written (room + 6)]
  case hnames => rfl
  case hnodup => decide
  split
  · next hroom =>
      rw [if_pos hroom] at hflags
      simp [withDefault_written, required_written, hnow, hflags]
  · next hroom =>
      rw [if_neg hroom] at hflags
      simp [withDefault_written, required_written, hnow, hflags]

end FeatureFlags
