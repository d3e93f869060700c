import FeatureFlags.Proofs.Flag.Record
import FeatureFlags.Proofs.Json.Reading
import FeatureFlags.Proofs.Timestamp.Reading

namespace FeatureFlags

open Document (Reader Fields)
open Document.Reader (record_written uint64_written text_written bool_written optional_written
  attributes_written)
open Document.Fields (withDefault_written required_written yields_of_required
  yields_of_withDefault)

variable {room : Nat}

theorem Variant.attachment_of_yields {v : Variant} (h : Variant.read.Yields (room + 1) v) :
    ∀ attributes ∈ v.attachment, Reader.attributes.Yields room attributes := by
  obtain ⟨f, rfl, hbuild⟩ := h.record
  simp only [Option.bind_eq_bind, Option.bind_eq_some_iff] at hbuild
  obtain ⟨id, -, flagId, -, key, -, attachment, hattachment, hv⟩ := hbuild
  cases hv
  rcases yields_of_withDefault hattachment with rfl | hread
  · simp
  · exact hread.optional

theorem Variant.fits_of_yields {v : Variant} (h : Variant.read.Yields (room + 1) v) :
    v.Fits room :=
  fun attributes hattributes => (attachment_of_yields h attributes hattributes).attributes.2

theorem Variant.readsBack_of_yields {v : Variant} (h : Variant.read.Yields (room + 1) v)
    (hdoubles : ∀ attributes ∈ v.attachment, ∀ x,
      (Json.object attributes).HasNumber (.real x) → x.ReadsBack) : v.ReadsBack := by
  intro attributes hattributes
  obtain ⟨hkept, -⟩ := (attachment_of_yields h attributes hattributes).attributes
  exact hkept.readsBack (hdoubles attributes hattributes)

theorem Flag.variants_of_yields {f : Flag} (h : Flag.read.Yields (room + 2) f) :
    ∀ v ∈ f.variants, Variant.read.Yields room v := by
  obtain ⟨fields, hroom, hbuild⟩ := h.record
  simp only [Option.bind_eq_bind, Option.bind_eq_some_iff] at hbuild
  obtain ⟨id, -, key, -, description, -, enabled, -, entityType, -, segments, -, variants,
    hvariants, tags, -, hf⟩ := hbuild
  cases hf
  rcases yields_of_withDefault hvariants with rfl | hread
  · simp
  · rw [hroom] at hread
    exact hread.list

theorem Flag.readsBack_of_yields {f : Flag} (h : Flag.read.Yields (room + 3) f)
    (hdoubles : ∀ x, f.Carries (.real x) → x.ReadsBack) :
    ∀ v ∈ f.variants, v.ReadsBack ∧ v.Fits room := by
  intro v hv
  have hread := variants_of_yields h v hv
  refine ⟨Variant.readsBack_of_yields hread ?_, Variant.fits_of_yields hread⟩
  intro attributes hattributes x hx
  exact hdoubles x ⟨v, hv, attributes, hattributes, hx⟩

theorem Export.flags_of_yields {e : Export} (h : Export.read.Yields (room + 2) e) :
    ∀ f ∈ e.flags, Flag.read.Yields room f := by
  obtain ⟨fields, hroom, hbuild⟩ := h.record
  simp only [Option.bind_eq_bind, Option.bind_eq_some_iff] at hbuild
  obtain ⟨timestamp, -, flags, hflags, he⟩ := hbuild
  cases he
  have hread := yields_of_required hflags
  rw [hroom] at hread
  exact hread.list

theorem Export.valid_of_yields {e : Export} (h : Export.read.Yields (room + 1) e) :
    ∀ t ∈ e.timestamp, t.Valid := by
  obtain ⟨fields, -, hbuild⟩ := h.record
  simp only [Option.bind_eq_bind, Option.bind_eq_some_iff] at hbuild
  obtain ⟨timestamp, htimestamp, flags, -, he⟩ := hbuild
  cases he
  rcases yields_of_withDefault htimestamp with rfl | hread
  · simp
  · intro t ht
    obtain ⟨d, hd⟩ := hread.optional t ht
    obtain ⟨s, -, hs⟩ := Option.bind_eq_some_iff.mp hd
    exact Timestamp.valid_of_read? hs

theorem yields_attributes_of_withDefault {f : Fields} {name : String} {attributes : Attributes}
    (hroom : f.room = room + 1) (h : f.withDefault name Reader.attributes [] = some attributes) :
    Reader.attributes.Yields (room + 1) attributes := by
  rcases yields_of_withDefault h with rfl | hread
  · exact ⟨.object [], rfl⟩
  · rwa [hroom] at hread

theorem Context.attributes_of_yields {c : Context} (h : Context.read.Yields (room + 2) c) :
    Reader.attributes.Yields (room + 1) c.attributes := by
  obtain ⟨fields, hroom, hbuild⟩ := h.record
  simp only [Option.bind_eq_bind, Option.bind_eq_some_iff] at hbuild
  obtain ⟨entityId, -, entityType, -, attributes, hattributes, debug, -, flagId, -, flagKey, -,
    hc⟩ := hbuild
  cases hc
  exact yields_attributes_of_withDefault hroom hattributes

theorem Context.read_toJson {c : Context}
    (h : (Json.object c.attributes).Kept Json.Numeric.ReadsBack)
    (hroom : (Json.object c.attributes).nesting ≤ room) :
    Context.read (room + 1) c.toJson.toDocument = some c := by
  have hattributes := attributes_written h room
  rw [if_pos hroom] at hattributes
  have hflagId : (c.flagId.map fun id => Json.nat id.toNat).elim (some none)
      (fun j => Reader.optional Reader.uint64 room j.toDocument) = some c.flagId :=
    optional_written (fun id _ => uint64_written room id) (by simp [Json.nat])
  have hflagKey : (c.flagKey.map Json.string).elim (some none)
      (fun j => Reader.optional Reader.text room j.toDocument) = some c.flagKey :=
    optional_written (fun key _ => text_written room key) (by simp)
  rw [read, toJson, record_written room]
  case hnames => rfl
  case hnodup => decide
  simp [withDefault_written, text_written, bool_written, hattributes, hflagId, hflagKey]

end FeatureFlags
