import FeatureFlags.Proofs.Batch
import FeatureFlags.Proofs.Database.Export

/-!
What goes over the wire: exports, flags and their variants, contexts, and requests of batches.
Each is read as many texts spell it and is written in one way, from which it is read again.
-/

namespace FeatureFlags

open Document (Reader Fields)
open Document.Fields (withDefault_without required_without)

/-- A kind of record that is read from texts and written as one. -/
structure Format (α : Type) where
  read : Reader α
  toJson : α → Json
  /-- The doubles in what a record carries. -/
  Carries : α → Number → Prop
  /-- What a record carries reads back, and has room where the record is written. -/
  Fits : α → Prop

namespace Json

def members : Json → List (String × Json)
  | .object members => members
  | _ => []

def without (name : String) : Json → Json
  | .object members => .object (members.filter fun m => m.1 ≠ name)
  | j => j

theorem record_without (fields : List (String × Option Json)) (name : String) :
    (record fields).without name =
      record (fields.map fun field => (field.1, if field.1 = name then none else field.2)) := by
  rw [record, record, without, List.filterMap_map, List.filter_filterMap]
  congr 2
  funext field
  obtain ⟨key, value⟩ := field
  by_cases hkey : key = name
  · cases value <;> simp [hkey]
  · cases value <;> simp [hkey]

end Json

namespace Format

variable {α : Type} {F : Format α} {r : α} {text : String}

/-- A record is read again from what is written for it, in one line or in several. -/
def Legible (F : Format α) (r : α) : Prop :=
  F.read.run? (F.toJson r).compact = some r ∧ F.read.run? (F.toJson r).indented = some r

def LeavesOut (F : Format α) (r : α) (name : String) : Prop :=
  name ∉ (F.toJson r).members.map Prod.fst

/-- Reading undoes writing. -/
structure Faithful (F : Format α) : Prop where
  legible : ∀ text r, F.read.run? text = some r → (∀ x, F.Carries r x → x.ReadsBack) →
    F.Legible r
  /-- Whatever its fields hold, a record is told from every other one by what is written. -/
  written : ∀ r, F.Fits r → F.Legible r
  /-- What may be left out where a record is written may be left out where one is read, and then
  is left out where that one is written. -/
  optional : ∀ r name, F.LeavesOut r name →
    ∀ room members r', F.read room (.object members) = some r' →
    ∃ r'', F.read room (.object (members.filter fun m => m.1 ≠ some name)) = some r'' ∧
      F.toJson r'' = (F.toJson r').without name

theorem LeavesOut.ne {name other : String} {fields : List (String × Option Json)}
    (h : F.LeavesOut r name) (hfields : F.toJson r = .record fields)
    (hwritten : ∃ j, (other, some j) ∈ fields) : other ≠ name := by
  obtain ⟨j, hwritten⟩ := hwritten
  rintro rfl
  apply h
  rw [hfields]
  refine List.mem_map.mpr ⟨(other, j), ?_, rfl⟩
  exact List.mem_filterMap.mpr ⟨_, hwritten, rfl⟩

theorem yields_of_run? (h : F.read.run? text = some r) :
    F.read.Yields Document.nestingLimit r := by
  obtain ⟨d, -, hread⟩ := Option.bind_eq_some_iff.mp h
  exact ⟨d, hread⟩

theorem legible_of_read (h : F.read Document.nestingLimit (F.toJson r).toDocument = some r) :
    F.Legible r := by
  constructor
  · rw [Reader.run?, Json.parse?_compact, Option.bind_some, h]
  · rw [Reader.run?, Json.parse?_indented, Option.bind_some, h]

end Format

namespace Variant

def format : Format Variant where
  read := read
  toJson := toJson
  Carries v x := ∃ attributes ∈ v.attachment, (Json.object attributes).HasNumber (.real x)
  Fits v := v.ReadsBack ∧ v.Fits 126

theorem legible {v : Variant} (h : format.Fits v) : format.Legible v := by
  apply Format.legible_of_read
  exact (read_toJson h.1 126).trans (if_pos h.2)

theorem faithful : format.Faithful where
  legible text v hread hdoubles := by
    have hyields : read.Yields (126 + 1) v := format.yields_of_run? hread
    refine legible ⟨readsBack_of_yields hyields ?_, fits_of_yields hyields⟩
    intro attributes hattributes x hx
    exact hdoubles x ⟨attributes, hattributes, hx⟩
  written v := legible
  optional v name hname room members v' hread := by
    have hid : "id" ≠ name := hname.ne rfl (by simp)
    have hflagId : "flag_id" ≠ name := hname.ne rfl (by simp)
    have hkey : "key" ≠ name := hname.ne rfl (by simp)
    obtain ⟨fields, hbuild, hwithout⟩ := Reader.record_without hread name
    simp only [Option.bind_eq_bind, Option.bind_eq_some_iff] at hbuild
    obtain ⟨id, hreadId, flagId, hreadFlagId, key, hreadKey, attachment, hattachment, hv⟩ :=
      hbuild
    cases hv
    refine ⟨⟨id, flagId, key, if "attachment" = name then none else attachment⟩, ?_, ?_⟩
    · refine hwithout.trans ?_
      simp [required_without hid, required_without hkey, withDefault_without hreadFlagId,
        withDefault_without hattachment, hreadId, hreadKey, hflagId]
    · simp [format, toJson, Json.record_without, hid, hflagId, hkey, apply_ite (Option.map _)]

end Variant

namespace Flag

def format : Format Flag where
  read := read
  toJson := toJson
  Carries f x := f.Carries (.real x)
  Fits f := ∀ v ∈ f.variants, v.ReadsBack ∧ v.Fits 124

theorem legible {f : Flag} (h : format.Fits f) : format.Legible f := by
  apply Format.legible_of_read
  exact (read_toJson (fun v hv => (h v hv).1) 122).trans (if_pos fun v hv => (h v hv).2)

theorem faithful : format.Faithful where
  legible text f hread hdoubles := by
    have hyields : read.Yields (124 + 3) f := format.yields_of_run? hread
    exact legible (readsBack_of_yields hyields hdoubles)
  written f := legible
  optional f name hname room members f' hread := by
    have hid : "id" ≠ name := hname.ne rfl (by simp)
    have hkey : "key" ≠ name := hname.ne rfl (by simp)
    have hdescription : "description" ≠ name := hname.ne rfl (by simp)
    have henabled : "enabled" ≠ name := hname.ne rfl (by simp)
    have hsegments : "segments" ≠ name := hname.ne rfl (by simp)
    have hvariants : "variants" ≠ name := hname.ne rfl (by simp)
    have htags : "tags" ≠ name := hname.ne rfl (by simp)
    obtain ⟨fields, hbuild, hwithout⟩ := Reader.record_without hread name
    simp only [Option.bind_eq_bind, Option.bind_eq_some_iff] at hbuild
    obtain ⟨id, hreadId, key, hreadKey, description, hreadDescription, enabled, hreadEnabled,
      entityType, hentityType, segments, hreadSegments, variants, hreadVariants, tags, hreadTags,
      hf⟩ := hbuild
    cases hf
    refine ⟨⟨id, key, description, enabled, if "entity_type" = name then none else entityType,
      segments, variants, tags⟩, ?_, ?_⟩
    · refine hwithout.trans ?_
      simp [required_without hid, required_without hkey, withDefault_without hreadDescription,
        withDefault_without hreadEnabled, withDefault_without hentityType,
        withDefault_without hreadSegments, withDefault_without hreadVariants,
        withDefault_without hreadTags, hreadId, hreadKey, hdescription, henabled, hsegments,
        hvariants, htags]
    · simp [format, toJson, Json.record_without, hid, hkey, hdescription, henabled, hsegments,
        hvariants, htags, apply_ite (Option.map _)]

end Flag

namespace Export

def format : Format Export where
  read := read
  toJson := toJson
  Carries e x := ∃ f ∈ e.flags, f.Carries (.real x)
  Fits e := (∀ t ∈ e.timestamp, t.Valid) ∧
    ∀ f ∈ e.flags, ∀ v ∈ f.variants, v.ReadsBack ∧ v.Fits 122

theorem legible {e : Export} (h : format.Fits e) : format.Legible e := by
  obtain ⟨hvalid, hback⟩ := h
  have hclock : ∀ t ∈ e.timestamp, Timestamp.read? t.text = some t := fun t ht =>
    Timestamp.read?_text (hvalid t ht)
  apply Format.legible_of_read
  exact (read_toJson (fun f hf v hv => (hback f hf v hv).1) hclock 120).trans
    (if_pos fun f hf v hv => (hback f hf v hv).2)

theorem faithful : format.Faithful where
  legible text e hread hdoubles := by
    have hyields : read.Yields (125 + 2) e := format.yields_of_run? hread
    refine legible ⟨valid_of_yields hyields, fun f hf => ?_⟩
    exact Flag.readsBack_of_yields (flags_of_yields hyields f hf) fun x hx =>
      hdoubles x ⟨f, hf, hx⟩
  written e := legible
  optional e name hname room members e' hread := by
    have hflags : "flags" ≠ name := hname.ne rfl (by simp)
    obtain ⟨fields, hbuild, hwithout⟩ := Reader.record_without hread name
    simp only [Option.bind_eq_bind, Option.bind_eq_some_iff] at hbuild
    obtain ⟨timestamp, htimestamp, flags, hreadFlags, he⟩ := hbuild
    cases he
    refine ⟨⟨if "timestamp" = name then none else timestamp, flags⟩, ?_, ?_⟩
    · refine hwithout.trans ?_
      simp [required_without hflags, withDefault_without htimestamp, hreadFlags]
    · simp [format, toJson, Json.record_without, hflags, apply_ite (Option.map _)]

end Export

namespace Context

def format : Format Context where
  read := read
  toJson := toJson
  Carries c x := (Json.object c.attributes).HasNumber (.real x)
  Fits c := (Json.object c.attributes).Kept Json.Numeric.ReadsBack ∧
    (Json.object c.attributes).nesting ≤ 126

theorem legible {c : Context} (h : format.Fits c) : format.Legible c :=
  Format.legible_of_read (read_toJson h.1 h.2)

theorem faithful : format.Faithful where
  legible text c hread hdoubles := by
    have hyields : read.Yields (125 + 2) c := format.yields_of_run? hread
    obtain ⟨hkept, hfits⟩ := (attributes_of_yields hyields).attributes
    exact legible ⟨hkept.readsBack hdoubles, hfits⟩
  written c := legible
  optional c name hname room members c' hread := by
    have hentityId : "entity_id" ≠ name := hname.ne rfl (by simp)
    have hentityType : "entity_type" ≠ name := hname.ne rfl (by simp)
    have hattributes : "entity_context" ≠ name := hname.ne rfl (by simp)
    have hdebug : "enable_debug" ≠ name := hname.ne rfl (by simp)
    obtain ⟨fields, hbuild, hwithout⟩ := Reader.record_without hread name
    simp only [Option.bind_eq_bind, Option.bind_eq_some_iff] at hbuild
    obtain ⟨entityId, hreadEntityId, entityType, hreadEntityType, attributes, hreadAttributes,
      debug, hreadDebug, flagId, hflagId, flagKey, hflagKey, hc⟩ := hbuild
    cases hc
    refine ⟨⟨entityId, entityType, attributes, debug, if "flag_id" = name then none else flagId,
      if "flag_key" = name then none else flagKey⟩, ?_, ?_⟩
    · refine hwithout.trans ?_
      simp [withDefault_without hreadEntityId, withDefault_without hreadEntityType,
        withDefault_without hreadAttributes, withDefault_without hreadDebug,
        withDefault_without hflagId, withDefault_without hflagKey, hentityId, hentityType,
        hattributes, hdebug]
    · simp [format, toJson, Json.record_without, hentityId, hentityType, hattributes, hdebug,
        apply_ite (Option.map _)]

end Context

namespace BatchEntity

def format : Format BatchEntity where
  read := read
  toJson := toJson
  Carries e x := (Json.object e.attributes).HasNumber (.real x)
  Fits e := (Json.object e.attributes).Kept Json.Numeric.ReadsBack ∧ e.Fits 126

theorem legible {e : BatchEntity} (h : format.Fits e) : format.Legible e :=
  Format.legible_of_read ((read_toJson h.1 126).trans (if_pos h.2))

theorem faithful : format.Faithful where
  legible text e hread hdoubles := by
    have hyields : read.Yields (125 + 2) e := format.yields_of_run? hread
    obtain ⟨hkept, hfits⟩ := (attributes_of_yields hyields).attributes
    exact legible ⟨hkept.readsBack hdoubles, hfits⟩
  written e := legible
  optional e name hname room members e' hread := by
    have hentityId : "entity_id" ≠ name := hname.ne rfl (by simp)
    have hentityType : "entity_type" ≠ name := hname.ne rfl (by simp)
    have hattributes : "entity_context" ≠ name := hname.ne rfl (by simp)
    obtain ⟨fields, hbuild, hwithout⟩ := Reader.record_without hread name
    simp only [Option.bind_eq_bind, Option.bind_eq_some_iff] at hbuild
    obtain ⟨entityId, hreadEntityId, entityType, hreadEntityType, attributes, hreadAttributes,
      he⟩ := hbuild
    cases he
    refine ⟨⟨entityId, entityType, attributes⟩, ?_, ?_⟩
    · refine hwithout.trans ?_
      simp [required_without hentityId, withDefault_without hreadEntityType,
        withDefault_without hreadAttributes, hreadEntityId, hentityType, hattributes]
    · simp [format, toJson, Json.record_without, hentityId, hentityType, hattributes]

end BatchEntity

namespace BatchRequest

def format : Format BatchRequest where
  read := read
  toJson := toJson
  Carries r x := ∃ e ∈ r.entities, (Json.object e.attributes).HasNumber (.real x)
  Fits r := ∀ e ∈ r.entities, (Json.object e.attributes).Kept Json.Numeric.ReadsBack ∧ e.Fits 124

theorem legible {r : BatchRequest} (h : format.Fits r) : format.Legible r := by
  apply Format.legible_of_read
  exact (read_toJson (fun e he => (h e he).1) 124).trans (if_pos fun e he => (h e he).2)

theorem faithful : format.Faithful where
  legible text r hread hdoubles := by
    have hyields : read.Yields (125 + 2) r := format.yields_of_run? hread
    apply legible
    intro e he
    obtain ⟨hkept, hfits⟩ :=
      (BatchEntity.attributes_of_yields (entities_of_yields hyields e he)).attributes
    exact ⟨hkept.readsBack fun x hx => hdoubles x ⟨e, he, hx⟩, hfits⟩
  written r := legible
  optional r name hname room members r' hread := by
    have hentities : "entities" ≠ name := hname.ne rfl (by simp)
    have hflagIds : "flag_ids" ≠ name := hname.ne rfl (by simp)
    have hflagKeys : "flag_keys" ≠ name := hname.ne rfl (by simp)
    have htags : "flag_tags" ≠ name := hname.ne rfl (by simp)
    have htagOperator : "flag_tags_operator" ≠ name := hname.ne rfl (by simp)
    have hdebug : "enable_debug" ≠ name := hname.ne rfl (by simp)
    obtain ⟨fields, hbuild, hwithout⟩ := Reader.record_without hread name
    simp only [Option.bind_eq_bind, Option.bind_eq_some_iff] at hbuild
    obtain ⟨entities, hreadEntities, flagIds, hreadFlagIds, flagKeys, hreadFlagKeys, tags,
      hreadTags, tagOperator, hreadTagOperator, debug, hreadDebug, hr⟩ := hbuild
    cases hr
    refine ⟨⟨entities, flagIds, flagKeys, tags, tagOperator, debug⟩, ?_, ?_⟩
    · refine hwithout.trans ?_
      simp [required_without hentities, withDefault_without hreadFlagIds,
        withDefault_without hreadFlagKeys, withDefault_without hreadTags,
        withDefault_without hreadTagOperator, withDefault_without hreadDebug, hreadEntities,
        hflagIds, hflagKeys, htags, htagOperator, hdebug]
    · simp [format, toJson, Json.record_without, hentities, hflagIds, hflagKeys, htags,
        htagOperator, hdebug]

end BatchRequest

namespace Format

theorem wire_faithful :
    Export.format.Faithful ∧ Flag.format.Faithful ∧ Variant.format.Faithful ∧
    Context.format.Faithful ∧ BatchEntity.format.Faithful ∧ BatchRequest.format.Faithful ∧
    -- a text that is empty and an object that is empty are told from those that are left out
    (∀ text f, Flag.read.run? text = some f → (∀ x, f.Carries (.real x) → x.ReadsBack) →
      ∀ entityType, Flag.format.Legible { f with entityType }) ∧
    (∀ (f : Flag), ∀ attachment ∈ [none, some []],
      Flag.format.Legible { f with variants := f.variants.map ({ · with attachment }) }) ∧
    ∀ c, Context.format.Fits c → ∀ entityType flagId flagKey,
      Context.format.Legible { c with entityType, flagId, flagKey } := by
  refine ⟨Export.faithful, Flag.faithful, Variant.faithful, Context.faithful,
    BatchEntity.faithful, BatchRequest.faithful, ?_, ?_, ?_⟩
  · intro text f hread hdoubles entityType
    have hyields : Flag.read.Yields (124 + 3) f := Flag.format.yields_of_run? hread
    have hback := Flag.readsBack_of_yields hyields hdoubles
    exact Flag.legible hback
  · intro f attachment hattachment
    apply Flag.legible
    intro v hv
    obtain ⟨v, -, rfl⟩ := List.mem_map.mp hv
    rcases List.mem_pair.mp hattachment with rfl | rfl
    · constructor <;> rintro _ ⟨⟩
    · constructor
      · rintro _ ⟨⟩
        exact .object .nil (List.forall_mem_nil _)
      · rintro _ ⟨⟩
        decide
  · intro c hfits entityType flagId flagKey
    exact Context.legible hfits

/-- An export as it may be written elsewhere: records as arrays, a zone of its own, a leap
second, a null. -/
def foreign : Json :=
  .array [.string "2016-12-31t18:59:60.5 -05:00",
    .array [.array [.nat 7, .string "f", .string "", .bool true, .null]]]

def foreignExport : Export :=
  ⟨some Database.leapSecond, [⟨7, "f", "", true, none, [], [], []⟩]⟩

/-- A variant in an order of its own, with a name that is not known. -/
def foreignVariant : Json :=
  .object [("attachment", .object (Database.nested 1)), ("key", .string "v"), ("colour", .null),
    ("id", .nat 1)]

/-- A context with a key that is empty, a number that is null and a type that is left out. -/
def foreignContext : Json :=
  .object [("flag_key", .string ""), ("entity_context", .object [("plan", .string "pro")]),
    ("colour", .null), ("flag_id", .null), ("entity_id", .string "e")]

/-- A request with its operator as an object, and an entity as an array. -/
def foreignRequest : Json :=
  .object [("flag_tags_operator", .object [("ALL", .null)]),
    ("entities", .array [.array [.string "e", .string "user", .object [("age", .nat 3)]],
      .object [("entity_id", .string "e")]])]

def foreignRequested : BatchRequest :=
  ⟨[⟨"e", "user", [("age", .nat 3)]⟩, ⟨"e", "", []⟩], [], [], [], .all, false⟩

theorem read_foreignVariant :
    Variant.read.run? foreignVariant.compact = some ⟨1, 0, "v", some (Database.nested 1)⟩ := by
  have hattachment : Reader.attributes 126 (Json.object (Database.nested 1)).toDocument =
      some (Database.nested 1) := by
    rw [Reader.attributes_written (Database.kept_nested Database.readsBack_half 1),
      Database.nesting_nested]
    rfl
  rw [Reader.run?, Json.parse?_compact, Option.bind_some, foreignVariant]
  generalize Database.nested 1 = attributes at hattachment ⊢
  change ((Reader.attributes 126 (Json.object attributes).toDocument).map some).bind
    (fun attachment => some (⟨1, 0, "v", attachment⟩ : Variant)) = _
  rw [hattachment]
  rfl

theorem legible_foreign :
    Export.read.run? foreign.compact = some foreignExport ∧
    Variant.read.run? foreignVariant.compact = some ⟨1, 0, "v", some (Database.nested 1)⟩ ∧
    Context.read.run? foreignContext.compact =
      some ⟨"e", "", [("plan", .string "pro")], false, none, some ""⟩ ∧
    BatchRequest.read.run? foreignRequest.compact = some foreignRequested ∧
    Export.format.Legible foreignExport ∧
    Variant.format.Legible ⟨1, 0, "v", some (Database.nested 1)⟩ ∧
    (∀ flagId flagKey, Context.format.Legible
      ⟨"e", "", [("plan", .string "pro")], false, flagId, flagKey⟩) ∧
    BatchRequest.format.Legible foreignRequested := by
  have hexport : Export.read.run? foreign.compact = some foreignExport := by
    have htimestamp : Timestamp.read? "2016-12-31t18:59:60.5 -05:00" =
        some Database.leapSecond := by
      decide +kernel
    rw [Reader.run?, Json.parse?_compact, Option.bind_some, foreign]
    generalize "2016-12-31t18:59:60.5 -05:00" = text at htimestamp ⊢
    change ((Timestamp.read? text).map some).bind (fun timestamp =>
      some (⟨timestamp, [⟨7, "f", "", true, none, [], [], []⟩]⟩ : Export)) = _
    rw [htimestamp]
    rfl
  have hcontext : Context.read.run? foreignContext.compact =
      some ⟨"e", "", [("plan", .string "pro")], false, none, some ""⟩ := by
    rw [Reader.run?, Json.parse?_compact, Option.bind_some]
    rfl
  have hrequest : BatchRequest.read.run? foreignRequest.compact = some foreignRequested := by
    rw [Reader.run?, Json.parse?_compact, Option.bind_some]
    rfl
  refine ⟨hexport, read_foreignVariant, hcontext, hrequest, ?_, ?_, ?_, ?_⟩
  · apply wire_faithful.1.legible _ _ hexport
    rintro x ⟨f, hf, v, hv, -⟩
    obtain rfl := List.mem_singleton.mp hf
    cases hv
  · apply wire_faithful.2.2.1.legible _ _ read_foreignVariant
    rintro x ⟨attributes, hattributes, hx⟩
    cases hattributes
    rw [Json.Numeric.real.inj (Database.eq_half_of_hasNumber_nested hx)]
    exact Number.readsBack_iff.mpr Database.readsBack_half
  · intro flagId flagKey
    have hroom : (Json.object [("plan", .string "pro")]).nesting ≤ 126 := by decide
    refine wire_faithful.2.2.2.1.written _ ⟨.object ?_ ?_, hroom⟩
    · exact List.pairwise_singleton _ _
    · exact List.forall_mem_singleton.mpr (.string "pro")
  · apply wire_faithful.2.2.2.2.2.1.legible _ _ hrequest
    rintro x ⟨e, he, hx⟩
    -- the only number is a whole one
    rcases List.mem_pair.mp he with rfl | rfl
    · cases hx with
      | member hm h =>
          obtain rfl := List.mem_singleton.mp hm
          cases h
    · cases hx with
      | member hm => cases hm

end Format

end FeatureFlags
