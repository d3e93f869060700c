import FeatureFlags.CommandLine.Execution
import FeatureFlags.Pattern.Machine
import FeatureFlags.Proofs.Database.Stitching
import FeatureFlags.Proofs.Flag.Record
import FeatureFlags.Proofs.Snapshot.RoundTrip
import FeatureFlags.Proofs.Timestamp.RoundTrip

namespace FeatureFlags

namespace Database

def VariantKept (v : Variant) : Prop :=
  ∀ attributes ∈ v.attachment, (Json.object attributes).Kept Json.Numeric.Bounded

theorem Attaches.kept {text : Option String} {attachment : Option Attributes}
    (h : Attaches text attachment) :
    ∀ attributes ∈ attachment, (Json.object attributes).Kept Json.Numeric.Bounded := by
  rintro attributes ⟨⟩
  cases h with
  | object _ _ _ _ hspelled =>
      obtain ⟨d, -, hvalue⟩ := Option.bind_eq_some_iff.mp hspelled
      exact Document.kept_of_toJson? d hvalue

theorem kept_of_fetch {db : Database} {flags : List Flag} (h : db.fetch = .ok flags) :
    ∀ f ∈ flags, ∀ v ∈ f.variants, VariantKept v := by
  intro f hf v hv
  obtain ⟨row, -, htells⟩ := (made_of_fetch h).variants f hf v hv
  exact htells.attachment.kept

section Export

variable {db : Database} {flags : List Flag} {generation : Nat} {c : Cache}
  {now : Option Timestamp}

variable [PatternEngine]

theorem readsBack_of_build (hfetch : db.fetch = .ok flags)
    (hbuild : (Snapshot.build flags generation).2 = .ok c.snapshot)
    (hdoubles : ∀ f ∈ c.snapshot.flags, ∀ x, f.Carries (.real x) → x.ReadsBack) :
    ∀ f ∈ c.snapshot.flags, ∀ v ∈ f.variants, v.ReadsBack := by
  intro f hf v hv attributes hattributes
  obtain ⟨g, hlast, rfl⟩ := (Snapshot.mem_flags_iff hbuild).mp hf
  have hkept := kept_of_fetch hfetch g (Flag.mem_of_last?_eq_some hlast) v hv attributes hattributes
  exact hkept.readsBack fun x hx => hdoubles _ hf x ⟨v, hv, attributes, hattributes, hx⟩

/-- The text of an export, compact as it is served or in lines as it is printed. -/
def WrittenAs (e : Export) (text : String) : Prop :=
  text = e.toJson.compact ∨ text = CommandLine.printed e.toJson

omit [PatternEngine] in
theorem parse?_of_writtenAs {e : Export} {text : String} (h : WrittenAs e text) :
    Document.parse? text = some e.toJson.toDocument := by
  rcases h with rfl | rfl
  · exact Json.parse?_compact _
  · have hline : ∀ c ∈ ['\n'], Document.Token.isSpace c := by simp [Document.Token.isSpace]
    apply Json.parse?_of_toList Json.Layout.blank_indented _ hline
    simp [CommandLine.printed, Json.indented]

omit [PatternEngine] in
/-- Five containers stand around an attachment, so 122 of 127 are left for it. -/
theorem flagsOfBytes_of_writtenAs {e : Export} {text : String}
    (hread : ∀ f ∈ e.flags, ∀ v ∈ f.variants, v.ReadsBack)
    (hclock : ∀ t ∈ e.timestamp, t.Valid) (htext : WrittenAs e text) :
    Export.flagsOfBytes text.toUTF8 =
      if ∀ f ∈ e.flags, ∀ v ∈ f.variants, v.Fits 122 then .ok e.flags else .error .json := by
  have hdecode : String.fromUTF8? text.toUTF8 = some text := dif_pos text.isValidUTF8
  have hrun : Export.read.run? text =
      if ∀ f ∈ e.flags, ∀ v ∈ f.variants, v.Fits 122 then some e else none := by
    rw [Document.Reader.run?, parse?_of_writtenAs htext]
    exact Export.read_toJson hread (fun t ht => Timestamp.read?_text (hclock t ht)) 120
  rw [Export.flagsOfBytes, hdecode]
  dsimp only
  by_cases hfits : ∀ f ∈ e.flags, ∀ v ∈ f.variants, v.Fits 122
  · rw [if_pos hfits] at hrun ⊢
    rw [Export.flagsOfText, hrun]
  · rw [if_neg hfits] at hrun ⊢
    rw [Export.flagsOfText, hrun]

/-- What is exported of a database is read as the same flags, if no attachment has more
than 122 containers in each other, and else as nothing. -/
theorem flagsOfBytes_exported {text : String} (hfetch : db.fetch = .ok flags)
    (hbuild : (Snapshot.build flags generation).2 = .ok c.snapshot)
    (hclock : ∀ t ∈ now, t.Valid)
    (hdoubles : ∀ f ∈ c.snapshot.flags, ∀ x, f.Carries (.real x) → x.ReadsBack)
    (htext : WrittenAs (c.exported now) text) :
    Export.flagsOfBytes text.toUTF8 =
      if ∀ f ∈ c.snapshot.flags, ∀ v ∈ f.variants, v.Fits 122 then .ok c.snapshot.flags
      else .error .json :=
  flagsOfBytes_of_writtenAs (readsBack_of_build hfetch hbuild hdoubles) hclock htext

end Export

section Nested

def half : Number :=
  (Number.ofUnits? false Number.one 2).get (by decide +kernel)

theorem readsBack_half : (Json.Numeric.real half).ReadsBack := by
  show half.numeral.real? = some half
  decide +kernel

/-- Objects in each other, the innermost one with a half. -/
def nested : Nat → Attributes
  | 0 => [("a", .number (.real half))]
  | depth + 1 => [("a", .object (nested depth))]

theorem kept_nested {p : Json.Numeric → Prop} (h : p (.real half)) (depth : Nat) :
    (Json.object (nested depth)).Kept p := by
  induction depth with
  | zero => exact .object (List.pairwise_singleton _ _) (List.forall_mem_singleton.mpr (.number h))
  | succ depth ih =>
      exact .object (List.pairwise_singleton _ _) (List.forall_mem_singleton.mpr ih)

theorem nesting_nested (depth : Nat) : (Json.object (nested depth)).nesting = depth + 1 := by
  induction depth with
  | zero => rfl
  | succ depth ih =>
      rw [nested, Json.nesting, Json.membersNesting, Json.membersNesting, ih]
      simp

def carrier (attributes : Attributes) : Flag :=
  { Flag.plain 1 "f" [] with variants := [⟨10, 1, "v", some attributes⟩] }

def carrying (attributes : Attributes) : Database where
  flags := some [⟨1, "f", none, true, none, none⟩]
  segments := some []
  constraints := some []
  distributions := some []
  variants := some [⟨10, 1, "v", some (Json.object attributes).compact, none⟩]
  tags := some []
  tagLinks := some []

variable {attributes : Attributes}

theorem exists_characters_object (attributes : Attributes) :
    ∃ inside, Json.characters .compact 0 (.object attributes) = '\x7b' :: (inside ++ ['\x7d']) := by
  cases attributes with
  | nil => exact ⟨[], rfl⟩
  | cons m attributes =>
      rw [Json.characters, List.cons_append, List.cons_append, List.cons_append, List.cons_append]
      exact ⟨_, rfl⟩

theorem trim_compact_object (attributes : Attributes) :
    Text.trim (Json.object attributes).compact.toList =
      Json.characters .compact 0 (.object attributes) := by
  obtain ⟨inside, hcharacters⟩ := exists_characters_object attributes
  rw [Json.compact, String.toList_ofList, hcharacters]
  apply Text.trim_eq_self
  constructor
  · rintro c ⟨⟩
    decide +kernel
  · intro c hc
    rw [← List.cons_append, List.getLast?_append_cons] at hc
    cases hc
    decide +kernel

theorem attachment?_compact (h : (Json.object attributes).Kept Json.Numeric.ReadsBack)
    (hroom : (Json.object attributes).nesting ≤ Document.nestingLimit) :
    attachment? (some (Json.object attributes).compact) = .ok (some attributes) := by
  have hread : Document.Reader.attributes.run? (Json.object attributes).compact =
      some attributes := by
    rw [Document.Reader.run?, Json.parse?_compact, Option.bind_some,
      Document.Reader.attributes_written h, if_pos hroom]
  obtain ⟨inside, hcharacters⟩ := exists_characters_object attributes
  unfold attachment?
  dsimp only
  rw [trim_compact_object, hcharacters]
  dsimp only
  rw [← hcharacters, ← Json.compact, hread]

theorem fetch_carrying (h : (Json.object attributes).Kept Json.Numeric.ReadsBack)
    (hroom : (Json.object attributes).nesting ≤ Document.nestingLimit) :
    (carrying attributes).fetch = .ok [carrier attributes] := by
  have hvariants : toVariants [⟨10, 1, "v", some (Json.object attributes).compact, none⟩] =
      .ok [⟨10, 1, "v", some attributes⟩] := by
    rw [toVariants, VariantRow.toVariant, attachment?_compact h hroom]
    rfl
  have hrows : (carrying attributes).fetch = Rows.stitch ⟨[⟨1, "f", none, true, none, none⟩], [],
      [], [], [⟨10, 1, "v", some (Json.object attributes).compact, none⟩], []⟩ := by
    simp [fetch, fetchThrough, carrying, readFlags, readSegments, readConstraints,
      readDistributions, readVariants, readTags, table, live, bind, Except.bind, pure,
      Except.pure]
  rw [hrows, Rows.stitch]
  dsimp only
  rw [hvariants]
  rfl

theorem sorted_carrier (attributes : Attributes) :
    (carrier attributes).sorted = carrier attributes := by
  simp [Flag.sorted, carrier, Flag.plain]

theorem eq_half_of_hasNumber_nested {n : Json.Numeric} {depth : Nat}
    (h : (Json.object (nested depth)).HasNumber n) : n = .real half := by
  induction depth with
  | zero =>
      cases h with
      | member hm hn =>
          rw [List.mem_singleton.mp hm] at hn
          cases hn
          rfl
  | succ depth ih =>
      cases h with
      | member hm hn =>
          rw [List.mem_singleton.mp hm] at hn
          exact ih hn

variable [PatternEngine]

theorem exists_build_carrier (attributes : Attributes) :
    ∃ s, (Snapshot.build [carrier attributes] 1).2 = .ok s := by
  rw [Snapshot.exists_build_eq_ok_iff]
  intro f hf
  refine ⟨⟨carrier attributes, []⟩, ?_⟩
  rw [List.mem_singleton.mp hf, PreparedFlag.prepare, sorted_carrier]
  rfl

theorem mem_flags_carrier_iff {s : Snapshot}
    (hbuild : (Snapshot.build [carrier attributes] 1).2 = .ok s) {f : Flag} :
    f ∈ s.flags ↔ f = carrier attributes := by
  rw [Snapshot.mem_flags_iff hbuild]
  constructor
  · rintro ⟨g, hlast, rfl⟩
    rw [List.mem_singleton.mp (Flag.mem_of_last?_eq_some hlast), sorted_carrier]
  · rintro rfl
    exact ⟨carrier attributes, rfl, sorted_carrier attributes⟩

theorem readsBack_of_build_carrier {s : Snapshot} {depth : Nat}
    (hbuild : (Snapshot.build [carrier (nested depth)] 1).2 = .ok s) :
    ∀ f ∈ s.flags, ∀ x, f.Carries (.real x) → x.ReadsBack := by
  rintro f hf x ⟨v, hv, attributes, hattributes, hx⟩
  rw [(mem_flags_carrier_iff hbuild).mp hf] at hv
  obtain rfl := List.mem_singleton.mp hv
  cases hattributes
  rw [Json.Numeric.real.inj (eq_half_of_hasNumber_nested hx)]
  exact Number.readsBack_iff.mpr readsBack_half

theorem fits_of_build_carrier_iff {s : Snapshot} {depth room : Nat}
    (hbuild : (Snapshot.build [carrier (nested depth)] 1).2 = .ok s) :
    (∀ f ∈ s.flags, ∀ v ∈ f.variants, v.Fits room) ↔ depth + 1 ≤ room := by
  simp [mem_flags_carrier_iff hbuild, carrier, Variant.Fits, nesting_nested]

end Nested

end Database

namespace Database

/-- A moment of the leap second at the end of 2016. -/
def leapSecond : Timestamp := ⟨⟨2016, 12, 31⟩, 86399, 1500000000⟩

theorem valid_leapSecond : leapSecond.Valid :=
  ⟨by decide, by decide, by decide⟩

theorem flagsOfBytes_of_nested : ∃ c : Cache,
    (carrying (nested 121)).fetch = .ok [carrier (nested 121)] ∧
    (Snapshot.build [carrier (nested 121)] 1).2 = .ok c.snapshot ∧
    Export.flagsOfBytes (c.exported leapSecond).toJson.compact.toUTF8 = .ok c.snapshot.flags := by
  obtain ⟨s, hbuild⟩ := exists_build_carrier (nested 121)
  let c : Cache := { Cache.create none with snapshot := s }
  have hfetch := fetch_carrying (kept_nested readsBack_half 121) (by rw [nesting_nested]; decide)
  have hclock : ∀ t ∈ some leapSecond, t.Valid := by
    rintro t ⟨⟩
    exact valid_leapSecond
  have hread := flagsOfBytes_exported (c := c) hfetch hbuild hclock
    (readsBack_of_build_carrier hbuild) (.inl rfl)
  rw [if_pos ((fits_of_build_carrier_iff hbuild).mpr (by decide))] at hread
  exact ⟨c, hfetch, hbuild, hread⟩

/-- One container more in an attachment, and the export of the flag is read as nothing. -/
theorem not_forall_flagsOfBytes_exported : ¬ ∀ (db : Database) (flags : List Flag)
    (generation : Nat) (c : Cache) (now : Option Timestamp) (text : String),
    db.fetch = .ok flags → (Snapshot.build flags generation).2 = .ok c.snapshot →
    (∀ t ∈ now, t.Valid) →
    (∀ f ∈ c.snapshot.flags, ∀ x, f.Carries (.real x) → x.ReadsBack) →
    WrittenAs (c.exported now) text →
    Export.flagsOfBytes text.toUTF8 = .ok c.snapshot.flags := by
  intro h
  obtain ⟨s, hbuild⟩ := exists_build_carrier (nested 122)
  let c : Cache := { Cache.create none with snapshot := s }
  have hfetch := fetch_carrying (kept_nested readsBack_half 122) (by rw [nesting_nested]; decide)
  have hdoubles := readsBack_of_build_carrier hbuild
  have hnow : ∀ t ∈ (c.exported none).timestamp, t.Valid := by simp [Cache.exported]
  have hread := h _ _ _ c none _ hfetch hbuild hnow hdoubles (.inl rfl)
  have hrefused := flagsOfBytes_of_writtenAs (readsBack_of_build hfetch hbuild hdoubles) hnow
    (.inl rfl)
  have hdeep : ¬ ∀ f ∈ (c.exported none).flags, ∀ v ∈ f.variants, v.Fits 122 :=
    mt (fits_of_build_carrier_iff hbuild).mp (by decide)
  rw [if_neg hdeep] at hrefused
  cases hrefused.symm.trans hread

end Database

end FeatureFlags
