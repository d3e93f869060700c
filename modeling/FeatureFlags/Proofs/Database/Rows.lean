import FeatureFlags.Database.Stitching
import FeatureFlags.Proofs.Json.Nesting
import FeatureFlags.Proofs.Text.Blank
import Mathlib.Tactic.Common
import Mathlib.Tactic.MkIffOfInductiveProp

namespace FeatureFlags.Database

/-- A number with a sign is not negative, and is below a limit. -/
def Fits (limit : Nat) (n : Int64) : Prop :=
  0 ≤ n.toInt ∧ n.toInt < limit

instance (limit : Nat) (n : Int64) : Decidable (Fits limit n) :=
  inferInstanceAs (Decidable (_ ∧ _))

/-- How numbers with a sign are told as numbers below a limit. -/
abbrev Telling := Nat → Int64 → Nat → Prop

/-- Each number as it is. -/
def Exact : Telling :=
  fun _ n m => (m : Int) = n.toInt

instance (limit : Nat) (n : Int64) (m : Nat) : Decidable (Exact limit n m) :=
  inferInstanceAs (Decidable (_ = _))

/-- A number that fits as it is, any other as zero. -/
def Clipped : Telling :=
  fun limit n m => (Fits limit n → Exact limit n m) ∧ (¬ Fits limit n → m = 0)

section Numbers

variable {n m : Int64}

theorem fits_id_iff : Fits UInt64.size n ↔ ¬ n < 0 := by
  have hlt := n.toInt_lt
  have hsize : UInt64.size = 2 ^ 64 := rfl
  rw [Fits, Int64.lt_iff_toInt_lt, Int64.toInt_zero]
  omega

theorem fits_small_iff : Fits UInt32.size n ↔ ¬ (n < 0 || UInt32.size ≤ n.toInt.toNat) := by
  have hsize : UInt32.size = 2 ^ 32 := rfl
  rw [Bool.or_eq_true, decide_eq_true_eq, decide_eq_true_eq, Fits, Int64.lt_iff_toInt_lt,
    Int64.toInt_zero]
  omega

theorem clipped_toId (n : Int64) : Clipped UInt64.size n (toId n).toNat := by
  have hlt := n.toInt_lt
  have hsize : UInt64.size = 2 ^ 64 := rfl
  constructor
  · intro h
    rw [toId, if_neg (fits_id_iff.mp h), UInt64.toNat_ofNat_of_lt' (by omega), Exact]
    exact Int.toNat_of_nonneg h.1
  · intro h
    rw [toId, if_pos (not_not.mp (mt fits_id_iff.mpr h))]
    rfl

theorem clipped_toSmall (n : Int64) : Clipped UInt32.size n (toSmall n).toNat := by
  constructor
  · intro h
    have hlt := (Int.toNat_lt h.1).mpr h.2
    rw [toSmall, if_neg (fits_small_iff.mp h), UInt32.toNat_ofNat_of_lt' hlt, Exact]
    exact Int.toNat_of_nonneg h.1
  · intro h
    rw [toSmall, if_pos (not_not.mp (mt fits_small_iff.mpr h))]
    rfl

theorem toId_inj (hn : Fits UInt64.size n) (hm : Fits UInt64.size m) :
    toId n = toId m ↔ n = m := by
  refine ⟨fun h => ?_, congrArg toId⟩
  rw [← Int64.toInt_inj, ← (clipped_toId n).1 hn, ← (clipped_toId m).1 hm, h]

end Numbers

/-- What the text of an attachment stands for: nothing where there is none or a blank one,
else the object that it spells, with blanks around it or without. -/
inductive Attaches : Option String → Option Attributes → Prop
  | absent : Attaches none none
  | blank {text : String} (hblank : ∀ c ∈ text.toList, Text.isBlank c) :
      Attaches (some text) none
  | object {text : String} {before inside after : List Char} {members : Attributes}
      (htext : text.toList = before ++ inside ++ after) (hbefore : ∀ c ∈ before, Text.isBlank c)
      (hinside : Text.Trimmed inside) (hafter : ∀ c ∈ after, Text.isBlank c)
      (hspelled : Document.parseJson? (String.ofList inside) = some (.object members)) :
      Attaches (some text) (some members)

theorem run?_attributes_eq_some_iff {text : String} {members : Attributes} :
    Document.Reader.attributes.run? text = some members ↔
      Document.parseJson? text = some (.object members) := by
  simp only [Document.Reader.run?, Document.parseJson?, Option.bind_eq_bind,
    Option.bind_eq_some_iff, Document.Reader.attributes_eq_some_iff]

theorem trim_eq_nil_iff {cs : List Char} : Text.trim cs = [] ↔ ∀ c ∈ cs, Text.isBlank c := by
  constructor
  · intro htrim
    obtain ⟨before, after, hcs, hbefore, hafter⟩ := Text.exists_eq_append_trim cs
    rw [htrim, List.append_nil] at hcs
    rw [hcs]
    exact List.forall_mem_append.mpr ⟨hbefore, hafter⟩
  · intro hblank
    have hnil : Text.Trimmed [] := ⟨by simp, by simp⟩
    have hnone : ∀ c ∈ ([] : List Char), Text.isBlank c := by simp
    simpa using Text.trim_append hblank hnil hnone

/-- An attachment is read as what its text stands for, and as nothing else. -/
theorem attachment?_eq_ok_iff {text : Option String} {attachment : Option Attributes} :
    attachment? text = .ok attachment ↔ Attaches text attachment := by
  constructor
  · intro h
    cases text with
    | none =>
        cases h
        exact .absent
    | some text =>
        rw [attachment?] at h
        split at h
        · next htrim =>
            cases h
            exact .blank (trim_eq_nil_iff.mp htrim)
        · split at h
          · next hread =>
              cases h
              obtain ⟨before, after, htext, hbefore, hafter⟩ :=
                Text.exists_eq_append_trim text.toList
              exact .object htext hbefore (Text.trimmed_trim _) hafter
                (run?_attributes_eq_some_iff.mp hread)
          · cases h
  · intro h
    cases h with
    | absent => rfl
    | blank hblank => rw [attachment?, trim_eq_nil_iff.mpr hblank]
    | @object text before inside after members htext hbefore hinside hafter hspelled =>
        rw [attachment?, htext, Text.trim_append hbefore hinside hafter]
        cases inside with
        | nil =>
            have hempty : Document.parse? (String.ofList []) = none := by
              rw [Document.parse?, String.toList_ofList, Document.Machine.run]
              rfl
            rw [Document.parseJson?, hempty] at hspelled
            cases hspelled
        | cons c rest => simp only [run?_attributes_eq_some_iff.mpr hspelled]

section Telling

variable (told : Telling)

/-- What a flag tells of its row, apart from what belongs to it. -/
structure FlagRow.Tells (row : FlagRow) (f : Flag) : Prop where
  id : told UInt64.size row.id f.id.toNat
  key : f.key = row.key
  description : f.description = row.description.getD ""
  enabled : f.enabled = row.enabled
  entityType : f.entityType = row.entityType.filter (!·.isEmpty)

/-- What a segment tells of its row, apart from what belongs to it. -/
structure SegmentRow.Tells (row : SegmentRow) (s : Segment) : Prop where
  id : told UInt64.size row.id s.id.toNat
  flagId : told UInt64.size row.flagId s.flagId.toNat
  description : s.description = row.description.getD ""
  rank : told UInt32.size row.rank s.rank.toNat
  rolloutPercent : told UInt32.size row.rolloutPercent s.rolloutPercent.toNat

structure ConstraintRow.Tells (row : ConstraintRow) (c : Constraint) : Prop where
  id : told UInt64.size row.id c.id.toNat
  segmentId : told UInt64.size row.segmentId c.segmentId.toNat
  property : c.property = row.property
  operator : c.operator = row.operator
  value : c.value = row.value

structure DistributionRow.Tells (row : DistributionRow) (d : Distribution) : Prop where
  id : told UInt64.size row.id d.id.toNat
  segmentId : told UInt64.size row.segmentId d.segmentId.toNat
  variantId : told UInt64.size row.variantId d.variantId.toNat
  variantKey : d.variantKey = row.variantKey.getD ""
  percent : told UInt32.size row.percent d.percent.toNat

structure VariantRow.Tells (row : VariantRow) (v : Variant) : Prop where
  id : told UInt64.size row.id v.id.toNat
  flagId : told UInt64.size row.flagId v.flagId.toNat
  key : v.key = row.key
  attachment : Attaches row.attachment v.attachment

structure TagRow.Tells (row : TagRow) (t : Tag) : Prop where
  id : told UInt64.size row.id t.id.toNat
  value : t.value = row.value

end Telling

def FlagRow.Fits (row : FlagRow) : Prop :=
  Database.Fits UInt64.size row.id

@[mk_iff]
structure SegmentRow.Fits (row : SegmentRow) : Prop where
  id : Database.Fits UInt64.size row.id
  flagId : Database.Fits UInt64.size row.flagId
  rank : Database.Fits UInt32.size row.rank
  rolloutPercent : Database.Fits UInt32.size row.rolloutPercent

@[mk_iff]
structure ConstraintRow.Fits (row : ConstraintRow) : Prop where
  id : Database.Fits UInt64.size row.id
  segmentId : Database.Fits UInt64.size row.segmentId

@[mk_iff]
structure DistributionRow.Fits (row : DistributionRow) : Prop where
  id : Database.Fits UInt64.size row.id
  segmentId : Database.Fits UInt64.size row.segmentId
  variantId : Database.Fits UInt64.size row.variantId
  percent : Database.Fits UInt32.size row.percent

@[mk_iff]
structure VariantRow.Fits (row : VariantRow) : Prop where
  id : Database.Fits UInt64.size row.id
  flagId : Database.Fits UInt64.size row.flagId

def TagRow.Fits (row : TagRow) : Prop :=
  Database.Fits UInt64.size row.id

instance (row : FlagRow) : Decidable row.Fits :=
  inferInstanceAs (Decidable (Database.Fits _ _))

instance (row : SegmentRow) : Decidable row.Fits :=
  decidable_of_iff _ row.fits_iff.symm

instance (row : ConstraintRow) : Decidable row.Fits :=
  decidable_of_iff _ row.fits_iff.symm

instance (row : DistributionRow) : Decidable row.Fits :=
  decidable_of_iff _ row.fits_iff.symm

instance (row : VariantRow) : Decidable row.Fits :=
  decidable_of_iff _ row.fits_iff.symm

instance (row : TagRow) : Decidable row.Fits :=
  inferInstanceAs (Decidable (Database.Fits _ _))

section Exactness

theorem FlagRow.Tells.exact {row : FlagRow} {f : Flag} (h : row.Tells Clipped f)
    (hfits : row.Fits) : row.Tells Exact f :=
  { h with id := h.id.1 hfits }

theorem SegmentRow.Tells.exact {row : SegmentRow} {s : Segment} (h : row.Tells Clipped s)
    (hfits : row.Fits) : row.Tells Exact s where
  id := h.id.1 hfits.id
  flagId := h.flagId.1 hfits.flagId
  description := h.description
  rank := h.rank.1 hfits.rank
  rolloutPercent := h.rolloutPercent.1 hfits.rolloutPercent

theorem ConstraintRow.Tells.exact {row : ConstraintRow} {c : Constraint}
    (h : row.Tells Clipped c) (hfits : row.Fits) : row.Tells Exact c :=
  { h with id := h.id.1 hfits.id, segmentId := h.segmentId.1 hfits.segmentId }

theorem DistributionRow.Tells.exact {row : DistributionRow} {d : Distribution}
    (h : row.Tells Clipped d) (hfits : row.Fits) : row.Tells Exact d where
  id := h.id.1 hfits.id
  segmentId := h.segmentId.1 hfits.segmentId
  variantId := h.variantId.1 hfits.variantId
  variantKey := h.variantKey
  percent := h.percent.1 hfits.percent

theorem VariantRow.Tells.exact {row : VariantRow} {v : Variant} (h : row.Tells Clipped v)
    (hfits : row.Fits) : row.Tells Exact v :=
  { h with id := h.id.1 hfits.id, flagId := h.flagId.1 hfits.flagId }

theorem TagRow.Tells.exact {row : TagRow} {t : Tag} (h : row.Tells Clipped t)
    (hfits : row.Fits) : row.Tells Exact t :=
  { h with id := h.id.1 hfits }

end Exactness

end FeatureFlags.Database
