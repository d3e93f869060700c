import Mathlib
import FeatureFlags.Proofs.Database.Join
import FeatureFlags.Proofs.Sorting

/-!
Rows that are deleted and rows below them. They have no influence on the flags of a fetch. But
attachments are read before rows find what they belong to, so one that cannot be read ends a
fetch even if its flag is deleted.
-/

namespace FeatureFlags

namespace Database

section Difference

variable {α : Type}

/-- Two lists that differ only in some elements, of which each list has its own. -/
inductive DifferIn (left right : α → Prop) : List α → List α → Prop
  | nil : DifferIn left right [] []
  | both {xs ys : List α} (x : α) : DifferIn left right xs ys →
      DifferIn left right (x :: xs) (x :: ys)
  | left {xs ys : List α} {x : α} : left x → DifferIn left right xs ys →
      DifferIn left right (x :: xs) ys
  | right {xs ys : List α} {y : α} : right y → DifferIn left right xs ys →
      DifferIn left right xs (y :: ys)

variable {left right : α → Prop} {xs ys : List α}

theorem DifferIn.filter_eq {test : α → Bool} (h : DifferIn left right xs ys)
    (hleft : ∀ x, left x → test x = false) (hright : ∀ y, right y → test y = false) :
    xs.filter test = ys.filter test := by
  induction h with
  | nil => rfl
  | both x _ ih => rw [List.filter_cons, List.filter_cons, ih]
  | left hx _ ih => rw [List.filter_cons_of_neg (by simp [hleft _ hx]), ih]
  | right hy _ ih => rw [List.filter_cons_of_neg (by simp [hright _ hy]), ih]

theorem differIn_getD {table table' : Option (List α)}
    (h : Option.Rel (DifferIn left right) table table') :
    DifferIn left right (table.getD []) (table'.getD []) := by
  cases h with
  | some h => exact h
  | none => exact .nil

theorem isSome_of_rel {table table' : Option (List α)}
    (h : Option.Rel (DifferIn left right) table table') : table.isSome ↔ table'.isSome := by
  cases h <;> simp

end Difference

section Deletion

/-- A row that is deleted, or that belongs to a row that is gone. -/
def Below {ρ : Type} (deletedAt : ρ → Option String) (owner : ρ → Int64) (gone : Int64 → Prop)
    (row : ρ) : Prop :=
  (deletedAt row).isSome ∨ gone (owner row)

/-- Two tables that differ only in rows that are deleted or belong to rows that are gone. -/
abbrev DifferBelow {ρ : Type} (deletedAt : ρ → Option String) (owner : ρ → Int64)
    (gone gone' : Int64 → Prop) (table table' : Option (List ρ)) : Prop :=
  Option.Rel (DifferIn (Below deletedAt owner gone) (Below deletedAt owner gone')) table table'

variable (db : Database)

def FlagGone (n : Int64) : Prop :=
  ∃ row ∈ db.flags.getD [], row.id = n ∧ row.deletedAt.isSome

def SegmentGone (n : Int64) : Prop :=
  ∃ row ∈ db.segments.getD [], row.id = n ∧
    Below SegmentRow.deletedAt SegmentRow.flagId db.FlagGone row

def TagGone (n : Int64) : Prop :=
  ∃ row ∈ db.tags.getD [], row.id = n ∧ row.deletedAt.isSome

/-- A link of a flag that is gone, or to a tag that is. -/
def TagLink.Below (link : TagLink) : Prop :=
  db.FlagGone link.flagId ∨ db.TagGone link.tagId

instance {ρ : Type} (deletedAt : ρ → Option String) (owner : ρ → Int64) (gone : Int64 → Prop)
    [DecidablePred gone] (row : ρ) : Decidable (Below deletedAt owner gone row) :=
  inferInstanceAs (Decidable (_ ∨ _))

instance : DecidablePred db.FlagGone :=
  fun n => inferInstanceAs (Decidable (∃ row ∈ db.flags.getD [], row.id = n ∧ _))

instance : DecidablePred db.SegmentGone :=
  fun n => inferInstanceAs (Decidable (∃ row ∈ db.segments.getD [], row.id = n ∧ _))

instance : DecidablePred db.TagGone :=
  fun n => inferInstanceAs (Decidable (∃ row ∈ db.tags.getD [], row.id = n ∧ _))

instance : DecidablePred (TagLink.Below db) :=
  fun link => inferInstanceAs (Decidable (db.FlagGone link.flagId ∨ db.TagGone link.tagId))

/-- Two databases that differ only in rows that are deleted and in rows below those. -/
structure DiffersInDeleted (db db' : Database) : Prop where
  flags : Option.Rel (DifferIn (·.deletedAt.isSome) (·.deletedAt.isSome)) db.flags db'.flags
  segments : DifferBelow SegmentRow.deletedAt SegmentRow.flagId db.FlagGone db'.FlagGone
    db.segments db'.segments
  constraints : DifferBelow ConstraintRow.deletedAt ConstraintRow.segmentId db.SegmentGone
    db'.SegmentGone db.constraints db'.constraints
  distributions : DifferBelow DistributionRow.deletedAt DistributionRow.segmentId db.SegmentGone
    db'.SegmentGone db.distributions db'.distributions
  variants : DifferBelow VariantRow.deletedAt VariantRow.flagId db.FlagGone db'.FlagGone
    db.variants db'.variants
  tags : Option.Rel (DifferIn (·.deletedAt.isSome) (·.deletedAt.isSome)) db.tags db'.tags
  tagLinks : Option.Rel (DifferIn (TagLink.Below db) (TagLink.Below db')) db.tagLinks db'.tagLinks

/-- Fetches of two databases give the same flags, or an error both. -/
def SameFlags (db db' : Database) : Prop :=
  ∀ flags, db.fetch = .ok flags ↔ db'.fetch = .ok flags

variable {db db' : Database} {ρ : Type} {deletedAt : ρ → Option String}
  {table table' : Option (List ρ)}

theorem mem_present {row : ρ} :
    row ∈ present deletedAt table ↔ row ∈ table.getD [] ∧ deletedAt row = none := by
  simp [present]

theorem eq_of_mem_present {key : ρ → Int64} (hnodup : ((table.getD []).map key).Nodup)
    {row other : ρ} (hrow : row ∈ present deletedAt table) (hother : other ∈ table.getD [])
    (hkey : key other = key row) : other = row :=
  List.inj_on_of_nodup_map hnodup hother (mem_present.mp hrow).1 hkey

theorem present_eq (h : Option.Rel
      (DifferIn (fun row => (deletedAt row).isSome) fun row => (deletedAt row).isSome)
      table table') : present deletedAt table = present deletedAt table' := by
  have hdeleted : ∀ row, (deletedAt row).isSome → (deletedAt row).isNone = false := by
    simp
  exact (differIn_getD h).filter_eq hdeleted hdeleted

theorem filter_read_eq {owner : ρ → Int64} {gone gone' : Int64 → Prop} {le : ρ → ρ → Bool}
    (htrans : ∀ a b c, le a b → le b c → le a c) (htotal : ∀ a b, le a b || le b a)
    (h : DifferBelow deletedAt owner gone gone' table table') {n : Int64} (hn : ¬ gone n)
    (hn' : ¬ gone' n) :
    ((present deletedAt table).mergeSort le).filter (owner · == n) =
      ((present deletedAt table').mergeSort le).filter (owner · == n) := by
  have hbelow : ∀ {gone : Int64 → Prop}, ¬ gone n → ∀ row, Below deletedAt owner gone row →
      ((owner row == n) && (deletedAt row).isNone) = false := by
    intro gone hn row hrow
    rcases hrow with hdeleted | hgone
    · simp [hdeleted]
    · have hne : owner row ≠ n := fun heq => hn (heq ▸ hgone)
      simp [hne]
  rw [filter_mergeSort htrans htotal, filter_mergeSort htrans htotal, present, present,
    List.filter_filter, List.filter_filter, (differIn_getD h).filter_eq (hbelow hn) (hbelow hn')]

variable (hkeyed : db.Keyed) (hkeyed' : db'.Keyed) (h : DiffersInDeleted db db')

include hkeyed

theorem not_flagGone {row : FlagRow} (hrow : row ∈ db.liveFlags) : ¬ db.FlagGone row.id := by
  rintro ⟨other, hother, hid, hdeleted⟩
  obtain rfl := eq_of_mem_present hkeyed.flags hrow hother hid
  simp [(mem_present.mp hrow).2] at hdeleted

theorem not_tagGone {row : TagRow} (hrow : row ∈ db.liveTags) : ¬ db.TagGone row.id := by
  rintro ⟨other, hother, hid, hdeleted⟩
  obtain rfl := eq_of_mem_present hkeyed.tags hrow hother hid
  simp [(mem_present.mp hrow).2] at hdeleted

theorem not_segmentGone {row : SegmentRow} (hrow : row ∈ db.liveSegments)
    (hflag : ¬ db.FlagGone row.flagId) : ¬ db.SegmentGone row.id := by
  rintro ⟨other, hother, hid, hbelow⟩
  obtain rfl := eq_of_mem_present hkeyed.segments hrow hother hid
  rcases hbelow with hdeleted | hgone
  · simp [(mem_present.mp hrow).2] at hdeleted
  · exact hflag hgone

include hkeyed' h

theorem links_eq {flag : FlagRow} {tag : TagRow} (hflag : flag ∈ db.liveFlags)
    (hflag' : flag ∈ db'.liveFlags) (htag : tag ∈ db.liveTags) (htag' : tag ∈ db'.liveTags) :
    (db.links.filter (·.flagId == flag.id)).filter (·.tagId == tag.id) =
      (db'.links.filter (·.flagId == flag.id)).filter (·.tagId == tag.id) := by
  have hbelow : ∀ {d : Database}, d.Keyed → flag ∈ d.liveFlags → tag ∈ d.liveTags →
      ∀ link : TagLink, link.Below d →
        (link.tagId == tag.id && link.flagId == flag.id) = false := by
    rintro d hkeyed hflag htag link (hgone | hgone)
    · have hne : link.flagId ≠ flag.id := fun heq => not_flagGone hkeyed hflag (heq ▸ hgone)
      simp [hne]
    · have hne : link.tagId ≠ tag.id := fun heq => not_tagGone hkeyed htag (heq ▸ hgone)
      simp [hne]
  rw [List.filter_filter, List.filter_filter]
  exact (differIn_getD h.tagLinks).filter_eq (hbelow hkeyed hflag htag)
    (hbelow hkeyed' hflag' htag')

theorem segmentOf_eq {row : SegmentRow} (hrow : row ∈ db.liveSegments)
    (hrow' : row ∈ db'.liveSegments) (hflag : ¬ db.FlagGone row.flagId)
    (hflag' : ¬ db'.FlagGone row.flagId) : db.read.segmentOf row = db'.read.segmentOf row := by
  have hn := not_segmentGone hkeyed hrow hflag
  have hn' := not_segmentGone hkeyed' hrow' hflag'
  have hconstraints : db.read.constraints.filter (·.segmentId == row.id) =
      db'.read.constraints.filter (·.segmentId == row.id) :=
    filter_read_eq (key_le_trans _) (key_le_total _) h.constraints hn hn'
  have hdistributions : db.read.distributions.filter (·.segmentId == row.id) =
      db'.read.distributions.filter (·.segmentId == row.id) :=
    filter_read_eq (key_le_trans _) (key_le_total _) h.distributions hn hn'
  rw [Rows.segmentOf, Rows.segmentOf, hconstraints, hdistributions]

theorem flagOf_eq {row : FlagRow} (hrow : row ∈ db.liveFlags) (hrow' : row ∈ db'.liveFlags) :
    db.read.flagOf row = db'.read.flagOf row := by
  have hn := not_flagGone hkeyed hrow
  have hn' := not_flagGone hkeyed' hrow'
  have hsegments : db.read.segments.filter (·.flagId == row.id) =
      db'.read.segments.filter (·.flagId == row.id) :=
    filter_read_eq SegmentRow.before_trans SegmentRow.before_total h.segments hn hn'
  have hvariants : db.read.variants.filter (·.flagId == row.id) =
      db'.read.variants.filter (·.flagId == row.id) :=
    filter_read_eq (key_le_trans _) (key_le_total _) h.variants hn hn'
  have htags : db.read.tags.filter (·.flagId == row.id) =
      db'.read.tags.filter (·.flagId == row.id) := by
    have hlive : db.liveTags = db'.liveTags := present_eq h.tags
    rw [filter_tags_read, filter_tags_read, ← hlive]
    refine List.flatMap_congr fun tag htag => ?_
    have htag := List.mem_mergeSort.mp htag
    rw [links_eq hkeyed hkeyed' h hrow hrow' htag (hlive ▸ htag)]
  rw [Rows.flagOf, Rows.flagOf, ← hsegments, hvariants, htags]
  congr 1
  refine List.map_congr_left fun segment hsegment => ?_
  have hflag : segment.flagId = row.id := eq_of_beq (List.mem_filter.mp hsegment).2
  have hlive := List.mem_mergeSort.mp (List.mem_of_mem_filter hsegment)
  have hlive' := List.mem_mergeSort.mp (List.mem_of_mem_filter (hsegments ▸ hsegment))
  exact segmentOf_eq hkeyed hkeyed' h hlive hlive' (hflag ▸ hn) (hflag ▸ hn')

theorem joined_eq : db.read.joined = db'.read.joined := by
  have hlive : db.liveFlags = db'.liveFlags := present_eq h.flags
  have hread : db.read.flags = db'.read.flags := by
    rw [read, read, hlive]
  rw [Rows.joined, Rows.joined, ← hread]
  refine List.map_congr_left fun row hrow => ?_
  have hrow := List.mem_mergeSort.mp hrow
  exact flagOf_eq hkeyed hkeyed' h hrow (hlive ▸ hrow)

omit hkeyed hkeyed' in
theorem complete_iff_complete : db.Complete ↔ db'.Complete := by
  rw [complete_iff, complete_iff, isSome_of_rel h.flags, isSome_of_rel h.segments,
    isSome_of_rel h.constraints, isSome_of_rel h.distributions, isSome_of_rel h.variants,
    isSome_of_rel h.tags, isSome_of_rel h.tagLinks]

/-- Two databases that differ only in rows that are deleted and in rows below those give the
same flags, or an error both, just if the attachments that are read can be read in both or in
neither. Those of deleted flags are among them. -/
theorem sameFlags_iff (hnumbered : db.Numbered) (hnumbered' : db'.Numbered) :
    SameFlags db db' ↔ (db.Complete →
      ((∀ row ∈ db.liveVariants, row.Legible) ↔ ∀ row ∈ db'.liveVariants, row.Legible)) := by
  simp only [SameFlags, fetch_eq_ok_iff hkeyed hnumbered, fetch_eq_ok_iff hkeyed' hnumbered',
    complete_iff_complete h, joined_eq hkeyed hkeyed' h]
  constructor
  · intro hsame hcomplete
    have hsame := hsame db'.read.joined
    simpa [hcomplete] using hsame
  · intro hlegible flags
    refine and_congr_right fun hcomplete => ?_
    rw [hlegible hcomplete]

end Deletion

section Litter

/-- One flag with a segment and a tag. -/
def cleared : Database where
  flags := some [⟨1, "a", none, true, none, none⟩]
  segments := some [⟨10, 1, none, 0, 100, none⟩]
  constraints := some [⟨100, 10, "plan", "EQ", "\"pro\"", none⟩]
  distributions := some [⟨1, 10, 7, some "x", 100, none⟩]
  variants := some [⟨7, 1, "x", none, none⟩]
  tags := some [⟨1, "t", none⟩]
  tagLinks := some [⟨1, 1⟩]

/-- The same with a deleted flag, a deleted segment and a deleted tag, and rows below them. -/
def littered : Database where
  flags := some [⟨2, "b", none, true, none, some "now"⟩, ⟨1, "a", none, true, none, none⟩]
  segments := some [⟨10, 1, none, 0, 100, none⟩, ⟨11, 1, none, 0, 100, some "now"⟩,
    ⟨20, 2, none, -1, 100, none⟩]
  constraints := some [⟨101, 11, "age", "GT", "18", none⟩,
    ⟨100, 10, "plan", "EQ", "\"pro\"", none⟩, ⟨102, 20, "age", "GT", "18", none⟩]
  distributions := some [⟨1, 10, 7, some "x", 100, none⟩, ⟨2, 20, 8, some "y", 200, none⟩]
  variants := some [⟨8, 2, "y", some " ", none⟩, ⟨7, 1, "x", none, none⟩]
  tags := some [⟨1, "t", none⟩, ⟨2, "u", some "now"⟩]
  tagLinks := some [⟨2, 1⟩, ⟨1, 1⟩, ⟨1, 2⟩]

theorem differsInDeleted_littered : DiffersInDeleted littered cleared where
  flags := .some (.left (by decide) (.both _ .nil))
  segments := .some (.both _ (.left (by decide) (.left (by decide) .nil)))
  constraints := .some (.left (by decide) (.both _ (.left (by decide) .nil)))
  distributions := .some (.both _ (.left (by decide) .nil))
  variants := .some (.left (by decide) (.both _ .nil))
  tags := .some (.both _ (.left (by decide) .nil))
  tagLinks := .some (.left (by decide) (.both _ (.left (by decide) .nil)))

theorem sameFlags_of_littered : littered.Keyed ∧ cleared.Keyed ∧ littered.Numbered ∧
    cleared.Numbered ∧ DiffersInDeleted littered cleared ∧ SameFlags littered cleared ∧
    ∃ flags, littered.fetch = .ok flags ∧ flags.map Flag.id = [1] := by
  have hkeyed : littered.Keyed := by decide
  have hkeyed' : cleared.Keyed := by decide
  have hnumbered : littered.Numbered := by decide
  have hnumbered' : cleared.Numbered := by decide
  have hlegible : ∀ row ∈ littered.liveVariants, row.Legible := by
    have hattachments : ∀ row ∈ littered.liveVariants, row.attachment ∈ [none, some " "] := by
      decide
    intro row hrow
    rcases List.mem_pair.mp (hattachments row hrow) with h | h <;> exact ⟨none, by rw [h]; rfl⟩
  have hlegible' : ∀ row ∈ cleared.liveVariants, row.Legible := by
    have hattachments : ∀ row ∈ cleared.liveVariants, row.attachment = none := by decide
    intro row hrow
    exact ⟨none, by rw [hattachments row hrow]; rfl⟩
  have hsame := (sameFlags_iff hkeyed hkeyed' differsInDeleted_littered hnumbered
    hnumbered').mpr fun _ => iff_of_true hlegible hlegible'
  have hfetch : ∃ flags, littered.fetch = .ok flags ∧ flags.map Flag.id = [1] :=
    ⟨_, by cbv, by cbv⟩
  exact ⟨hkeyed, hkeyed', hnumbered, hnumbered', differsInDeleted_littered, hsame, hfetch⟩

/-- A deleted flag with a variant whose attachment cannot be read. -/
def blotted : Database where
  flags := some [⟨5, "old", none, true, none, some "now"⟩]
  segments := some []
  constraints := some []
  distributions := some []
  variants := some [⟨50, 5, "v", some "\x7bnot json", none⟩]
  tags := some []
  tagLinks := some []

def unblotted : Database :=
  { blotted with flags := some [], variants := some [] }

theorem not_forall_sameFlags : ¬ ∀ db db' : Database, db.Keyed → db'.Keyed → db.Numbered →
    db'.Numbered → DiffersInDeleted db db' → SameFlags db db' := by
  intro h
  have hdiffers : DiffersInDeleted blotted unblotted :=
    ⟨.some (.left (by decide) .nil), .some .nil, .some .nil, .some .nil,
      .some (.left (by decide) .nil), .some .nil, .some .nil⟩
  have hsame := h blotted unblotted (by decide) (by decide) (by decide) (by decide) hdiffers
  have hfetch : blotted.fetch = .error .json := by cbv
  have hfetch' : unblotted.fetch = .ok [] := by cbv
  have hread := (hsame []).mpr hfetch'
  rw [hfetch] at hread
  cases hread

end Litter

end Database

end FeatureFlags
