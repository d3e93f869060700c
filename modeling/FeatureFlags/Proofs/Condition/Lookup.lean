import FeatureFlags.Condition.Evaluation
import FeatureFlags.Proofs.Identifier

namespace FeatureFlags

/-- The value at the end of a path through objects within objects. -/
inductive Json.Reaches : Json → List String → Json → Prop
  | here (value : Json) : Reaches value [] value
  | inside {members : Attributes} {name : String} {names : List String} {inner value : Json}
      (hmember : members.get? name = some inner) (hinner : Reaches inner names value) :
      Reaches (.object members) (name :: names) value

namespace Attributes

variable {attributes : Attributes} {key name property : String} {value : Json}

theorem get?_insert_of_ne (attributes : Attributes) (value : Json) (h : name ≠ key) :
    (attributes.insert key value).get? name = attributes.get? name := by
  have hkey : (key == name) = false := beq_eq_false_iff_ne.mpr h.symm
  induction attributes with
  | nil => simp [insert, get?, hkey]
  | cons first rest ih =>
      unfold insert
      split
      · rw [get?, get?, List.find?_cons, hkey]
      · split
        · next heq => rw [get?, get?, List.find?_cons, hkey, List.find?_cons, ← heq, hkey]
        · rw [get?, get?, List.find?_cons, List.find?_cons]
          cases first.1 == name with
          | true => rfl
          | false => exact ih

theorem descend_eq_some_iff {outer : Json} {names : List String} :
    descend outer (names.map String.toList) = some value ↔ outer.Reaches names value := by
  induction names generalizing outer with
  | nil =>
      rw [List.map_nil, descend, Option.some.injEq]
      constructor
      · rintro rfl
        exact .here outer
      · rintro ⟨⟩
        rfl
  | cons name names ih =>
      rw [List.map_cons]
      cases outer with
      | object members =>
          rw [descend, String.ofList_toList]
          constructor
          · intro h
            split at h
            · next inner hmember => exact .inside hmember (ih.mp h)
            · cases h
          · intro h
            cases h with
            | inside hmember hinner =>
                rw [hmember]
                exact ih.mpr hinner
      | _ =>
          constructor
          · rintro ⟨⟩
          · rintro ⟨⟩

theorem descend_insert_of_ne {first : List Char} (h : String.ofList first ≠ key)
    (attributes : Attributes) (value : Json) (rest : List (List Char)) :
    descend (.object (attributes.insert key value)) (first :: rest) =
      descend (.object attributes) (first :: rest) := by
  rw [descend, descend, get?_insert_of_ne attributes value h]

theorem eq_or_starts_of_lookup_insert_ne
    (h : (attributes.insert key value).lookup property ≠ attributes.lookup property) :
    property = key ∨ '.' ∉ key.toList ∧ ∃ rest, property = key ++ "." ++ rest := by
  by_cases hown : property = key
  · exact .inl hown
  right
  have hwhole := get?_insert_of_ne attributes value hown
  by_cases hdot : '.' ∈ property.toList
  case neg =>
    refine absurd ?_ h
    rw [lookup, lookup, hwhole, if_neg (by simpa using hdot), if_neg (by simpa using hdot)]
  case pos =>
    obtain ⟨first, rest, hproperty, hfirst⟩ := List.eq_append_cons_of_mem hdot
    by_cases hkey : String.ofList first = key
    · refine ⟨by rwa [← hkey, String.toList_ofList], String.ofList rest, ?_⟩
      rw [← hkey, ← String.toList_inj, hproperty]
      simp
    · refine absurd ?_ h
      have hsplit : Text.split '.' property.toList = first :: rest.splitOn '.' := by
        rw [Text.split_eq_splitOn, hproperty, List.splitOn_append_cons_self_of_not_mem hfirst]
      rw [lookup, lookup, hwhole, hsplit, descend_insert_of_ne hkey]

section Dotted

variable {names : List String}

theorem split_intercalate (hne : names ≠ []) (hdots : ∀ name ∈ names, '.' ∉ name.toList) :
    Text.split '.' (".".intercalate names).toList = names.map String.toList := by
  have hpieces : ∀ piece ∈ names.map String.toList, '.' ∉ piece := by
    intro piece hpiece
    obtain ⟨name, hname, rfl⟩ := List.mem_map.mp hpiece
    exact hdots name hname
  have hdot : ".".toList = ['.'] := rfl
  rw [Text.split_eq_splitOn, String.toList_intercalate, hdot,
    List.splitOn_intercalate '.' hpieces (by simpa using hne)]

theorem lookup_intercalate (attributes : Attributes) (hne : names ≠ [])
    (hdots : ∀ name ∈ names, '.' ∉ name.toList) :
    attributes.lookup (".".intercalate names) =
      (attributes.get? (".".intercalate names)).or
        (descend (.object attributes) (names.map String.toList)) := by
  rw [lookup, split_intercalate hne hdots]
  cases hwhole : attributes.get? (".".intercalate names) with
  | some value => rfl
  | none =>
      rw [Option.none_or]
      match names, hne with
      | [name], _ =>
          -- one name is the whole name
          rw [String.intercalate_singleton] at hwhole ⊢
          rw [if_neg (by simpa using hdots name (by simp)), List.map_singleton, descend,
            String.ofList_toList, hwhole]
      | name :: next :: rest, _ => rw [if_pos (by simp)]

end Dotted

end Attributes

namespace Context

variable {c : Context} {property : String} {names : List String}

/-- What a property is that is told by a JSON value. -/
def told (property : String) (value : Json) : Except EvaluationError Value :=
  match Value.ofJson? value with
  | some v => .ok v
  | none => .error (.unsupportedType property)

/-- The layers in which a property is looked for. A layer that has a value for it is the last,
also when that value is none that a constraint compares. -/
inductive Layered (c : Context) (property : String) (names : List String) :
    Except EvaluationError Value → Prop
  | whole {value : Json} (hwhole : c.attributes.get? property = some value) :
      c.Layered property names (told property value)
  | nested {value : Json} (hwhole : c.attributes.get? property = none)
      (hpath : (Json.object c.attributes).Reaches names value) :
      c.Layered property names (told property value)
  | entityId (hnone : c.attributes.get? property = none) (hproperty : property = "@entity_id") :
      c.Layered property names (.ok (.text c.entityId))
  | entityType (hnone : c.attributes.get? property = none)
      (hproperty : property = "@entity_type") :
      c.Layered property names (.ok (.text c.entityType))
  | missing (hwhole : c.attributes.get? property = none)
      (hpath : ∀ value, ¬ (Json.object c.attributes).Reaches names value)
      (hid : property ≠ "@entity_id") (htype : property ≠ "@entity_type") :
      c.Layered property names (.error (.missingProperty property))

theorem resolve_of_lookup {value : Json} (h : c.attributes.lookup property = some value) :
    c.resolve property = told property value := by
  rw [resolve, h]
  rfl

theorem resolve_of_get? {value : Json} (h : c.attributes.get? property = some value) :
    c.resolve property = told property value := by
  apply resolve_of_lookup
  rw [Attributes.lookup, h]

theorem resolve_of_missing (h : c.attributes.lookup property = none)
    (hid : property ≠ "@entity_id") (htype : property ≠ "@entity_type") :
    c.resolve property = .error (.missingProperty property) := by
  rw [resolve, h]
  simp [entityIdProperty, entityTypeProperty, hid, htype]

theorem lookup_implicit (attributes : Attributes)
    (hproperty : property = "@entity_id" ∨ property = "@entity_type") :
    attributes.lookup property = attributes.get? property := by
  have hdot : property.toList.contains '.' = false := by
    rcases hproperty with rfl | rfl <;> decide
  rw [Attributes.lookup, hdot]
  cases attributes.get? property <;> rfl

theorem resolve_entityId (h : c.attributes.get? "@entity_id" = none) :
    c.resolve "@entity_id" = .ok (.text c.entityId) := by
  rw [resolve, lookup_implicit _ (.inl rfl), h]
  rfl

theorem resolve_entityType (h : c.attributes.get? "@entity_type" = none) :
    c.resolve "@entity_type" = .ok (.text c.entityType) := by
  rw [resolve, lookup_implicit _ (.inr rfl), h]
  rfl

section Layers

variable {outcome : Except EvaluationError Value}

theorem layered_resolve (hne : names ≠ []) (hdots : ∀ name ∈ names, '.' ∉ name.toList)
    (hproperty : property = ".".intercalate names) :
    c.Layered property names (c.resolve property) := by
  have hlookup := Attributes.lookup_intercalate c.attributes hne hdots
  rw [← hproperty] at hlookup
  cases hwhole : c.attributes.get? property with
  | some value =>
      rw [hwhole, Option.some_or] at hlookup
      rw [resolve_of_lookup hlookup]
      exact .whole hwhole
  | none =>
      rw [hwhole, Option.none_or] at hlookup
      cases hpath : Attributes.descend (.object c.attributes) (names.map String.toList) with
      | some value =>
          rw [resolve_of_lookup (hlookup.trans hpath)]
          exact .nested hwhole (Attributes.descend_eq_some_iff.mp hpath)
      | none =>
          by_cases hid : property = "@entity_id"
          · subst hid
            rw [resolve_entityId hwhole]
            exact .entityId hwhole rfl
          by_cases htype : property = "@entity_type"
          · subst htype
            rw [resolve_entityType hwhole]
            exact .entityType hwhole rfl
          rw [resolve_of_missing (hlookup.trans hpath) hid htype]
          refine .missing hwhole (fun value hvalue => ?_) hid htype
          rw [Attributes.descend_eq_some_iff.mpr hvalue] at hpath
          cases hpath

theorem resolve_of_layered (hne : names ≠ []) (hdots : ∀ name ∈ names, '.' ∉ name.toList)
    (hproperty : property = ".".intercalate names) (h : c.Layered property names outcome) :
    c.resolve property = outcome := by
  have hlookup := Attributes.lookup_intercalate c.attributes hne hdots
  rw [← hproperty] at hlookup
  cases h with
  | whole hwhole => exact resolve_of_get? hwhole
  | nested hwhole hpath =>
      rw [hwhole, Option.none_or, Attributes.descend_eq_some_iff.mpr hpath] at hlookup
      exact resolve_of_lookup hlookup
  | entityId hnone hid =>
      subst hid
      exact resolve_entityId hnone
  | entityType hnone htype =>
      subst htype
      exact resolve_entityType hnone
  | missing hwhole hpath hid htype =>
      have hnone : Attributes.descend (.object c.attributes) (names.map String.toList) = none :=
        Option.eq_none_iff_forall_ne_some.mpr fun value hvalue =>
          hpath value (Attributes.descend_eq_some_iff.mp hvalue)
      rw [hwhole, Option.none_or, hnone] at hlookup
      exact resolve_of_missing hlookup hid htype

end Layers

theorem forall_resolve_eq_text_iff {f : String → Context}
    (hattributes : ∀ s, (f s).attributes = c.attributes)
    (hnone : c.attributes.get? property = none → ∀ s, (f s).resolve property = .ok (.text s)) :
    (∀ s, (f s).resolve property = .ok (.text s)) ↔ c.attributes.get? property = none := by
  refine ⟨fun h => ?_, hnone⟩
  cases hwhole : c.attributes.get? property with
  | none => rfl
  | some value =>
      -- the attribute tells the same of two texts
      have htold : ∀ s, told property value = .ok (.text s) := fun s =>
        (resolve_of_get? (hattributes s ▸ hwhole)).symm.trans (h s)
      have hsame := (htold "").symm.trans (htold "a")
      simp at hsame

/-- An attribute matters to its own name and to the paths that begin with it. A dotted name is
the attribute of that whole name, or else what the path reaches. The properties that every entity
has are the context's own where no attribute has their names. -/
theorem resolve_local_and_layered (c : Context) :
    (∀ key value property,
      (c.withAttribute key value).resolve property ≠ c.resolve property →
        property = key ∨ '.' ∉ key.toList ∧ ∃ rest, property = key ++ "." ++ rest) ∧
    (∀ names property, names ≠ [] → (∀ name ∈ names, '.' ∉ name.toList) →
      property = ".".intercalate names →
        ∀ outcome, c.resolve property = outcome ↔ c.Layered property names outcome) ∧
    (∀ property, c.attributes.get? property = some .null →
      c.resolve property = .error (.unsupportedType property)) ∧
    ((∀ entityId, { c with entityId }.resolve "@entity_id" = .ok (.text entityId)) ↔
      c.attributes.get? "@entity_id" = none) ∧
    ((∀ entityType, { c with entityType }.resolve "@entity_type" = .ok (.text entityType)) ↔
      c.attributes.get? "@entity_type" = none) := by
  refine ⟨?frame, ?layers, ?null, ?entityId, ?entityType⟩
  case frame =>
    intro key value property h
    have hlookup : (c.attributes.insert key value).lookup property ≠
        c.attributes.lookup property := by
      intro hsame
      rw [withAttribute, resolve, hsame] at h
      exact h rfl
    exact Attributes.eq_or_starts_of_lookup_insert_ne hlookup
  case layers =>
    intro names property hne hdots hproperty outcome
    refine ⟨?_, resolve_of_layered hne hdots hproperty⟩
    rintro rfl
    exact layered_resolve hne hdots hproperty
  case null =>
    intro property hnull
    exact resolve_of_get? hnull
  case entityId =>
    exact forall_resolve_eq_text_iff (fun _ => rfl) fun hnone _ => resolve_entityId hnone
  case entityType =>
    exact forall_resolve_eq_text_iff (fun _ => rfl) fun hnone _ => resolve_entityType hnone

/-- An entity with a value behind three names, and a null at an attribute whose name is a path. -/
def nestedContext : Context :=
  { Context.ofEntity "e1" with
    attributes := [("a", .object [("b", .object [("c", .string "deep")])]), ("a.b", .null)] }

theorem local_and_layered_of_nestedContext :
    nestedContext.resolve "a.b" = .error (.unsupportedType "a.b") ∧
      nestedContext.resolve "a.b.c" = .ok (.text "deep") ∧
      (∀ value, (nestedContext.withAttribute "a.b" value).resolve "a.b.c" =
        nestedContext.resolve "a.b.c") ∧
      ∀ entityId, { nestedContext with entityId }.resolve "@entity_id" = .ok (.text entityId) := by
  obtain ⟨hframe, hlayers, hnull, hentityId, -⟩ := resolve_local_and_layered nestedContext
  have hpath : (Json.object nestedContext.attributes).Reaches ["a", "b", "c"] (.string "deep") :=
    .inside rfl (.inside rfl (.inside rfl (.here _)))
  have hdeep : nestedContext.Layered "a.b.c" ["a", "b", "c"] (.ok (.text "deep")) :=
    .nested rfl hpath
  refine ⟨hnull "a.b" rfl,
    (hlayers ["a", "b", "c"] "a.b.c" (by decide) (by decide) (by decide) _).mpr hdeep,
    fun value => ?_, hentityId.mpr rfl⟩
  by_contra hchanged
  obtain hown | ⟨hdot, -⟩ := hframe "a.b" value "a.b.c" hchanged
  · exact absurd hown (by decide)
  · exact absurd (by decide) hdot

end Context

end FeatureFlags
