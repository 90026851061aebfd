import JsxGen.Proofs.Json.Held

/-!
Objects that are written: which of their fields are there, that their keys are distinct, and that maps
and lists are decoded item by item again. A tag that stands first is read off (`tagged_holding`).
-/

namespace JsxGen

open Document

namespace Json

@[simp] theorem lookup_field? (key name : String) (value : Option Json) :
    (field? key value).lookup name = if name = key then value else none := by
  cases value with
  | none => simp [field?]
  | some json =>
    by_cases same : name = key
    · simp [field?, same]
    · simp [field?, List.lookup_cons, beq_eq_false_iff_ne.2 same, same]

theorem allDistinct_iff {items : List Json} : AllDistinct items ↔ ∀ item ∈ items, item.Distinct := by
  induction items with
  | nil => simp [AllDistinct]
  | cons item items ih => simp [AllDistinct, ih]

end Json

namespace OrderedMap

variable {α : Type}

theorem encode_distinct {m : OrderedMap α} {value : α → Json}
    (each : ∀ a ∈ m.values, (value a).Distinct) : (m.encode value).Distinct := by
  refine ⟨?_, Json.fieldsDistinct_iff.2 fun field member => ?_⟩
  · have same : Entries.keys (m.entries.map fun entry => (entry.1, value entry.2)) = m.keys := by
      rw [Entries.keys, List.map_map]
      rfl
    rw [same]
    exact m.nodup
  · obtain ⟨entry, listed, rfl⟩ := List.mem_map.1 member
    exact each _ (List.mem_map_of_mem listed)

theorem lookup_encode (m : OrderedMap α) (value : α → Json) (key : String) :
    (m.entries.map fun entry => (entry.1, value entry.2)).lookup key = (m.get? key).map value := by
  rw [get?]
  induction m.entries with
  | nil => rfl
  | cons entry entries ih =>
    rw [List.map_cons, List.lookup_cons, List.lookup_cons, ih]
    cases key == entry.1 <;> rfl

/-- A map that is written is read back value by value. -/
theorem map_encode {m : OrderedMap α} {value : α → Json} {g : Document → Decoded α} {back : α → α}
    (each : ∀ a ∈ m.values, g (ofJson (value a)) = .ok (back a)) :
    (ofJson (m.encode value)).map (fun part => g part.1) = .ok (m.map back) := by
  have entries : (m.entries.map fun entry => (entry.1, value entry.2)).mapM
      (fun field => (g (ofJson field.2)).map (field.1, ·)) = .ok (m.map back).entries := by
    rw [List.mapM_map, mapM_eq_ok, map, List.forall₂_map_right_iff, List.forall₂_same]
    intro entry listed
    rw [Function.comp_apply, each _ (List.mem_map_of_mem listed)]
    rfl
  rw [encode, ofJson_obj, map_ofJson, entries]
  exact congrArg Except.ok (ofList_entries (m.map back))

theorem map_encode_self {m : OrderedMap α} {value : α → Json} {g : Document → Decoded α}
    (each : ∀ a ∈ m.values, g (ofJson (value a)) = .ok a) :
    (ofJson (m.encode value)).map (fun part => g part.1) = .ok m := by
  have back : (ofJson (m.encode value)).map (fun part => g part.1) = .ok (m.map id) :=
    map_encode each
  have same : m.map id = m := map_eq_self_iff.2 fun _ _ => rfl
  rwa [same] at back

end OrderedMap

namespace Fields

/-- A value that may be absent is read back if it is not written as `null`. -/
theorem orAbsent_map_some {α : Type} {value : α → Json} {read : Json → Option α} {back : α → α}
    {x : Option α} (each : ∀ a ∈ x, value a ≠ .null ∧ read (value a) = some (back a)) :
    orAbsent read (x.map value) = some (x.map back) := by
  cases x with
  | none => rfl
  | some a =>
    have kept := each a rfl
    rw [Option.map_some, orAbsent, kept.2]
    · rfl
    · exact kept.1

@[simp] theorem orAbsent_map_str (text : Option String) :
    orAbsent Json.text? (text.map .str) = some text := by
  cases text <;> rfl

theorem orAbsent_map_encode {α : Type} {value : α → Json} {g : Document → Decoded α} {back : α → α}
    (m : Option (OrderedMap α))
    (each : ∀ values ∈ m, ∀ a ∈ values.values, g (ofJson (value a)) = .ok (back a)) :
    orAbsent (fun json => ((ofJson json).map fun part => g part.1).toOption)
      (m.map (·.encode value)) = some (m.map (·.map back)) := by
  apply orAbsent_map_some
  intro values given
  have kept : (ofJson (values.encode value)).map (fun part => g part.1) = .ok (values.map back) :=
    OrderedMap.map_encode (each values given)
  exact ⟨Json.noConfusion, congrArg Except.toOption kept⟩

end Fields

/-- A list that is written is read back item by item. -/
theorem list_map_ofJson {α : Type} {xs : List α} {value : α → Json} {g : Document → Decoded α}
    (each : ∀ x ∈ xs, g (ofJson (value x)) = .ok x) :
    (ofJson (.arr (xs.map value))).list (fun part => g part.1) = .ok xs := by
  rw [list_ofJson, List.mapM_map, mapM_eq_ok, List.forall₂_same]
  exact each

namespace Document

theorem taggedMembers_ofFields {τ : Type} (variants : List (String × τ)) (tag : τ)
    {fields : List (String × Json)} (distinct : Json.FieldsDistinct fields)
    (untagged : "type" ∉ Entries.keys fields) :
    taggedMembers variants (some tag) (ofFields fields) = .ok (some tag, ofFields fields) := by
  induction fields with
  | nil => rfl
  | cons field fields ih =>
    obtain ⟨key, json⟩ := field
    rw [Entries.keys, List.map_cons, List.mem_cons, not_or] at untagged
    rw [ofFields, taggedMembers, if_neg (Ne.symm untagged.1), readThrough_ofJson distinct.1,
      ih distinct.2 untagged.2]
    rfl

/-- A tag that is written first is read off, and the other fields are left. -/
theorem tagged_holding {τ : Type} {variants : List (String × τ)} {name : String} {tag : τ}
    {fields : List (String × Json)} (known : variants.lookup name = some tag)
    (distinct : Json.FieldsDistinct fields) (untagged : "type" ∉ Entries.keys fields) :
    (holding (("type", .str name) :: fields)).tagged variants = .ok (tag, holding fields) := by
  have first : (ofJson (.str name)).variant variants = .ok tag := by
    rw [ofJson, variant]
    refine bind_eq_ok.2 ⟨name, rfl, ?_⟩
    rw [known]
    rfl
  have others := taggedMembers_ofFields variants tag distinct untagged
  rw [tagged, ofFields, taggedMembers, if_pos rfl]
  exact bind_eq_ok.2 ⟨(some tag, ofFields fields), bind_eq_ok.2 ⟨tag, first, others⟩, rfl⟩

end Document

end JsxGen
