import JsxGen.Collection
import Mathlib.Data.List.Nodup

/-!
The related items that are queried for a model: one query for each relationship with many items of
a model that the schema has, by the first key of the relationship.
-/

namespace JsxGen

/-- What is made of some items of a list keeps their labels, in order. -/
theorem map_filterMap_sublist {α β γ : Type} {f : α → Option β} {label : α → γ} {label' : β → γ}
    (same : ∀ a b, f a = some b → label' b = label a) (xs : List α) :
    ((xs.filterMap f).map label').Sublist (xs.map label) := by
  induction xs with
  | nil => exact .slnil
  | cons x xs ih =>
    cases made : f x with
    | none =>
      rw [List.filterMap_cons_none made, List.map_cons]
      exact ih.cons _
    | some y =>
      rw [List.filterMap_cons_some made, List.map_cons, List.map_cons, same x y made]
      exact ih.cons_cons _

theorem DataModel.manyRelations_nodup (model : DataModel) :
    (model.manyRelations.map (·.field)).Nodup := by
  refine model.fields.nodup.sublist (map_filterMap_sublist (fun entry relation made => ?_) _)
  dsimp only at made
  split at made
  · cases made
    rfl
  · cases made

namespace DataSchema

/-- The query for a relationship of a model, if it has a key and the schema has the other model. -/
def query? (schema : DataSchema) (relation : HasMany) : Option RelatedQuery :=
  if schema.models.contains relation.model then
    relation.keys.head?.map fun key =>
      ⟨relation.field, relation.model, key, relatedVariable relation.model⟩
  else none

theorem relatedQueries_eq (schema : DataSchema) (model : String) :
    schema.relatedQueries model = (schema.models.get? model).toList.flatMap fun dataModel =>
      dataModel.manyRelations.filterMap schema.query? := by
  unfold relatedQueries
  cases schema.models.get? model with
  | none => rfl
  | some dataModel =>
    rw [Option.toList_some, List.flatMap_singleton]
    refine List.filterMap_congr fun relation _ => ?_
    unfold query?
    cases relation.keys with
    | nil => simp
    | cons key keys => rfl

theorem query?_eq_some {schema : DataSchema} {relation : HasMany} {query : RelatedQuery} :
    schema.query? relation = some query ↔ relation.model ∈ schema.models.keys ∧
      ∃ key, relation.keys.head? = some key ∧
        query = ⟨relation.field, relation.model, key, relatedVariable relation.model⟩ := by
  unfold query?
  split
  · rename_i known
    rw [Option.map_eq_some_iff, and_iff_right (List.contains_iff_mem.1 known)]
    exact exists_congr fun key => and_congr_right fun _ => eq_comm
  · rename_i unknown
    exact iff_of_false nofun fun made => unknown (List.contains_iff_mem.2 made.1)

variable {schema : DataSchema} {model : String} {query : RelatedQuery}

theorem mem_relatedQueries : query ∈ schema.relatedQueries model ↔
    ∃ dataModel, schema.models.get? model = some dataModel ∧
      ∃ relation ∈ dataModel.manyRelations, schema.query? relation = some query := by
  rw [relatedQueries_eq, List.mem_flatMap]
  simp only [Option.mem_toList, List.mem_filterMap]

theorem items_of_mem (member : query ∈ schema.relatedQueries model) :
    query.items = relatedVariable query.model := by
  rcases mem_relatedQueries.1 member with ⟨_, _, relation, _, made⟩
  rcases query?_eq_some.1 made with ⟨_, key, _, rfl⟩
  rfl

/-- No two queries for one model fill the same field. -/
theorem relatedQueries_nodup (schema : DataSchema) (model : String) :
    ((schema.relatedQueries model).map (·.field)).Nodup := by
  rw [relatedQueries_eq]
  cases schema.models.get? model with
  | none => exact .nil
  | some dataModel =>
    rw [Option.toList_some, List.flatMap_singleton]
    refine dataModel.manyRelations_nodup.sublist
      (map_filterMap_sublist (fun relation query made => ?_) _)
    rcases query?_eq_some.1 made with ⟨_, key, _, rfl⟩
    rfl

end DataSchema

end JsxGen
