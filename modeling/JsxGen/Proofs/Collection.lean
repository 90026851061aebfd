import JsxGen.Proofs.DeclaredNames
import JsxGen.Proofs.PropertyExpr

/-!
The models that the statements of collections name, each in the query for its items. The current
item is no variable of these statements: joined items are made by a function that binds it.
-/

namespace JsxGen

open Js

theorem newQueries_congr {bound known : List String} (same : ∀ name, name ∈ bound ↔ name ∈ known)
    (queries : List RelatedQuery) : newQueries bound queries = newQueries known queries := by
  induction queries generalizing bound known with
  | nil => rw [newQueries, newQueries]
  | cons query queries ih =>
    have next : newQueries (query.items :: bound) queries =
        newQueries (query.items :: known) queries := by
      apply ih
      intro name
      rw [List.mem_cons, List.mem_cons, same]
    simp only [newQueries, same, ih same, next]

/-- Queries are left out where an earlier part of the list has bound their items. -/
theorem newQueries_append (bound : List String) (first second : List RelatedQuery) :
    newQueries bound (first ++ second) = newQueries bound first ++
      newQueries (bound ++ (newQueries bound first).map (·.items)) second := by
  induction first generalizing bound with
  | nil => rw [List.nil_append, newQueries, List.nil_append, List.map_nil, List.append_nil]
  | cons query first ih =>
    rw [List.cons_append, newQueries, newQueries]
    split
    · exact ih bound
    · have same : ∀ name,
          name ∈ query.items :: bound ++ (newQueries (query.items :: bound) first).map (·.items) ↔
            name ∈ bound ++
              (query :: newQueries (query.items :: bound) first).map (·.items) := by
        intro name
        simp only [List.map_cons, List.mem_append, List.mem_cons]
        tauto
      rw [ih, List.cons_append]
      exact congrArg _ (congrArg _ (newQueries_congr same second))

theorem Query.items_free (query : Query) :
    query.items.free = [Hook.dataStoreBinding.name, Text.sanitize query.model] := by
  cases query with
  | mk model predicate =>
    cases predicate with
    | none => simp [items, Expr.free, Expr.freeAll, Expr.inline, Member.freeAll, Member.free,
        Member.ofString]
    | some predicate => simp [items, Expr.free, Expr.freeAll, Expr.inline, Member.freeAll,
        Member.free, Member.ofString, Expr.free_ofJson]

theorem item_mem_query_items {query : Query} :
    itemVariable ∈ query.items.free ↔ itemVariable = Text.sanitize query.model := by
  have hook : itemVariable ≠ Hook.dataStoreBinding.name := by decide
  simp only [query.items_free, List.mem_cons, List.not_mem_nil, or_false, hook, false_or]

/-- The function that joins related items binds the item itself. -/
theorem item_mem_joinRelated {items : Expr} {queries : List RelatedQuery} :
    itemVariable ∈ (joinRelated items queries).free ↔ itemVariable ∈ items.free := by
  simp only [joinRelated, Expr.free, Expr.freeAll, List.append_nil, List.mem_append,
    List.mem_filter, List.mem_singleton, not_true_eq_false, decide_false, Bool.false_eq_true,
    and_false, or_false]

theorem item_notMem_collectionProp (key : String) : itemVariable ∉ (collectionProp key).free := by
  have alias_ : itemVariable ≠ propAlias key := by
    intro same
    have ending := suffix_propAlias key
    rw [← same] at ending
    exact absurd ending (by decide)
  have query : itemVariable ≠ dataStoreName key := by
    intro same
    have ending := suffix_dataStoreName key
    rw [← same] at ending
    exact absurd ending (by decide)
  have undefined_ : itemVariable ≠ "undefined" := by decide
  simp [collectionProp, Stmt.constName, Stmt.free, Expr.free, alias_, query, undefined_]

theorem item_mem_relatedStmts {queries : List RelatedQuery} :
    itemVariable ∈ (queries.map RelatedQuery.toStmt).flatMap Stmt.free ↔
      itemVariable ∈ queries.map fun query => Text.sanitize query.model := by
  induction queries with
  | nil => simp
  | cons query queries ih =>
    have own : itemVariable ∈ query.toStmt.free ↔ itemVariable = Text.sanitize query.model := by
      rw [RelatedQuery.toStmt, Stmt.constName, Stmt.free]
      exact item_mem_query_items
    rw [List.map_cons, List.flatMap_cons, List.mem_append, own, ih, List.map_cons, List.mem_cons]

theorem item_mem_collectionStmts (related : String → List RelatedQuery) (bound : List String)
    (queries : List (String × Query)) :
    itemVariable ∈ (collectionStmts related bound queries).flatMap Stmt.free ↔
      itemVariable ∈ queries.map (fun query => Text.sanitize query.2.model) ∨
        itemVariable ∈ (newQueries bound
          (queries.flatMap fun query => related query.2.model)).map
            fun query => Text.sanitize query.model := by
  induction queries generalizing bound with
  | nil => simp [collectionStmts, newQueries]
  | cons entry queries ih =>
    rcases entry with ⟨key, query⟩
    have own : itemVariable ∈ (Stmt.constName (dataStoreName key)
        (if (related query.model).isEmpty then query.items
          else joinRelated query.items (related query.model))).free ↔
        itemVariable = Text.sanitize query.model := by
      rw [Stmt.constName, Stmt.free]
      split
      · exact item_mem_query_items
      · exact item_mem_joinRelated.trans item_mem_query_items
    have prop := item_notMem_collectionProp key
    rw [collectionStmts, List.flatMap_append, List.flatMap_cons, List.flatMap_cons,
      List.mem_append, List.mem_append, List.mem_append, item_mem_relatedStmts, own, ih,
      or_iff_right prop, List.map_cons, List.mem_cons, List.flatMap_cons, newQueries_append,
      List.map_append, List.mem_append]
    exact (or_left_comm.trans (or_congr_right or_assoc)).symm

/-- The models whose items a component queries. -/
def Component.queriedModels (options : SourceOptions) (component : Component) : List String :=
  component.queries.map (fun query => Text.sanitize query.2.model) ++
    (newQueries [] (component.relatedQueries options)).map fun query => Text.sanitize query.model

theorem Query.model_mem_items (query : Query) : Text.sanitize query.model ∈ query.items.free := by
  rw [query.items_free]
  exact List.mem_cons_of_mem _ List.mem_cons_self

theorem Query.model_mem_joined (query : Query) (queries : List RelatedQuery) :
    Text.sanitize query.model ∈
      (if queries.isEmpty then query.items else joinRelated query.items queries).free := by
  split
  · exact query.model_mem_items
  · rw [joinRelated, Expr.free, Expr.free]
    exact List.mem_append_left _ query.model_mem_items

theorem queried_subset_free (related : String → List RelatedQuery) (bound : List String)
    (queries : List (String × Query)) :
    queries.map (fun query => Text.sanitize query.2.model) ++
        (newQueries bound (queries.flatMap fun query => related query.2.model)).map
          (fun query => Text.sanitize query.model) ⊆
      (collectionStmts related bound queries).flatMap Stmt.free := by
  induction queries generalizing bound with
  | nil => simp [newQueries]
  | cons entry queries ih =>
    rcases entry with ⟨key, query⟩
    let fresh := newQueries bound (related query.model)
    have own := query.model_mem_joined (related query.model)
    have first : fresh.map (fun query => Text.sanitize query.model) ⊆
        (fresh.map RelatedQuery.toStmt).flatMap Stmt.free := by
      intro name named
      rcases List.mem_map.1 named with ⟨query, member, rfl⟩
      exact List.mem_flatMap.2
        ⟨_, List.mem_map_of_mem member, Query.model_mem_items ⟨query.model, none⟩⟩
    have below := ih (bound ++ fresh.map (·.items))
    intro name named
    rw [List.map_cons, List.flatMap_cons, newQueries_append, List.map_append, List.mem_append,
      List.mem_cons, List.mem_append] at named
    rw [collectionStmts, List.flatMap_append, List.flatMap_cons, List.flatMap_cons,
      List.mem_append, List.mem_append, List.mem_append]
    rcases named with (rfl | later) | new | later
    · exact .inr (.inl own)
    · exact .inr (.inr (.inr (below (List.mem_append_left _ later))))
    · exact .inl (first new)
    · exact .inr (.inr (.inr (below (List.mem_append_right _ later))))

/-- Each of these models is read by the statements of the collections. -/
theorem Component.queriedModels_subset_free (options : SourceOptions) (component : Component) :
    component.queriedModels options ⊆
      (component.collectionStmts options.relatedSchema).flatMap Stmt.free := by
  rw [queriedModels, relatedQueries, Component.collectionStmts]
  cases options.relatedSchema with
  | none => exact queried_subset_free (fun _ => []) [] component.queries
  | some schema => exact queried_subset_free schema.relatedQueries [] component.queries

theorem Component.item_mem_collectionStmts (options : SourceOptions) (component : Component) :
    itemVariable ∈ (component.collectionStmts options.relatedSchema).flatMap Stmt.free ↔
      itemVariable ∈ component.queriedModels options := by
  rw [queriedModels, List.mem_append]
  exact JsxGen.item_mem_collectionStmts _ [] component.queries

end JsxGen
