import JsxGen.Proofs.Collection
import JsxGen.Proofs.Js.ListMethods
import JsxGen.Proofs.RelatedQueries

/-!
The items of a collection with the items related to each. `result_joinRelated` says what each item
is when the component runs.
-/

namespace JsxGen

open Js

/-- A field that is not there reads as undefined. -/
def Js.Record.read (fields : Record) (name : String) : Value := (fields name).getD .undefined

/-- A list of records. -/
def Js.Value.records (rows : List Record) : Value := .array (rows.map .record)

namespace RelatedQuery

/-- The related records whose key is the `id` of the item. -/
def matching (runtime : Runtime) (query : RelatedQuery) (rows : List Record) (item : Record) :
    List Record :=
  rows.filter fun row => (row.read query.foreignKey).same runtime (item.read "id")

/-- The expression for the related items that refer to the current item. -/
def matchingExpr (query : RelatedQuery) : Expr :=
  .call (.member (.ident query.items) "filter" false)
    [.arrow ["model"] (.binary (.member (.ident "model") query.foreignKey false) .strictEq
      (.member (.ident itemVariable) "id" false))]

theorem related_eq (query : RelatedQuery) :
    query.related = .ofString query.field query.matchingExpr :=
  rfl

theorem result_matchingExpr (runtime : Runtime) {scope : Scope} {query : RelatedQuery}
    {rows : List Record} {item : Record} (bound : scope query.items = some (.records rows))
    (current : scope itemVariable = some (.record item)) :
    query.matchingExpr.result runtime scope =
      some (.records (query.matching runtime rows item)) := by
  have found : (Expr.ident query.items).result runtime scope = some (.records rows) := by
    rw [result_ident, bound]
  rw [matchingExpr, result_filter runtime scope found]
  refine Value.filterItems_array fun row _ => ?_
  have key := result_field runtime (scope.bind "model" (.record row)) query.foreignKey
    (scope.bind_self "model" (.record row))
  have outer : scope.bind "model" (.record row) itemVariable = some (.record item) := by
    rw [scope.bind_of_ne _ (by decide), current]
  exact result_strictEq _ _ key (result_field _ _ _ outer)

end RelatedQuery

/-- The record is the item, with the related records that refer to it in the field of each query. -/
structure JoinedWith (runtime : Runtime) (queries : List RelatedQuery)
    (rows : String → List Record) (item joined : Record) : Prop where
  related : ∀ query ∈ queries,
    joined query.field = some (.records (query.matching runtime (rows query.items) item))
  others : ∀ name, name ∉ queries.map (·.field) → joined name = item name

/-- A member for each query sets its field and leaves the others. -/
theorem results_related (runtime : Runtime) {scope : Scope} {queries : List RelatedQuery}
    {v : RelatedQuery → Value} (distinct : (queries.map (·.field)).Nodup)
    (each : ∀ query ∈ queries, query.matchingExpr.result runtime scope = some (v query))
    (before : Record) :
    ∃ after, Member.results runtime scope before (queries.map RelatedQuery.related) = some after ∧
      (∀ query ∈ queries, after query.field = some (v query)) ∧
      ∀ name, name ∉ queries.map (·.field) → after name = before name := by
  induction queries generalizing before with
  | nil => exact ⟨before, by rw [List.map_nil, Member.results], by simp, fun _ _ => rfl⟩
  | cons query queries ih =>
    rw [List.map_cons, List.nodup_cons] at distinct
    rw [List.forall_mem_cons] at each
    rcases ih distinct.2 each.2 (Function.update before query.field (some (v query))) with
      ⟨after, made, set_, kept⟩
    refine ⟨after, ?_, ?_, ?_⟩
    · rw [List.map_cons, RelatedQuery.related_eq, Member.ofString,
        results_property _ _ _ _ _ each.1, Key.text_ofString, made]
    · rw [List.forall_mem_cons]
      refine ⟨?_, set_⟩
      rw [kept _ distinct.1, Function.update_self]
    · intro name other
      rw [List.map_cons, List.mem_cons, not_or] at other
      rw [kept name other.2, Function.update_of_ne other.1]

/-- The body of the function that joins the related items to one item. -/
theorem result_joinedItem (runtime : Runtime) {scope : Scope} {queries : List RelatedQuery}
    {rows : String → List Record} {item : Record} (distinct : (queries.map (·.field)).Nodup)
    (bound : ∀ query ∈ queries, scope query.items = some (.records (rows query.items)))
    (current : scope itemVariable = some (.record item)) :
    ∃ joined, (Expr.object (.spread (.ident itemVariable) :: queries.map RelatedQuery.related)
        true).result runtime scope = some (.record joined) ∧
      JoinedWith runtime queries rows item joined := by
  have spread : (Expr.ident itemVariable).result runtime scope = some (.record item) := by
    rw [result_ident, current]
  have whole : Record.overlay (fun _ => none) item = item := by
    funext name
    simp [Record.overlay]
  rcases results_related runtime distinct
    (fun query member => query.result_matchingExpr runtime (bound query member) current) item with
    ⟨joined, made, related, others⟩
  refine ⟨joined, ?_, related, others⟩
  rw [result_object, results_spread _ _ _ _ spread, whole, made, Option.map_some]

/-- Whatever lists of records the variables of the queries hold. A field may be called `id`: the
keys are compared with the `id` that the item came with. -/
theorem result_joinRelated (runtime : Runtime) (scope : Scope) (schema : DataSchema)
    (model : String) (items : Expr) (found : List Record) (rows : String → List Record)
    (queried : items.result runtime scope = some (.records found))
    (bound : ∀ query ∈ schema.relatedQueries model,
      scope query.items = some (.records (rows query.items))) :
    ∃ joined, (joinRelated items (schema.relatedQueries model)).result runtime scope =
        some (.records joined) ∧
      List.Forall₂ (JoinedWith runtime (schema.relatedQueries model) rows) found joined := by
  have distinct := schema.relatedQueries_nodup model
  have inside : ∀ item : Record, ∀ query ∈ schema.relatedQueries model,
      scope.bind itemVariable (.record item) query.items =
        some (.records (rows query.items)) := by
    intro item query member
    have other : query.items ≠ itemVariable := by
      intro same
      have ending := suffix_relatedVariable query.model
      rw [← DataSchema.items_of_mem member, same] at ending
      exact absurd ending (by decide)
    rw [scope.bind_of_ne _ other, bound query member]
  choose join made joins using fun item => result_joinedItem runtime distinct (inside item)
    (scope.bind_self itemVariable (.record item))
  refine ⟨found.map join, ?_, ?_⟩
  · rw [joinRelated, result_map runtime scope queried, Value.records, Value.records, List.map_map]
    exact Value.mapItems_array fun item _ => made item
  · rw [List.forall₂_map_right_iff, List.forall₂_same]
    exact fun item _ => joins item

/-- An author with two books, of which one is hers. The field for the books is called `id`. -/
theorem result_joinRelated_author :
    let books : DataField := ⟨.model "Book", false, false, true, some (.hasMany "Book" ["author"])⟩
    let schema : DataSchema := ⟨none, ⟨[("Author", ⟨⟨[("id", books)], by decide⟩⟩), ("Book", ⟨∅⟩)],
      by decide⟩, ∅, ∅⟩
    let ann : Record := fun name =>
      if name = "id" then some (.str "1") else if name = "name" then some (.str "Ann") else none
    let book (author : String) : Record := fun name =>
      if name = "author" then some (.str author) else none
    let runtime : Runtime :=
      { own := fun _ _ => none
        eval := fun _ _ => some (.record fun _ => some (.records [ann]))
        compare := fun _ _ _ => none
        method := fun _ _ _ => none
        text := fun _ => none
        holds := fun _ => false }
    let scope : Scope := fun name =>
      if name = "bookItems" then some (.records [book "2", book "1"]) else none
    let items : Expr := Query.items ⟨"Author", none⟩
    items.result runtime scope = some (.records [ann]) ∧
      (∀ query ∈ schema.relatedQueries "Author",
        scope query.items = some (.records [book "2", book "1"])) ∧
      ∃ joined, (joinRelated items (schema.relatedQueries "Author")).result runtime scope =
          some (.records [joined]) ∧
        joined "id" = some (.records [book "1"]) ∧ joined "name" = some (.str "Ann") := by
  intro books schema ann book runtime scope items
  have queries : schema.relatedQueries "Author" = [⟨"id", "Book", "author", "bookItems"⟩] := by
    decide
  have queried : items.result runtime scope = some (.records [ann]) := by
    simp only [items, Query.items, Expr.result, Expr.value, Expr.andThen]
    rfl
  have bound : ∀ query ∈ schema.relatedQueries "Author",
      scope query.items = some (.records [book "2", book "1"]) := by
    rw [queries, List.forall_mem_singleton]
    rfl
  refine ⟨queried, bound, ?_⟩
  rcases result_joinRelated runtime scope schema "Author" items [ann]
    (fun _ => [book "2", book "1"]) queried bound with ⟨joined, made, joins⟩
  rw [List.forall₂_cons_left_iff] at joins
  rcases joins with ⟨joined, rest, joins, none, rfl⟩
  rw [List.forall₂_nil_left_iff] at none
  subst none
  rw [queries] at joins
  refine ⟨joined, made, ?_, joins.others "name" (by decide)⟩
  exact joins.related _ List.mem_cons_self

end JsxGen
