import JsxGen.Proofs.Places
import JsxGen.Proofs.RelatedVariables
import Mathlib.Data.Finset.Card

/-!
The statements for the collections of a component, in their order. `gathers_collectionStmts` says
which related items are queried ahead of each collection, that each variable for such items is bound
by one query, and that this query comes ahead of every join that reads the variable.
-/

namespace JsxGen

open Js

/-- The query for a field of the model, by the number of the field: it holds many items of a model
that the schema has, which refer to theirs by a first key. -/
inductive DataSchema.RelatesAt (schema : DataSchema) (model : String) :
    List Nat → RelatedQuery → Prop where
  | hasMany {dataModel : DataModel} {name related key : String} {field : DataField}
    {keys : List String} {i : Nat} :
    schema.models.get? model = some dataModel → dataModel.fields.entries[i]? = some (name, field) →
      field.relationship = some (.hasMany related (key :: keys)) →
      related ∈ schema.models.keys →
      RelatesAt schema model [i] ⟨name, related, key, relatedVariable related⟩

/-- The queries for what is related to the items of a model; without a schema there are none. -/
def relatedTo (schema : Option DataSchema) (model : String) : List RelatedQuery :=
  match schema with
  | some schema => schema.relatedQueries model
  | none => []

/-- Of the queries, in their order, the first for each variable that no earlier one binds. -/
structure FirstQueries (earlier queries fresh : List RelatedQuery) : Prop where
  sublist : fresh.Sublist queries
  nodup : (fresh.map (·.items)).Nodup
  mem_iff : ∀ name, name ∈ fresh.map (·.items) ↔
    name ∈ queries.map (·.items) ∧ name ∉ earlier.map (·.items)
  first : ∀ query ∈ fresh, queries.find? (·.items = query.items) = some query

/-- The statement that binds the variable to all items of the model. -/
def queryStmt (name model : String) : Stmt :=
  .const (.ident name) (.member (.call (.ident "useDataStoreBinding")
    [.object [.property (.bare "type") (.str "collection"),
      .property (.bare "model") (.ident (Text.sanitize model))] false]) "items" false)

/-- Each collection in turn has the related queries that the earlier ones lack, then its own query,
joined with all that is related to its items, then the items themselves: those given as a prop if
there are any. -/
inductive LaidOut (related : String → List RelatedQuery) :
    List RelatedQuery → List (String × Query) → List Stmt → Prop where
  | nil {earlier : List RelatedQuery} : LaidOut related earlier [] []
  | cons {earlier fresh : List RelatedQuery} {key : String} {query : Query}
    {queries : List (String × Query)} {stmts : List Stmt} :
    FirstQueries earlier (related query.model) fresh →
      LaidOut related (earlier ++ related query.model) queries stmts →
      LaidOut related earlier ((key, query) :: queries)
        ((fresh.map fun asked => queryStmt asked.items asked.model) ++
          .const (.ident (key ++ "DataStore")) (if (related query.model).isEmpty then query.items
            else joinRelated query.items (related query.model)) ::
          .const (.ident key) (.conditional
            (.binary (.ident (key ++ "Prop")) .strictNe (.ident "undefined"))
            (.ident (key ++ "Prop")) (.ident (key ++ "DataStore"))) :: stmts)

/-- The statement binds the variable to what a query for the items of some model finds. -/
def Js.Stmt.QueriesFor (name : String) (stmt : Stmt) : Prop :=
  ∃ model, stmt = queryStmt name model

/-- The statement copies items, each with a field for those that the variable holds and that pass
some test. -/
def Js.Stmt.JoinsFrom (name : String) (stmt : Stmt) : Prop :=
  ∃ variable_ found fields field test,
    stmt = .const (.ident variable_) (.call (.member found "map" false)
      [.arrow ["item"] (.object (.spread (.ident "item") :: fields) true)]) ∧
    .property field (.call (.member (.ident name) "filter" false) [test]) ∈ fields

/-- A query for what one of the queries asks for binds the variable, no other statement does so by
a query, and no join ahead of it reads the variable. -/
def BoundOnce (queries : List RelatedQuery) (name : String) (stmts : List Stmt) : Prop :=
  ∃ before query after, stmts = before ++ queryStmt name query.model :: after ∧ query ∈ queries ∧
    query.items = name ∧ (∀ stmt ∈ before ++ after, ¬stmt.QueriesFor name) ∧
      ∀ stmt ∈ before, ¬stmt.JoinsFrom name

namespace BoundOnce

variable {queries more : List RelatedQuery} {query : RelatedQuery} {name : String}
  {stmts front : List Stmt}

theorem head (member : query ∈ queries) (named : query.items = name)
    (others : ∀ stmt ∈ stmts, ¬stmt.QueriesFor name) :
    BoundOnce queries name (queryStmt name query.model :: stmts) :=
  ⟨[], query, stmts, rfl, member, named, others, List.forall_mem_nil _⟩

theorem prepend (bound : BoundOnce queries name stmts)
    (noQuery : ∀ stmt ∈ front, ¬stmt.QueriesFor name)
    (noJoin : ∀ stmt ∈ front, ¬stmt.JoinsFrom name) : BoundOnce queries name (front ++ stmts) := by
  obtain ⟨before, query, after, rfl, member, named, others, joins⟩ := bound
  refine ⟨front ++ before, query, after, (List.append_assoc _ _ _).symm, member, named, ?_, ?_⟩
  · rw [List.append_assoc]
    exact List.forall_mem_append.2 ⟨noQuery, others⟩
  · exact List.forall_mem_append.2 ⟨noJoin, joins⟩

theorem mono (bound : BoundOnce queries name stmts) (among : queries ⊆ more) :
    BoundOnce more name stmts := by
  obtain ⟨before, query, after, split, member, rest⟩ := bound
  exact ⟨before, query, after, split, among member, rest⟩

end BoundOnce

theorem DataSchema.inOrder_relatedQueries (schema : DataSchema) (model : String) :
    ListedInOrder (schema.RelatesAt model) (schema.relatedQueries model) := by
  rw [relatedQueries_eq]
  cases known : schema.models.get? model with
  | none =>
    refine ListedInOrder.nil fun place query relates => ?_
    cases relates with
    | hasMany found => cases known.symm.trans found
  | some dataModel =>
    rw [Option.toList_some, List.flatMap_singleton, DataModel.manyRelations, List.filterMap_filterMap]
    refine (ListedInOrder.filterMap dataModel.fields.entries _).congr fun place query => ⟨?_, ?_⟩
    · rintro ⟨i, ⟨name, field⟩, listed, made, rfl⟩
      obtain ⟨relation, many, made⟩ := Option.bind_eq_some_iff.1 made
      obtain ⟨present, key, first, rfl⟩ := query?_eq_some.1 made
      dsimp only at many
      split at many
      · rename_i related keys relationship
        cases many
        obtain ⟨rest, rfl⟩ := List.head?_eq_some_iff.1 first
        exact .hasMany known listed relationship present
      · cases many
    · intro relates
      cases relates with
      | @hasMany _ name related key field keys i found listed relationship present =>
        cases known.symm.trans found
        refine ⟨i, (name, field), listed, ?_, rfl⟩
        dsimp only
        rw [relationship]
        exact query?_eq_some.2 ⟨present, key, rfl, rfl⟩

/-- What is asked for first keeps its place among what is asked for. -/
theorem find?_newQueries {bound : List String} {queries : List RelatedQuery} {query : RelatedQuery}
    (new : query ∈ newQueries bound queries) :
    queries.find? (·.items = query.items) = some query := by
  induction queries generalizing bound with
  | nil => cases new
  | cons other queries ih =>
    have unbound := (mem_newQueries.1 (List.mem_map_of_mem new)).2
    rw [newQueries] at new
    split at new
    · rename_i known
      have apart : other.items ≠ query.items := fun same => unbound (same ▸ known)
      rw [List.find?_cons_of_neg (by simpa using apart)]
      exact ih new
    · rcases List.mem_cons.1 new with rfl | new
      · exact List.find?_cons_of_pos (by simp)
      · have later := (mem_newQueries.1 (List.mem_map_of_mem new)).2
        have apart : other.items ≠ query.items :=
          fun same => later (same ▸ List.mem_cons_self)
        rw [List.find?_cons_of_neg (by simpa using apart)]
        exact ih new

theorem firstQueries_newQueries {bound : List String} {earlier : List RelatedQuery}
    (same : ∀ name, name ∈ bound ↔ name ∈ earlier.map (·.items)) (queries : List RelatedQuery) :
    FirstQueries earlier queries (newQueries bound queries) where
  sublist := newQueries_sublist bound queries
  nodup := newQueries_nodup bound queries
  mem_iff := fun name => by rw [mem_newQueries, same]
  first := fun _ => find?_newQueries

section Statements

variable {name key : String}

theorem RelatedQuery.toStmt_eq (query : RelatedQuery) :
    query.toStmt = queryStmt query.items query.model := by
  have type : Key.ofString "type" = .bare "type" := by decide
  have model : Key.ofString "model" = .bare "model" := by decide
  rw [toStmt, Stmt.constName, Query.items, queryStmt, Member.ofString, Member.ofString, type, model]
  rfl

theorem queriesFor_queryStmt {other model : String} :
    (queryStmt other model).QueriesFor name ↔ other = name := by
  constructor
  · rintro ⟨asked, same⟩
    exact Pattern.ident.inj (Stmt.const.inj same).1
  · rintro rfl
    exact ⟨model, rfl⟩

theorem not_queriesFor_store {found : Expr} (apart : name ≠ dataStoreName key) :
    ¬(Stmt.constName (dataStoreName key) found).QueriesFor name := by
  rintro ⟨model, same⟩
  exact apart (Pattern.ident.inj (Stmt.const.inj same).1).symm

theorem not_queriesFor_collectionProp : ¬(collectionProp key).QueriesFor name := by
  rintro ⟨model, same⟩
  cases (Stmt.const.inj same).2

theorem not_joinsFrom_queryStmt {other model : String} :
    ¬(queryStmt other model).JoinsFrom name := by
  rintro ⟨variable_, found, fields, field, test, same, _⟩
  cases (Stmt.const.inj same).2

theorem not_joinsFrom_collectionProp : ¬(collectionProp key).JoinsFrom name := by
  rintro ⟨variable_, found, fields, field, test, same, _⟩
  cases (Stmt.const.inj same).2

/-- Only a join of the related queries themselves reads their variables. -/
theorem mem_of_joinsFrom_store {query : Query} {queries : List RelatedQuery}
    (joins : (Stmt.constName (dataStoreName key) (if queries.isEmpty then query.items
      else joinRelated query.items queries)).JoinsFrom name) : name ∈ queries.map (·.items) := by
  obtain ⟨variable_, found, fields, field, test, same, reads⟩ := joins
  have value := (Stmt.const.inj same).2
  split at value
  · cases value
  · have copied : queries.map RelatedQuery.related = fields := by
      simpa [joinRelated, itemVariable] using (Expr.call.inj value).2
    rw [← copied] at reads
    obtain ⟨query, member, same⟩ := List.mem_map.1 reads
    have read := (Expr.call.inj (Member.property.inj same).2).1
    rw [← Expr.ident.inj (Expr.member.inj read).1]
    exact List.mem_map_of_mem member

end Statements

section Collections

variable {related : String → List RelatedQuery} {queries : List (String × Query)} {name : String}

theorem collectionStmts_cons (bound : List String) (key : String) (query : Query) :
    collectionStmts related bound ((key, query) :: queries) =
      ((newQueries bound (related query.model)).map fun asked =>
          queryStmt asked.items asked.model) ++
        .constName (dataStoreName key) (if (related query.model).isEmpty then query.items
          else joinRelated query.items (related query.model)) :: collectionProp key ::
        collectionStmts related
          (bound ++ (newQueries bound (related query.model)).map (·.items)) queries := by
  rw [collectionStmts, List.map_congr_left fun query _ => query.toStmt_eq]

theorem laidOut_collectionStmts {bound : List String} {earlier : List RelatedQuery}
    (same : ∀ name, name ∈ bound ↔ name ∈ earlier.map (·.items)) :
    LaidOut related earlier queries (collectionStmts related bound queries) := by
  induction queries generalizing bound earlier with
  | nil => exact .nil
  | cons entry queries ih =>
    rw [collectionStmts_cons]
    refine .cons (firstQueries_newQueries same _) (ih fun name => ?_)
    rw [List.mem_append, mem_newQueries, List.map_append, List.mem_append, same]
    tauto

theorem length_collectionStmts (bound : List String) :
    (collectionStmts related bound queries).length = 2 * queries.length +
      (newQueries bound (queries.flatMap fun query => related query.2.model)).length := by
  induction queries generalizing bound with
  | nil => rfl
  | cons entry queries ih =>
    rw [collectionStmts, List.length_append, List.length_map, List.length_cons, List.length_cons,
      ih, List.length_cons, List.flatMap_cons, newQueries_append, List.length_append]
    omega

/-- Items that are bound already are not queried again. -/
theorem not_queriesFor_of_bound (noStore : ∀ key, name ≠ dataStoreName key) {bound : List String}
    (known : name ∈ bound) : ∀ stmt ∈ collectionStmts related bound queries,
      ¬stmt.QueriesFor name := by
  induction queries generalizing bound with
  | nil => exact fun _ member => nomatch member
  | cons entry queries ih =>
    rw [collectionStmts_cons, List.forall_mem_append, List.forall_mem_cons, List.forall_mem_cons,
      List.forall_mem_map]
    refine ⟨fun query new finds => ?_, not_queriesFor_store (noStore _),
      not_queriesFor_collectionProp, ih (List.mem_append_left _ known)⟩
    have unbound := (mem_newQueries.1 (List.mem_map_of_mem new)).2
    exact unbound (queriesFor_queryStmt.1 finds ▸ known)

/-- The collection whose related items are the first that the variable is to hold. -/
theorem boundOnce_of_mem_fresh (noStore : ∀ key, name ≠ dataStoreName key) {bound : List String}
    {key : String} {query : Query}
    (new : name ∈ (newQueries bound (related query.model)).map (·.items)) :
    BoundOnce (related query.model) name
      (collectionStmts related bound ((key, query) :: queries)) := by
  have distinct := newQueries_nodup bound (related query.model)
  have among := newQueries_sublist bound (related query.model)
  have later : ∀ stmt ∈ collectionStmts related
      (bound ++ (newQueries bound (related query.model)).map (·.items)) queries,
      ¬stmt.QueriesFor name :=
    not_queriesFor_of_bound noStore (List.mem_append_right _ new)
  obtain ⟨first, member, rfl⟩ := List.mem_map.1 new
  obtain ⟨before, after, split⟩ := List.append_of_mem member
  rw [split, List.map_append, List.map_cons] at distinct
  have apart := (List.nodup_middle.1 distinct).notMem
  rw [← List.map_append] at apart
  have others : ∀ stmt ∈ (before ++ after).map fun asked => queryStmt asked.items asked.model,
      ¬stmt.QueriesFor first.items := by
    refine List.forall_mem_map.2 fun query inside finds => ?_
    exact apart (queriesFor_queryStmt.1 finds ▸ List.mem_map_of_mem inside)
  rw [List.map_append, List.forall_mem_append] at others
  rw [collectionStmts_cons, split, List.map_append, List.map_cons, List.append_assoc,
    List.cons_append]
  refine (BoundOnce.head (among.subset member) rfl ?_).prepend others.1
    (List.forall_mem_map.2 fun _ _ => not_joinsFrom_queryStmt)
  rw [List.forall_mem_append, List.forall_mem_cons, List.forall_mem_cons]
  rw [split] at later
  exact ⟨others.2, not_queriesFor_store (noStore _), not_queriesFor_collectionProp, later⟩

theorem boundOnce_collectionStmts (noStore : ∀ key, name ≠ dataStoreName key) {bound : List String}
    (unbound : name ∉ bound)
    (member : name ∈ (queries.flatMap fun query => related query.2.model).map (·.items)) :
    BoundOnce (queries.flatMap fun query => related query.2.model) name
      (collectionStmts related bound queries) := by
  induction queries generalizing bound with
  | nil => cases member
  | cons entry queries ih =>
    obtain ⟨key, query⟩ := entry
    rw [List.flatMap_cons, List.map_append, List.mem_append] at member
    by_cases here : name ∈ (related query.model).map (·.items)
    · have new := mem_newQueries.2 ⟨here, unbound⟩
      exact (boundOnce_of_mem_fresh noStore new).mono (List.subset_append_left _ _)
    · have old : name ∉ (newQueries bound (related query.model)).map (·.items) :=
        fun new => here (mem_newQueries.1 new).1
      have below := ih (List.not_mem_append unbound old) (member.resolve_left here)
      rw [collectionStmts_cons, List.append_cons, List.append_cons]
      refine (below.mono (List.subset_append_right _ _)).prepend ?_ ?_
      · rw [List.forall_mem_append, List.forall_mem_append, List.forall_mem_map,
          List.forall_mem_singleton, List.forall_mem_singleton]
        exact ⟨⟨fun query new finds => old (queriesFor_queryStmt.1 finds ▸ List.mem_map_of_mem new),
          not_queriesFor_store (noStore _)⟩, not_queriesFor_collectionProp⟩
      · rw [List.forall_mem_append, List.forall_mem_append, List.forall_mem_map,
          List.forall_mem_singleton, List.forall_mem_singleton]
        exact ⟨⟨fun _ _ => not_joinsFrom_queryStmt, fun joins => here (mem_of_joinsFrom_store joins)⟩,
          not_joinsFrom_collectionProp⟩

end Collections

namespace Component

/-- The variables for what is related to the items of the collections. -/
def relatedItems (schema : Option DataSchema) (component : Component) : List String :=
  (component.queries.flatMap fun query => relatedTo schema query.2.model).map (·.items)

/-- What the statements for the collections are, how many, and in which order. -/
structure Gathers (schema : Option DataSchema) (component : Component) (stmts : List Stmt) :
    Prop where
  related : ∀ model, ListedInOrder
    (fun place query => ∃ known, schema = some known ∧ known.RelatesAt model place query)
    (relatedTo schema model)
  laidOut : LaidOut (relatedTo schema) [] component.queries stmts
  length : stmts.length =
    2 * component.queries.length + (component.relatedItems schema).toFinset.card
  boundOnce : ∀ name ∈ component.relatedItems schema,
    BoundOnce (component.queries.flatMap fun query => relatedTo schema query.2.model) name stmts

variable {schema : Option DataSchema}

theorem inOrder_relatedTo (schema : Option DataSchema) (model : String) : ListedInOrder
    (fun place query => ∃ known, schema = some known ∧ known.RelatesAt model place query)
    (relatedTo schema model) := by
  cases schema with
  | none => exact ListedInOrder.nil fun _ _ ⟨_, known, _⟩ => nomatch known
  | some schema => exact (schema.inOrder_relatedQueries model).congr fun place query => by simp

theorem ne_dataStoreName_of_mem {component : Component} {name : String}
    (member : name ∈ component.relatedItems schema) (key : String) : name ≠ dataStoreName key := by
  obtain ⟨query, among, rfl⟩ := List.mem_map.1 member
  obtain ⟨_, _, among⟩ := List.mem_flatMap.1 among
  cases schema with
  | none => cases among
  | some schema =>
    rw [DataSchema.items_of_mem among]
    exact ne_of_suffixes (suffix_relatedVariable _) (suffix_dataStoreName key) (by decide)

theorem length_newQueries (queries : List RelatedQuery) :
    (newQueries [] queries).length = (queries.map (·.items)).toFinset.card := by
  have same : ((newQueries [] queries).map (·.items)).toFinset =
      (queries.map (·.items)).toFinset := by
    ext name
    rw [List.mem_toFinset, List.mem_toFinset, mem_newQueries]
    exact and_iff_left List.not_mem_nil
  rw [← same, List.toFinset_card_of_nodup (newQueries_nodup [] queries), List.length_map]

/-- For any number of collections, of whatever models, and with or without a schema. -/
theorem gathers_collectionStmts (schema : Option DataSchema) (component : Component) :
    component.Gathers schema (component.collectionStmts schema) where
  related := inOrder_relatedTo schema
  laidOut := laidOut_collectionStmts fun name => by simp
  length := (length_collectionStmts []).trans (congrArg _ (length_newQueries _))
  boundOnce := fun name member =>
    boundOnce_collectionStmts (ne_dataStoreName_of_mem member) List.not_mem_nil member

/-- Of two collections of one model, the second joins what is queried for the first. -/
theorem gathers_collectionStmts_editors :
    let books : DataField :=
      ⟨.model "Book", false, false, true, some (.hasMany "Book" ["authorID"])⟩
    let schema : DataSchema := ⟨none,
      ⟨[("Author", ⟨⟨[("books", books)], by decide⟩⟩), ("Book", .empty)], by decide⟩, ∅, ∅⟩
    let component : Component := ⟨none, .ofName "Authors" "Collection", ∅,
      some ⟨[("authors", ⟨"Author", none⟩), ("editors", ⟨"Author", none⟩)], by decide⟩, [], none⟩
    let found (model : String) : Expr := .member (.call (.ident "useDataStoreBinding")
      [.object [.property (.bare "type") (.str "collection"),
        .property (.bare "model") (.ident model)] false]) "items" false
    let joined : Expr := .call (.member (found "Author") "map" false)
      [.arrow ["item"] (.object [.spread (.ident "item"), .property (.bare "books")
        (.call (.member (.ident "bookItems") "filter" false) [.arrow ["model"] (.binary
          (.member (.ident "model") "authorID" false) .strictEq
          (.member (.ident "item") "id" false))])] true)]
    let given (prop store : String) : Expr := .conditional
      (.binary (.ident prop) .strictNe (.ident "undefined")) (.ident prop) (.ident store)
    let stmts : List Stmt :=
      [.const (.ident "bookItems") (found "Book"),
        .const (.ident "authorsDataStore") joined,
        .const (.ident "authors") (given "authorsProp" "authorsDataStore"),
        .const (.ident "editorsDataStore") joined,
        .const (.ident "editors") (given "editorsProp" "editorsDataStore")]
    component.collectionStmts (some schema) = stmts ∧ component.Gathers (some schema) stmts ∧
      BoundOnce (relatedTo (some schema) "Author" ++ relatedTo (some schema) "Author")
        "bookItems" stmts := by
  intro books schema component found joined given stmts
  have same : component.collectionStmts (some schema) = stmts := rfl
  have gathers := gathers_collectionStmts (some schema) component
  rw [same] at gathers
  have known : "bookItems" ∈ component.relatedItems (some schema) := by decide
  exact ⟨same, gathers, gathers.boundOnce "bookItems" known⟩

end Component

end JsxGen
