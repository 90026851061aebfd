import JsxGen.Hook
import JsxGen.PropertyExpr
import JsxGen.Schema.DataSchema

/-! The items of a collection: queries for them and for the items related to each. -/

namespace JsxGen

open Js

/-- Items of a related model, bound to the variable `items`, that refer to an item of the collection
by its `id`. -/
structure RelatedQuery where
  field : String
  model : String
  foreignKey : String
  items : String
  deriving DecidableEq

/-- Relationships to models that the schema lacks, or without a key, are left out. -/
def DataSchema.relatedQueries (schema : DataSchema) (model : String) : List RelatedQuery :=
  match schema.models.get? model with
  | none => []
  | some dataModel =>
    dataModel.manyRelations.filterMap fun relation =>
      match relation.keys with
      | key :: _ =>
        if schema.models.contains relation.model then
          some ⟨relation.field, relation.model, key, relatedVariable relation.model⟩
        else none
      | [] => none

/-- The items that a query finds. -/
def Query.items (query : Query) : Expr :=
  let criteria := query.predicate.map fun predicate =>
    Member.ofString "criteria" (.ofJson predicate.json)
  let argument : List Member :=
    [.ofString "type" (.str "collection"), .ofString "model" (.ident (Text.sanitize query.model))]
  .member (.call (.ident Hook.dataStoreBinding.name) [.inline (argument ++ criteria.toList)])
    "items" false

/-- The related items that refer to the current item. -/
def RelatedQuery.related (query : RelatedQuery) : Member :=
  .ofString query.field
    (.call (.member (.ident query.items) "filter" false)
      [.arrow ["model"] (.binary (.member (.ident "model") query.foreignKey false) .strictEq
        (.member (.ident itemVariable) "id" false))])

/-- Each item with its related items in the fields that hold them. -/
def joinRelated (items : Expr) (queries : List RelatedQuery) : Expr :=
  .call (.member items "map" false)
    [.arrow [itemVariable]
      (.object (.spread (.ident itemVariable) :: queries.map RelatedQuery.related) true)]

/-- Queries for related items, without those that are bound already. -/
def newQueries (bound : List String) : List RelatedQuery → List RelatedQuery
  | [] => []
  | query :: queries =>
    if query.items ∈ bound then newQueries bound queries
    else query :: newQueries (query.items :: bound) queries

def RelatedQuery.toStmt (query : RelatedQuery) : Stmt :=
  .constName query.items (Query.items ⟨query.model, none⟩)

/-- Items given as a prop are preferred to those of the query. -/
def collectionProp (key : String) : Stmt :=
  .constName key (.conditional
    (.binary (.ident (propAlias key)) .strictNe (.ident "undefined"))
    (.ident (propAlias key)) (.ident (dataStoreName key)))

/-- The statements for each collection in turn; `bound` are the related items bound so far. -/
def collectionStmts (related : String → List RelatedQuery) (bound : List String) :
    List (String × Query) → List Stmt
  | [] => []
  | (key, query) :: rest =>
    let queries := related query.model
    let fresh := newQueries bound queries
    let items := if queries.isEmpty then query.items else joinRelated query.items queries
    fresh.map RelatedQuery.toStmt ++
      .constName (dataStoreName key) items :: collectionProp key ::
        collectionStmts related (bound ++ fresh.map (·.items)) rest

/-- Without a schema only the items themselves are queried. -/
def Component.collectionStmts (component : Component) (schema : Option DataSchema) : List Stmt :=
  let related (model : String) : List RelatedQuery :=
    match schema with
    | some schema => schema.relatedQueries model
    | none => []
  JsxGen.collectionStmts related [] component.queries

end JsxGen
