import JsxGen.Proofs.Collection
import JsxGen.Proofs.RelatedQueries

/-!
The variables that hold related items. Queries whose items have one name share the variable, which
is bound by the first of them: `relatedVariables_bound_iff` says when it holds what each asks for.
-/

namespace JsxGen

open Js

theorem RelatedQuery.toStmt_eq_iff {first second : RelatedQuery} :
    first.toStmt = second.toStmt ↔
      first.items = second.items ∧ Text.sanitize first.model = Text.sanitize second.model := by
  simp [toStmt, Stmt.constName, Query.items, Expr.inline, Member.ofString]

/-- Labels that are distinct pick out one item each. -/
theorem filter_eq_singleton {α β : Type} [DecidableEq β] {label : α → β} {xs : List α} {x : α}
    (distinct : (xs.map label).Nodup) (member : x ∈ xs) :
    xs.filter (fun y => label y = label x) = [x] := by
  induction xs with
  | nil => cases member
  | cons y ys ih =>
    rw [List.map_cons, List.nodup_cons] at distinct
    rcases List.mem_cons.1 member with rfl | below
    · have rest : ys.filter (fun y => label y = label x) = [] := by
        rw [List.filter_eq_nil_iff]
        intro y inside same
        exact distinct.1 (of_decide_eq_true same ▸ List.mem_map_of_mem inside)
      rw [List.filter_cons_of_pos (by simp), rest]
    · have other : label y ≠ label x := by
        intro same
        exact distinct.1 (same ▸ List.mem_map_of_mem below)
      rw [List.filter_cons_of_neg (by simpa using other), ih distinct.2 below]

/-- Among the statements for collections, those that bind a name which is neither that of a
collection nor that of its query are the queries for related items of this name. -/
theorem filter_collectionStmts (related : String → List RelatedQuery) (bound : List String)
    {queries : List (String × Query)} {name : String} (noKey : name ∉ queries.map Prod.fst)
    (noQuery : ∀ key, name ≠ dataStoreName key) :
    (collectionStmts related bound queries).filter (fun stmt => name ∈ stmt.declared) =
      ((newQueries bound (queries.flatMap fun query => related query.2.model)).filter
        (·.items = name)).map RelatedQuery.toStmt := by
  have fresh (queries : List RelatedQuery) :
      (queries.map RelatedQuery.toStmt).filter (fun stmt => name ∈ stmt.declared) =
        (queries.filter (·.items = name)).map RelatedQuery.toStmt := by
    rw [List.filter_map]
    refine congrArg _ (List.filter_congr fun query _ => ?_)
    simp [RelatedQuery.toStmt, Stmt.constName, Stmt.declared, Pattern.names, eq_comm]
  induction queries generalizing bound with
  | nil => rfl
  | cons entry queries ih =>
    rcases entry with ⟨key, query⟩
    rw [List.map_cons, List.mem_cons, not_or] at noKey
    have store (init : Expr) : ¬name ∈ (Stmt.constName (dataStoreName key) init).declared :=
      fun member => noQuery key (List.mem_singleton.1 member)
    have prop : ¬name ∈ (collectionProp key).declared :=
      fun member => noKey.1 (List.mem_singleton.1 member)
    rw [collectionStmts, List.filter_append, fresh,
      List.filter_cons_of_neg (by simpa using store _),
      List.filter_cons_of_neg (by simpa using prop), ih _ noKey.2, List.flatMap_cons,
      newQueries_append, List.filter_append, List.map_append]

theorem collectionProp_mem {key : String} (related : String → List RelatedQuery)
    (bound : List String) {queries : List (String × Query)} (known : key ∈ queries.map Prod.fst) :
    collectionProp key ∈ collectionStmts related bound queries := by
  induction queries generalizing bound with
  | nil => cases known
  | cons entry queries ih =>
    rcases entry with ⟨first, query⟩
    rw [collectionStmts]
    apply List.mem_append_right
    rcases List.mem_cons.1 known with rfl | known
    · exact List.mem_cons_of_mem _ List.mem_cons_self
    · exact List.mem_cons_of_mem _ (List.mem_cons_of_mem _ (ih _ known))

namespace Component

/-- The queries for the items related to those of the collections, in order. -/
def queriesBy (schema : DataSchema) (component : Component) : List RelatedQuery :=
  component.queries.flatMap fun query => schema.relatedQueries query.2.model

/-- The statement that finds what the query asks for is the only one for the collections that binds
the variable of its items. -/
def Finds (schema : DataSchema) (component : Component) (query : RelatedQuery) : Prop :=
  (component.collectionStmts (some schema)).filter (fun stmt => query.items ∈ stmt.declared) =
    [query.toStmt]

/-- Models whose items share a variable are one class, and no collection is called as it. -/
structure VariablesApart (schema : DataSchema) (component : Component) : Prop where
  models : ∀ first ∈ component.queriesBy schema, ∀ second ∈ component.queriesBy schema,
    first.items = second.items → Text.sanitize first.model = Text.sanitize second.model
  keys : ∀ query ∈ component.queriesBy schema, query.items ∉ component.queryKeys

variable {schema : DataSchema} {component : Component} {query : RelatedQuery}

theorem items_of_mem_queriesBy (member : query ∈ component.queriesBy schema) :
    query.items = relatedVariable query.model := by
  rcases List.mem_flatMap.1 member with ⟨_, _, member⟩
  exact DataSchema.items_of_mem member

theorem filter_collectionStmts_of_mem (member : query ∈ component.queriesBy schema)
    (noKey : query.items ∉ component.queryKeys) :
    ∃ first ∈ component.queriesBy schema, first.items = query.items ∧
      (component.collectionStmts (some schema)).filter
        (fun stmt => query.items ∈ stmt.declared) = [first.toStmt] := by
  have noQuery (key : String) : query.items ≠ dataStoreName key := by
    rw [items_of_mem_queriesBy member]
    exact ne_of_suffixes (suffix_relatedVariable _) (suffix_dataStoreName key) (by decide)
  have named : query.items ∈ (newQueries [] (component.queriesBy schema)).map (·.items) :=
    mem_newQueries.2 ⟨List.mem_map_of_mem member, List.not_mem_nil⟩
  rcases List.mem_map.1 named with ⟨first, new, same⟩
  refine ⟨first, (newQueries_sublist _ _).subset new, same, ?_⟩
  have only := filter_eq_singleton (newQueries_nodup [] (component.queriesBy schema)) new
  have found := filter_collectionStmts schema.relatedQueries [] noKey noQuery
  rw [same] at only
  calc (component.collectionStmts (some schema)).filter
        (fun stmt => query.items ∈ stmt.declared)
      = ((newQueries [] (component.queriesBy schema)).filter
          (·.items = query.items)).map RelatedQuery.toStmt := found
    _ = [first.toStmt] := by rw [only, List.map_singleton]

end Component

/-- A variable is bound by the first query of its name, and so it holds what a later one asks for
only if both ask for the same. -/
theorem relatedVariables_bound_iff (schema : DataSchema) (component : Component) :
    (∀ query ∈ component.queriesBy schema, component.Finds schema query) ↔
      component.VariablesApart schema := by
  constructor
  · intro finds
    refine ⟨?_, ?_⟩
    · intro first member second member' same
      have one := finds first member
      have other := finds second member'
      rw [Component.Finds, same] at one
      rw [Component.Finds, one, List.singleton_inj] at other
      exact (RelatedQuery.toStmt_eq_iff.1 other).2
    · intro query member key
      have prop : collectionProp query.items ∈ [query.toStmt] := by
        rw [← finds query member, List.mem_filter]
        exact ⟨collectionProp_mem _ [] key, by simp [collectionProp, Stmt.constName, Stmt.declared,
          Pattern.names]⟩
      simp [collectionProp, RelatedQuery.toStmt, Stmt.constName, Query.items] at prop
  · intro apart query member
    rcases Component.filter_collectionStmts_of_mem member (apart.keys query member) with
      ⟨first, among, same, found⟩
    have statement : first.toStmt = query.toStmt :=
      RelatedQuery.toStmt_eq_iff.2 ⟨same, apart.models first among query member same⟩
    rw [Component.Finds, found, statement]

/-- Books and drafts of an author, which the schema keeps in the models `Book` and `book`: the
drafts are looked for among the books. -/
theorem drafts_among_books :
    let many (model : String) : DataField :=
      ⟨.model model, false, false, true, some (.hasMany model ["author"])⟩
    let author : DataModel := ⟨⟨[("books", many "Book"), ("drafts", many "book")], by decide⟩⟩
    let schema : DataSchema :=
      ⟨none, ⟨[("Author", author), ("Book", ⟨∅⟩), ("book", ⟨∅⟩)], by decide⟩, ∅, ∅⟩
    let component : Component := ⟨none, .ofName "Authors" "Collection", ∅,
      some ⟨[("items", ⟨"Author", none⟩)], by decide⟩, [], none⟩
    let drafts : RelatedQuery := ⟨"drafts", "book", "author", "bookItems"⟩
    drafts ∈ component.queriesBy schema ∧
      (component.collectionStmts (some schema)).filter (fun stmt => "bookItems" ∈ stmt.declared) =
        [.constName "bookItems" (Query.items ⟨"Book", none⟩)] ∧
      ¬component.Finds schema drafts := by
  intro many author schema component drafts
  have found : (component.collectionStmts (some schema)).filter
      (fun stmt => "bookItems" ∈ stmt.declared) =
        [RelatedQuery.toStmt ⟨"books", "Book", "author", "bookItems"⟩] := rfl
  refine ⟨by decide, found, ?_⟩
  intro finds
  rw [Component.Finds, found, List.singleton_inj, RelatedQuery.toStmt_eq_iff] at finds
  exact absurd finds.2 (by decide)

end JsxGen
