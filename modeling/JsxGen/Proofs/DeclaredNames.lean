import JsxGen.Proofs.Action
import JsxGen.Proofs.RelatedQueries
import JsxGen.Proofs.SourceFile

/-!
The names that the statements of a component's function declare. No check keeps them apart:
`declared_nodup_iff` says for which components no name is declared twice.
-/

namespace JsxGen

open Js

instance decidableDisjoint (first second : List String) : Decidable (first.Disjoint second) :=
  decidable_of_iff (∀ name ∈ first, name ∉ second) Iff.rfl

namespace Component

abbrev queryKeys (component : Component) : List String := component.queries.map Prod.fst

/-- Names of the generator's own choice. -/
def fixedNames (component : Component) : List String :=
  (if component.variants.isEmpty then [overridesVariable]
    else [overridesVariable, propAlias overridesVariable, "variants"] ++
      if component.breakpoints.isEmpty then [] else ["breakpointHook"]) ++
    restVariable :: if component.usage.auth then [authVariable] else []

/-- Names of props and collections, as the schema has them. -/
def givenNames (component : Component) : List String :=
  component.bindings.keys.filter (· ∉ component.queryKeys) ++ component.queryKeys

def relatedQueries (options : SourceOptions) (component : Component) : List RelatedQuery :=
  component.queries.flatMap fun query =>
    match options.relatedSchema with
    | some schema => schema.relatedQueries query.2.model
    | none => []

/-- Names made for what a collection needs besides its own name. -/
def collectionNames (options : SourceOptions) (component : Component) : List String :=
  component.queryKeys.map propAlias ++ component.queryKeys.map dataStoreName ++
    (component.relatedQueries options).map (·.items)

def stateNames (component : Component) : List String :=
  component.usage.states.flatMap fun ref => [ref.getter, ref.setter]

def handlerNames (component : Component) : List String :=
  component.root.actions.map (·.handler)

/-- The names of states and handlers are distinct, and no name is of two kinds. -/
structure NamesApart (options : SourceOptions) (component : Component) : Prop where
  states : component.stateNames.Nodup
  handlers : component.handlerNames.Nodup
  kinds : [component.fixedNames, component.givenNames, component.stateNames,
    component.handlerNames].Pairwise List.Disjoint
  collections : (component.collectionNames options).Disjoint
    (component.givenNames ++ component.stateNames ++ component.handlerNames)

end Component

theorem mem_newQueries {name : String} {bound : List String} {queries : List RelatedQuery} :
    name ∈ (newQueries bound queries).map (·.items) ↔
      name ∈ queries.map (·.items) ∧ name ∉ bound := by
  induction queries generalizing bound with
  | nil => simp [newQueries]
  | cons query queries ih =>
    rw [newQueries]
    split
    · rename_i known
      rw [ih, List.map_cons, List.mem_cons]
      constructor
      · intro listed
        exact ⟨.inr listed.1, listed.2⟩
      · intro listed
        rcases listed with ⟨rfl | member, fresh⟩
        · exact absurd known fresh
        · exact ⟨member, fresh⟩
    · rename_i unknown
      rw [List.map_cons, List.mem_cons, ih, List.map_cons, List.mem_cons, List.mem_cons]
      constructor
      · intro listed
        rcases listed with rfl | ⟨member, fresh⟩
        · exact ⟨.inl rfl, unknown⟩
        · exact ⟨.inr member, fun known => fresh (.inr known)⟩
      · intro listed
        rcases listed with ⟨member, fresh⟩
        by_cases same : name = query.items
        · exact .inl same
        · exact .inr ⟨member.resolve_left same, fun known => known.elim same fresh⟩

theorem newQueries_nodup (bound : List String) (queries : List RelatedQuery) :
    ((newQueries bound queries).map (·.items)).Nodup := by
  induction queries generalizing bound with
  | nil => exact .nil
  | cons query queries ih =>
    rw [newQueries]
    split
    · exact ih bound
    · rw [List.map_cons, List.nodup_cons]
      refine ⟨fun member => ?_, ih _⟩
      exact (mem_newQueries.1 member).2 List.mem_cons_self

theorem newQueries_sublist (bound : List String) (queries : List RelatedQuery) :
    (newQueries bound queries).Sublist queries := by
  induction queries generalizing bound with
  | nil => exact .slnil
  | cons query queries ih =>
    rw [newQueries]
    split
    · exact (ih bound).cons query
    · exact (ih _).cons_cons query

/-- Each collection declares its name and the name of its query, and the related items of all
collections are declared once each. -/
theorem collectionStmts_declared (related : String → List RelatedQuery) (bound : List String)
    (queries : List (String × Query)) :
    ∃ items : List String, items.Nodup ∧
      (∀ name, name ∈ items ↔
        name ∈ (queries.flatMap fun query => related query.2.model).map (·.items) ∧
          name ∉ bound) ∧
      ((collectionStmts related bound queries).flatMap Stmt.declared).Perm
        (queries.map Prod.fst ++ (queries.map Prod.fst).map dataStoreName ++ items) := by
  induction queries generalizing bound with
  | nil => exact ⟨[], .nil, by simp, .nil⟩
  | cons entry queries ih =>
    rcases entry with ⟨key, query⟩
    let fresh := (newQueries bound (related query.model)).map (·.items)
    rcases ih (bound ++ fresh) with ⟨items, distinct, member, same⟩
    refine ⟨fresh ++ items, ?_, ?_, ?_⟩
    · refine List.nodup_append'.2 ⟨newQueries_nodup _ _, distinct, ?_⟩
      intro name first second
      exact ((member name).1 second).2 (List.mem_append_right _ first)
    · intro name
      rw [List.mem_append, member, mem_newQueries, List.flatMap_cons, List.map_append,
        List.mem_append, List.mem_append, mem_newQueries]
      tauto
    · have made : ((newQueries bound (related query.model)).map RelatedQuery.toStmt).flatMap
          Stmt.declared = fresh := by
        rw [List.flatMap_map]
        exact List.map_eq_flatMap.symm
      have split : (collectionStmts related bound ((key, query) :: queries)).flatMap Stmt.declared =
          fresh ++ dataStoreName key :: key ::
            (collectionStmts related (bound ++ fresh) queries).flatMap Stmt.declared := by
        rw [collectionStmts, List.flatMap_append, made]
        rfl
      rw [split, List.perm_iff_count]
      intro name
      have counted := same.count_eq name
      simp only [List.count_append] at counted
      simp only [List.map_cons, List.count_append, List.count_cons, counted]
      omega

namespace Component

variable {options : SourceOptions} {component : Component}

theorem propsStmt_declared : component.propsStmt.declared =
    component.bindings.keys.filter (· ∉ component.queryKeys) ++
      component.queryKeys.map propAlias ++
      [if component.variants.isEmpty then overridesVariable else propAlias overridesVariable] ++
      [restVariable] := by
  have overrides : (if component.variants.isEmpty then (none : Option String)
      else some (propAlias overridesVariable)).getD overridesVariable =
      if component.variants.isEmpty then overridesVariable
      else propAlias overridesVariable := by
    split <;> rfl
  simp only [propsStmt, Stmt.declared, Pattern.names, List.map_append, List.map_map,
    Function.comp_def, Option.getD_none, Option.getD_some, List.map_cons, List.map_nil,
    overrides, Option.toList_some, List.map_id']

theorem variantStmts_declared :
    (component.variantStmts propsVariable overridesVariable).flatMap Stmt.declared =
      if component.variants.isEmpty then []
      else "variants" :: (if component.breakpoints.isEmpty then [] else ["breakpointHook"]) ++
        [overridesVariable] := by
  unfold variantStmts
  split
  · rfl
  · cases component.breakpoints with
    | nil => rfl
    | cons smallest sizes => rfl

theorem queryKeys_nodup (component : Component) : component.queryKeys.Nodup := by
  unfold queryKeys queries
  split
  · rename_i collections _
    exact collections.nodup
  · exact .nil

theorem givenNames_nodup (component : Component) : component.givenNames.Nodup := by
  refine List.nodup_append'.2
    ⟨component.bindings.nodup.filter _, component.queryKeys_nodup, ?_⟩
  intro name kept key
  have other := (List.mem_filter.1 kept).2
  exact of_decide_eq_true other key

theorem fixedNames_nodup (component : Component) : component.fixedNames.Nodup := by
  unfold fixedNames
  cases component.variants.isEmpty <;> cases component.breakpoints.isEmpty <;>
    cases component.usage.auth <;> decide

end Component

theorem propAlias_injective : Function.Injective propAlias :=
  fun _ _ same => (String.append_left_inj "Prop").1 same

theorem dataStoreName_injective : Function.Injective dataStoreName :=
  fun _ _ same => (String.append_left_inj "DataStore").1 same

theorem suffix_append (stem ending : String) : ending.toList <:+ (stem ++ ending).toList := by
  rw [String.toList_append]
  exact List.suffix_append _ _

theorem suffix_propAlias (key : String) : "Prop".toList <:+ (propAlias key).toList :=
  suffix_append key "Prop"

theorem suffix_dataStoreName (key : String) :
    "DataStore".toList <:+ (dataStoreName key).toList :=
  suffix_append key "DataStore"

theorem suffix_relatedVariable (model : String) :
    "Items".toList <:+ (relatedVariable model).toList :=
  suffix_append _ "Items"

theorem ne_of_suffixes {first second : String} {a b : List Char} (ends : a <:+ first.toList)
    (other : b <:+ second.toList) (apart : ¬a <:+ b ∧ ¬b <:+ a) : first ≠ second := by
  intro same
  subst same
  exact (List.suffix_or_suffix_of_suffix ends other).elim apart.1 apart.2

namespace Component

variable {options : SourceOptions} {component : Component}

theorem collectionStmts_declared (options : SourceOptions) (component : Component) :
    ∃ items : List String, items.Nodup ∧
      (∀ name, name ∈ items ↔ name ∈ (component.relatedQueries options).map (·.items)) ∧
      ((component.collectionStmts options.relatedSchema).flatMap Stmt.declared).Perm
        (component.queryKeys ++ component.queryKeys.map dataStoreName ++ items) := by
  obtain ⟨items, distinct, member, collections⟩ :=
    JsxGen.collectionStmts_declared (fun model =>
      match options.relatedSchema with
      | some schema => schema.relatedQueries model
      | none => []) [] component.queries
  exact ⟨items, distinct, fun name => (member name).trans (and_iff_left List.not_mem_nil),
    collections⟩

/-- The three kinds of names made for collections end in different ways. -/
theorem nodup_collection (component : Component) {items : List String}
    (distinct : items.Nodup)
    (member : ∀ name ∈ items, ∃ model, name = relatedVariable model) :
    (component.queryKeys.map propAlias ++ component.queryKeys.map dataStoreName ++
      items).Nodup := by
  have keys := component.queryKeys_nodup
  refine List.nodup_append'.2 ⟨List.nodup_append'.2
    ⟨keys.map propAlias_injective, keys.map dataStoreName_injective, ?_⟩, distinct, ?_⟩
  · intro name first second
    rcases List.mem_map.1 first with ⟨key, _, rfl⟩
    rcases List.mem_map.1 second with ⟨other, _, same⟩
    exact ne_of_suffixes (suffix_dataStoreName other) (suffix_propAlias key) (by decide) same
  · intro name first second
    rcases member name second with ⟨model, rfl⟩
    rcases List.mem_append.1 first with made | made
    · rcases List.mem_map.1 made with ⟨key, _, same⟩
      exact ne_of_suffixes (suffix_propAlias key) (suffix_relatedVariable model) (by decide) same
    · rcases List.mem_map.1 made with ⟨key, _, same⟩
      exact ne_of_suffixes (suffix_dataStoreName key) (suffix_relatedVariable model) (by decide)
        same

theorem items_of_mem_relatedQueries {query : RelatedQuery}
    (member : query ∈ component.relatedQueries options) :
    query.items = relatedVariable query.model := by
  rcases List.mem_flatMap.1 member with ⟨_, _, found⟩
  split at found
  · exact DataSchema.items_of_mem found
  · cases found

theorem mem_collectionNames {name : String} (member : name ∈ component.collectionNames options) :
    (∃ key ∈ component.givenNames, name = propAlias key) ∨
      "DataStore".toList <:+ name.toList ∨ "Items".toList <:+ name.toList := by
  rcases List.mem_append.1 member with made | made
  · rcases List.mem_append.1 made with made | made
    · rcases List.mem_map.1 made with ⟨key, known, rfl⟩
      exact .inl ⟨key, List.mem_append_right _ known, rfl⟩
    · rcases List.mem_map.1 made with ⟨key, _, rfl⟩
      exact .inr (.inl (suffix_dataStoreName key))
  · rcases List.mem_map.1 made with ⟨query, known, rfl⟩
    have same := items_of_mem_relatedQueries known
    exact .inr (.inr (same ▸ suffix_relatedVariable query.model))

theorem overridesVariable_mem_fixedNames (component : Component) :
    overridesVariable ∈ component.fixedNames := by
  unfold fixedNames
  cases component.variants.isEmpty <;> exact List.mem_append_left _ List.mem_cons_self

theorem fixedNames_suffix : ∀ name ∈ component.fixedNames,
    ("Prop".toList <:+ name.toList → name = propAlias overridesVariable) ∧
      ¬"DataStore".toList <:+ name.toList ∧ ¬"Items".toList <:+ name.toList := by
  unfold fixedNames
  cases component.variants.isEmpty <;> cases component.breakpoints.isEmpty <;>
    cases component.usage.auth <;> decide

/-- Names of the generator's own choice clash with names made for a collection only where a prop
or a collection is called as one of them. -/
theorem fixedNames_disjoint_collectionNames
    (apart : component.fixedNames.Disjoint component.givenNames) :
    component.fixedNames.Disjoint (component.collectionNames options) := by
  intro name fixed made
  rcases fixedNames_suffix name fixed with ⟨alias_, noQuery, noItems⟩
  rcases mem_collectionNames made with ⟨key, given, rfl⟩ | query | items
  · have same := propAlias_injective (alias_ (suffix_propAlias key))
    subst same
    exact apart component.overridesVariable_mem_fixedNames given
  · exact noQuery query
  · exact noItems items

end Component

theorem ActionEvent.toStmt_declared {types : ElementTypes} {handler : String}
    {event : ActionEvent} {stmt : Stmt} (made : event.toStmt types handler = .ok stmt) :
    stmt.declared = [handler] := by
  rcases toStmt_eq_ok.1 made with ⟨_, _, _, _, _, rfl⟩ | ⟨_, _, _, _, _, rfl⟩
  · rfl
  · rfl

theorem stateStmt_declared {types : ElementTypes} {root : Element} {ref : StateRef} {stmt : Stmt}
    (made : stateStmt types root ref = .ok stmt) : stmt.declared = [ref.getter, ref.setter] := by
  rcases stateStmt_ok made with ⟨_, _, rfl⟩
  rfl

namespace BodyParts

variable {options : SourceOptions} {component : Component}

theorem opening_declared (component : Component) :
    ((opening component).flatMap Stmt.declared).Perm
      (component.fixedNames ++ component.bindings.keys.filter (· ∉ component.queryKeys) ++
        component.queryKeys.map propAlias) := by
  rw [opening, List.flatMap_append, List.flatMap_cons, Component.propsStmt_declared,
    Component.variantStmts_declared, Component.fixedNames, List.perm_iff_count]
  intro name
  cases component.variants.isEmpty <;> cases component.breakpoints.isEmpty <;>
    cases component.usage.auth <;>
    simp [List.count_append, List.count_cons, authStmt, Stmt.constName, Stmt.declared,
      Pattern.names] <;>
    omega

theorem states_declared (parts : BodyParts component) :
    parts.states.flatMap Stmt.declared = component.stateNames :=
  flatMap_related parts.states_made fun _ _ made => stateStmt_declared made

theorem actions_declared (parts : BodyParts component) :
    parts.actions.flatMap Stmt.declared = component.handlerNames := by
  rw [Component.handlerNames, List.map_eq_flatMap]
  exact flatMap_related parts.actions_made fun _ _ made => ActionEvent.toStmt_declared made

theorem declared_perm (options : SourceOptions) (parts : BodyParts component) :
    ∃ made : List String, made.Nodup ∧
      (∀ name, name ∈ made ↔ name ∈ component.collectionNames options) ∧
      ((parts.stmts options).flatMap Stmt.declared).Perm
        (component.fixedNames ++ component.givenNames ++ made ++ component.stateNames ++
          component.handlerNames) := by
  rcases component.collectionStmts_declared options with ⟨items, distinct, member, collections⟩
  have named : ∀ name ∈ items, ∃ model, name = relatedVariable model := by
    intro name known
    rcases List.mem_map.1 ((member name).1 known) with ⟨query, among, rfl⟩
    exact ⟨query.model, Component.items_of_mem_relatedQueries among⟩
  refine ⟨_, component.nodup_collection distinct named, ?_, ?_⟩
  · intro name
    rw [List.mem_append, member, ← List.mem_append]
    rfl
  · have last : [Stmt.ret (.jsx parts.markup)].flatMap Stmt.declared = [] := rfl
    simp only [stmts, List.flatMap_append, states_declared, actions_declared, last,
      List.append_nil]
    rw [List.perm_iff_count]
    intro name
    have first := (opening_declared component).count_eq name
    have queried := collections.count_eq name
    simp only [List.count_append] at first queried
    simp only [Component.givenNames, List.count_append, first, queried]
    omega

end BodyParts

/-- Which components have a file that declares no name twice. -/
theorem declared_nodup_iff {options : SourceOptions} {component : Component} {file : SourceFile}
    (rendered : component.render options = .ok file) :
    ∃ parts : BodyParts component, parts.file options = file ∧
      (((parts.stmts options).flatMap Stmt.declared).Nodup ↔ component.NamesApart options) := by
  rcases Component.render_eq_ok.1 rendered with ⟨_, parts, written⟩
  rcases parts.declared_perm options with ⟨made, distinct, member, same⟩
  have made_disjoint : ∀ names : List String,
      made.Disjoint names ↔ (component.collectionNames options).Disjoint names := by
    intro names
    simp only [List.Disjoint, member]
  have disjoint_made : ∀ names : List String,
      names.Disjoint made ↔ (component.collectionNames options).Disjoint names :=
    fun names => List.disjoint_comm.trans (made_disjoint names)
  refine ⟨parts, written, ?_⟩
  rw [same.nodup_iff]
  simp only [List.nodup_append', List.disjoint_append_left, List.disjoint_append_right,
    made_disjoint, disjoint_made]
  constructor
  · intro nodup
    rcases nodup with ⟨before, handlers, ⟨⟨fixedHandlers, givenHandlers⟩, madeHandlers⟩,
      statesHandlers⟩
    rcases before with ⟨⟨⟨_, _, fixedGiven⟩, _, _, madeGiven⟩, states,
      ⟨fixedStates, givenStates⟩, madeStates⟩
    refine ⟨states, handlers, ?_, ?_⟩
    · simp [fixedGiven, fixedStates, fixedHandlers, givenStates, givenHandlers, statesHandlers]
    · simp only [List.disjoint_append_right]
      exact ⟨⟨madeGiven, madeStates⟩, madeHandlers⟩
  · intro apart
    have kinds := apart.kinds
    have collections := apart.collections
    simp only [List.pairwise_cons, List.mem_cons, List.not_mem_nil, or_false, forall_eq_or_imp,
      forall_eq] at kinds
    simp only [List.disjoint_append_right] at collections
    obtain ⟨⟨fixedGiven, fixedStates, fixedHandlers⟩, ⟨givenStates, givenHandlers⟩,
      statesHandlers, _⟩ := kinds
    rcases collections with ⟨⟨madeGiven, madeStates⟩, madeHandlers⟩
    have madeFixed : (component.collectionNames options).Disjoint component.fixedNames :=
      List.disjoint_symm (Component.fixedNames_disjoint_collectionNames fixedGiven)
    have fixed := component.fixedNames_nodup
    have given := component.givenNames_nodup
    exact ⟨⟨⟨⟨fixed, given, fixedGiven⟩, distinct, madeFixed, madeGiven⟩, apart.states,
      ⟨fixedStates, givenStates⟩, madeStates⟩, apart.handlers,
      ⟨⟨fixedHandlers, givenHandlers⟩, madeHandlers⟩, statesHandlers⟩

/-- A box with one prop. -/
def boxWith (prop : String) : Component :=
  ⟨none, .ofName "Box" "View", ⟨[(prop, .scalar .string none)], by simp [Entries.keys]⟩, none, [],
    none⟩

theorem declared_nodup_box :
    ∃ file, (boxWith "title").render {} = .ok file ∧
      ∃ parts : BodyParts (boxWith "title"), parts.file {} = file ∧
        ((parts.stmts {}).flatMap Stmt.declared).Nodup := by
  have valid : (boxWith "title").validate = .ok () := by decide
  rcases Component.exists_render {} valid ⟨_, rfl⟩ with ⟨_, rendered⟩
  have apart : (boxWith "title").NamesApart {} := by
    constructor <;> decide
  rcases declared_nodup_iff rendered with ⟨parts, written, distinct⟩
  exact ⟨_, rendered, parts, written, distinct.2 apart⟩

/-- The prop of the same name as the overrides. -/
theorem overrides_declared_twice :
    ∃ file, (boxWith "overrides").render {} = .ok file ∧
      ∃ parts : BodyParts (boxWith "overrides"), parts.file {} = file ∧
        ¬((parts.stmts {}).flatMap Stmt.declared).Nodup := by
  have valid : (boxWith "overrides").validate = .ok () := by decide
  rcases Component.exists_render {} valid ⟨_, rfl⟩ with ⟨parts, rendered⟩
  refine ⟨_, rendered, parts, rfl, ?_⟩
  intro distinct
  have props := (List.nodup_flatMap.1 distinct).1 (boxWith "overrides").propsStmt
    (by simp [BodyParts.stmts, BodyParts.opening])
  revert props
  decide

end JsxGen
