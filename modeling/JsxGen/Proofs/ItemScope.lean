import JsxGen.Proofs.Collection
import JsxGen.Proofs.StateOrder
import JsxGen.Proofs.StateWiring

/-!
Where the source reads the current item of a collection. Only the function that makes the markup of
each item binds it; `item_scoped_iff` says for which components nothing outside reads it.
-/

namespace JsxGen

open Js

namespace Element

variable {usage : Usage} {element : Element}

/-- The properties whose values the attributes of the element compute. The others are read from
state. -/
def written (usage : Usage) (element : Element) : List Property :=
  (element.properties.entries.filter fun entry =>
    (⟨element.name, attributeName element.type entry.1⟩ : StateRef) ∉ usage.states).map Prod.snd

def handlers (element : Element) : List String :=
  element.events.entries.map fun (name, event) =>
    match event with
    | .action _ => handlerName element.name name
    | .binding prop => prop

/-- The variables of the state of the element, and those of its handlers. -/
def ownNames (usage : Usage) (element : Element) : List String :=
  (usage.states.filter (·.component = element.name)).map StateRef.getter ++ element.handlers

def reads (usage : Usage) (element : Element) : List String :=
  (element.written usage).flatMap (Property.names usage.types) ++ element.ownNames usage

theorem eventAttributes_free (element : Element) :
    element.eventAttributes.flatMap JsxAttribute.free = element.handlers := by
  rw [eventAttributes, handlers, List.flatMap_map, List.map_eq_flatMap]
  refine List.flatMap_congr fun entry _ => ?_
  rcases entry with ⟨name, event⟩
  cases event <;> rfl

theorem mem_written {property : Property} :
    property ∈ element.written usage ↔ ∃ key, (key, property) ∈ element.properties.entries ∧
      ⟨element.name, attributeName element.type key⟩ ∉ usage.states := by
  simp [written]

theorem mem_stateGetters {name : String} :
    name ∈ (usage.states.filter (·.component = element.name)).map StateRef.getter ↔
      ∃ ref ∈ usage.states, ref.component = element.name ∧ ref.getter = name := by
  simp [and_assoc]

/-- A state of the element is read either in place of a property or in an attribute of its own. -/
theorem attributes_free {attributes : List JsxAttribute}
    (made : element.attributes usage = .ok attributes) (name : String) :
    name ∈ attributes.flatMap JsxAttribute.free ↔ name ∈ element.reads usage := by
  rcases attributes_ok made with ⟨properties, each, rfl⟩
  simp only [reads, ownNames, List.flatMap_append, List.mem_append, eventAttributes_free,
    mem_stateGetters, ← or_assoc]
  refine or_congr_left ?_
  constructor
  · intro read
    rcases read with read | read
    · rcases List.mem_flatMap.1 read with ⟨attribute_, among, read⟩
      rcases exists_source each among with ⟨entry, member, evaluated⟩
      rcases propertyAttribute_ok evaluated with ⟨value, rfl, state, own⟩
      rw [JsxAttribute.free] at read
      by_cases used : ⟨element.name, attributeName element.type entry.1⟩ ∈ usage.states
      · rw [state used, Expr.free, List.mem_singleton] at read
        exact .inr ⟨_, used, rfl, read.symm⟩
      · rw [entry.2.toExpr_free (own used)] at read
        exact .inl (List.mem_flatMap_of_mem (mem_written.2 ⟨entry.1, member, used⟩) read)
    · rcases List.mem_flatMap.1 read with ⟨attribute_, among, read⟩
      rcases mem_stateAttributes.1 among with ⟨ref, used, own, _, rfl⟩
      rw [JsxAttribute.free, Expr.free, List.mem_singleton] at read
      exact .inr ⟨ref, used, own, read.symm⟩
  · intro read
    rcases read with read | ⟨ref, used, own, rfl⟩
    · rcases List.mem_flatMap.1 read with ⟨property, among, read⟩
      rcases mem_written.1 among with ⟨key, member, unused⟩
      rcases exists_related each member with ⟨attribute_, present, evaluated⟩
      rcases propertyAttribute_ok evaluated with ⟨value, rfl, _, given⟩
      refine .inl (List.mem_flatMap_of_mem present ?_)
      rw [JsxAttribute.free, property.toExpr_free (given unused)]
      exact read
    · have present := named_mem_of_state each used own
      rw [← List.mem_append, ← List.flatMap_append]
      refine List.mem_flatMap_of_mem present ?_
      rw [JsxAttribute.free, Expr.free]
      exact List.mem_cons_self

theorem item_notMem_overridesSpread (name : String) :
    itemVariable ∉ (overridesSpread name).free := by
  have hook : itemVariable ≠ Hook.overrideProps.name := by decide
  have overrides : itemVariable ≠ overridesVariable := by decide
  simp [overridesSpread, JsxAttribute.free, Expr.free, Expr.freeAll, hook, overrides]

mutual

theorem item_mem_toJsx : (element : Element) → {jsx : JsxElement} →
    element.toJsx usage = .ok jsx →
      (itemVariable ∈ jsx.free ↔ ∃ inner ∈ element.preorder, itemVariable ∈ inner.reads usage)
  | ⟨name, type, properties, children, events⟩, jsx, h => by
    obtain ⟨attributes, inner, made, below, rfl⟩ := toJsx_ok h
    have spread := item_notMem_overridesSpread name
    rw [JsxElement.free, JsxAttribute.freeAll_eq, List.flatMap_append, List.flatMap_singleton,
      List.mem_append, List.mem_append, attributes_free made, item_mem_toJsxAll children below,
      or_iff_left spread, preorder, List.exists_mem_cons_iff]

theorem item_mem_toJsxAll : (children : List Element) → {inner : List JsxElement} →
    toJsxAll usage children = .ok inner →
      (itemVariable ∈ JsxChild.freeAll (inner.map .element) ↔
        ∃ element ∈ preorderAll children, itemVariable ∈ element.reads usage)
  | [], inner, h => by
    cases h
    simp [JsxChild.freeAll, preorderAll]
  | child :: children, inner, h => by
    obtain ⟨first, rest, made, others, rfl⟩ := toJsxAll_cons_ok h
    rw [List.map_cons, JsxChild.freeAll, JsxChild.free, List.mem_append, item_mem_toJsx child made,
      item_mem_toJsxAll children others, preorderAll]
    simp only [List.mem_append, or_and_right, exists_or]

end

end Element

namespace Component

variable {component : Component}

/-- The elements whose markup stands outside the function for each item. -/
def outerElements (component : Component) : List Element :=
  match component.collections with
  | some _ => [component.root]
  | none => component.root.preorder

/-- The properties whose expressions stand outside the function for each item: first values of
states, what actions are given, and attributes. -/
def outerProperties (component : Component) : List Property :=
  component.usage.states.filterMap component.root.initialProperty? ++
    component.root.actions.flatMap (·.event.written) ++
    component.outerElements.flatMap (Element.written component.usage)

/-- What else is read there, under names that come from the schema. -/
def outerNames (options : SourceOptions) (component : Component) : List String :=
  component.root.actions.flatMap (·.event.classNames) ++
    component.outerElements.flatMap (Element.ownNames component.usage) ++
    component.queryKeys ++ component.queriedModels options

/-- No property reads the current item outside the function for each item, and nothing that is read
there has its name. -/
structure ItemScoped (options : SourceOptions) (component : Component) : Prop where
  properties : ∀ property ∈ component.outerProperties,
    itemVariable ∉ property.names component.usage.types
  names : itemVariable ∉ component.outerNames options

/-- The function for each item binds it. -/
theorem item_notMem_itemChildren {usage : Usage} {children : List JsxChild}
    (made : component.itemChildren usage = .ok children) :
    itemVariable ∉ JsxChild.freeAll children := by
  rcases itemChildren_ok made with ⟨_, rfl⟩ | ⟨template, item, _, _, rfl⟩
  · exact List.not_mem_nil
  · simp [JsxChild.freeAll, JsxChild.free, Expr.free, itemVariable]

theorem item_mem_rootJsx {markup : JsxElement}
    (made : component.rootJsx component.usage = .ok markup) :
    itemVariable ∈ markup.free ↔
      itemVariable ∈ component.outerElements.flatMap (Element.reads component.usage) ∨
        itemVariable ∈ component.queryKeys := by
  rcases rootJsx_ok made with ⟨attributes, children, own, inner, rfl⟩
  have items : (component.queries.map fun query => itemsAttribute query.1).flatMap
      JsxAttribute.free = component.queryKeys := by
    rw [List.flatMap_map, queryKeys, List.map_eq_flatMap]
    rfl
  have rest : itemVariable ∉ (JsxAttribute.spread (.ident restVariable)).free := by decide
  have spread := Element.item_notMem_overridesSpread component.root.name
  rw [JsxElement.free, JsxAttribute.freeAll_eq, List.flatMap_append, List.flatMap_append, items,
    List.mem_append, List.mem_append, List.mem_append, Element.attributes_free own,
    List.flatMap_cons, List.flatMap_singleton, List.mem_append, or_iff_right rest,
    or_iff_left spread]
  unfold outerElements
  rcases inner with ⟨⟨collections, known⟩, inner⟩ | ⟨single, elements, all, rfl⟩
  · have bound := item_notMem_itemChildren inner
    rw [known, List.flatMap_singleton, or_iff_left bound]
  · rw [single, Element.item_mem_toJsxAll _ all, Element.preorder_eq, List.flatMap_cons,
      List.mem_append, List.mem_flatMap, or_right_comm]

theorem item_mem_initialNames {ref : StateRef} :
    itemVariable ∈ component.initialNames ref ↔ ∃ property,
      component.root.initialProperty? ref = some property ∧
        itemVariable ∈ property.names component.usage.types := by
  have undefined_ : itemVariable ∉ undefinedExpr.free := by decide
  unfold initialNames
  cases component.root.initialProperty? ref with
  | none => simp [undefined_]
  | some property => simp

end Component

theorem freeAll_literals {α : Type} (value : α → Expr) (literal : ∀ x, (value x).free = [])
    (entries : List (String × α)) :
    Member.freeAll (entries.map fun (key, x) => Member.ofString key (value x)) = [] := by
  rw [Member.freeAll_eq, List.flatMap_map, List.flatMap_eq_nil_iff]
  intro entry _
  rcases entry with ⟨key, x⟩
  change (Member.ofString key (value x)).free = []
  rw [Member.ofString, Member.free, literal]

theorem Variant.toExpr_free (variant : Variant) : variant.toExpr.free = [] := by
  have values := freeAll_literals Expr.str (fun _ => by rw [Expr.free]) variant.values.entries
  have overrides := freeAll_literals (fun value : Literal => Expr.ofJson value.json)
    (fun value => Expr.free_ofJson value.json) variant.overrides.entries
  simp only [toExpr, Expr.inline, Expr.free, Member.freeAll, Member.free, Member.ofString]
    at values overrides ⊢
  rw [values, overrides, List.append_nil, List.append_nil]

theorem variantsExpr_free (variants : List Variant) : (variantsExpr variants).free = [] := by
  simp [variantsExpr, Expr.free, Expr.freeAll_eq, Variant.toExpr_free]

theorem breakpointStmt_free (smallest : Breakpoint) (sizes : List Breakpoint) :
    (breakpointStmt smallest sizes).free = [Hook.breakpointValue.name] := by
  simp [breakpointStmt, Stmt.constName, Stmt.free, Expr.free, Expr.freeAll, Expr.inline,
    Member.freeAll_eq, Member.ofString, Member.free]

theorem Component.variantStmts_free (component : Component) (props overrides : String) :
    (component.variantStmts props overrides).flatMap Stmt.free =
      if component.variants.isEmpty then []
      else if component.breakpoints.isEmpty then
        [Hook.variantOverrides.name, "variants", props, propAlias overrides]
      else
        [Hook.breakpointValue.name, Hook.variantOverrides.name, "variants", "breakpointHook", props,
          propAlias overrides] := by
  unfold variantStmts
  split
  · rfl
  · cases component.breakpoints with
    | nil =>
      simp [breakpointStmts, variantProps, Stmt.constName, Stmt.free, Expr.free, Expr.freeAll,
        Expr.inline, Member.freeAll, Member.free, variantsExpr_free]
    | cons smallest sizes =>
      simp [breakpointStmts, variantProps, Stmt.constName, Stmt.free, Expr.free, Expr.freeAll,
        Expr.inline, Member.freeAll, Member.free, Member.ofString, variantsExpr_free,
        breakpointStmt_free]

theorem StateRef.item_ne_setter (ref : StateRef) : itemVariable ≠ ref.setter := by
  intro same
  have letters := congrArg String.toList same
  simp [setter, itemVariable, String.toList_append] at letters

namespace BodyParts

variable {component : Component}

theorem item_notMem_opening (component : Component) :
    itemVariable ∉ (opening component).flatMap Stmt.free := by
  have props : itemVariable ∉ component.propsStmt.free := by
    rw [Component.propsStmt, Stmt.free]
    decide
  have auth : itemVariable ∉ authStmt.free := by decide
  have variants :
      itemVariable ∉ (component.variantStmts propsVariable overridesVariable).flatMap Stmt.free := by
    rw [Component.variantStmts_free]
    cases component.variants.isEmpty <;> cases component.breakpoints.isEmpty <;> decide
  rw [opening, List.flatMap_append, List.flatMap_cons, List.mem_append, List.mem_append, not_or,
    not_or]
  refine ⟨⟨props, variants⟩, ?_⟩
  split
  · rw [List.flatMap_singleton]
    exact auth
  · exact List.not_mem_nil

theorem item_mem_states (parts : BodyParts component) :
    itemVariable ∈ parts.states.flatMap Stmt.free ↔
      itemVariable ∈ (component.usage.states.filterMap component.root.initialProperty?).flatMap
        (Property.names component.usage.types) := by
  have callee : itemVariable ≠ "useStateMutationAction" := by decide
  have each : ∀ ref stmt, stateStmt component.usage.types component.root ref = .ok stmt →
      (itemVariable ∈ stmt.free ↔ itemVariable ∈ component.initialNames ref) := by
    intro ref stmt made
    rcases stateStmt_ok made with ⟨initial, given, rfl⟩
    rw [← Component.initialState_free given]
    simp [StateHook.toStmt, Stmt.free, Expr.free, Expr.freeAll, callee]
  rw [mem_flatMap_related parts.states_made each]
  simp only [List.mem_flatMap, List.mem_filterMap, Component.item_mem_initialNames]
  constructor
  · intro known
    rcases known with ⟨ref, used, property, given, read⟩
    exact ⟨property, ⟨ref, used, given⟩, read⟩
  · intro known
    rcases known with ⟨property, ⟨ref, used, given⟩, read⟩
    exact ⟨ref, used, property, given, read⟩

theorem item_mem_actions (parts : BodyParts component) :
    itemVariable ∈ parts.actions.flatMap Stmt.free ↔
      itemVariable ∈ (component.root.actions.flatMap (·.event.written)).flatMap
          (Property.names component.usage.types) ∨
        itemVariable ∈ component.root.actions.flatMap (·.event.classNames) := by
  have hook : ∀ action : Action, itemVariable ≠ action.hook.name := by
    intro action
    cases action <;> decide
  have each : ∀ (use : ActionUse) stmt,
      use.event.toStmt component.usage.types use.handler = .ok stmt →
      (itemVariable ∈ stmt.free ↔ itemVariable ∈
        use.event.written.flatMap (Property.names component.usage.types) ++ use.event.classNames) := by
    intro use stmt made
    rw [List.mem_append]
    exact ActionEvent.toStmt_free made (by decide) hook StateRef.item_ne_setter
  exact (mem_flatMap_related parts.actions_made each).trans mem_flatMap_append

/-- The source reads the item outside the function for each item through a property or a name. -/
theorem item_mem_stmts (options : SourceOptions) (parts : BodyParts component) :
    itemVariable ∈ (parts.stmts options).flatMap Stmt.free ↔
      itemVariable ∈ component.outerProperties.flatMap (Property.names component.usage.types) ∨
        itemVariable ∈ component.outerNames options := by
  have opening := item_notMem_opening component
  have collections := component.item_mem_collectionStmts options
  have markup : itemVariable ∈ [Stmt.ret (.jsx parts.markup)].flatMap Stmt.free ↔
      (itemVariable ∈ (component.outerElements.flatMap (Element.written component.usage)).flatMap
          (Property.names component.usage.types) ∨
        itemVariable ∈ component.outerElements.flatMap (Element.ownNames component.usage)) ∨
        itemVariable ∈ component.queryKeys := by
    rw [List.flatMap_singleton, Stmt.free, Expr.free, Component.item_mem_rootJsx parts.markup_made]
    exact or_congr_left mem_flatMap_append
  simp only [stmts, List.flatMap_append, List.mem_append, opening, false_or, item_mem_states,
    item_mem_actions, collections, markup, Component.outerProperties, Component.outerNames,
    or_assoc, or_comm, or_left_comm]

theorem item_mem_stmts_of_mem_attributes (options : SourceOptions) (parts : BodyParts component)
    (read : itemVariable ∈ parts.markup.attributes.flatMap JsxAttribute.free) :
    itemVariable ∈ (parts.stmts options).flatMap Stmt.free := by
  have last : Stmt.ret (.jsx parts.markup) ∈ parts.stmts options :=
    List.mem_append_right _ List.mem_cons_self
  refine List.mem_flatMap_of_mem last ?_
  rw [Stmt.free, Expr.free]
  revert read
  rcases parts.markup with ⟨tag, attributes, children⟩
  intro read
  rw [JsxElement.free, JsxAttribute.freeAll_eq]
  exact List.mem_append_left _ read

end BodyParts

/-- Which components have a source where only the function for each item reads the item. A property
bound to the collection is read out of place wherever else it is written. -/
theorem item_scoped_iff {options : SourceOptions} {component : Component} {file : SourceFile}
    (rendered : component.render options = .ok file) :
    ∃ parts : BodyParts component, parts.file options = file ∧
      (itemVariable ∉ (parts.stmts options).flatMap Stmt.free ∧
          itemVariable ∉ parts.markup.attributes.flatMap JsxAttribute.free ↔
        component.ItemScoped options) ∧
      ∀ outer ∈ component.outerProperties, ∀ ref fallback,
        (Property.collectionBound ref fallback).Within outer →
          itemVariable ∈ (parts.stmts options).flatMap Stmt.free := by
  rcases Component.render_eq_ok.1 rendered with ⟨_, parts, written⟩
  have stmts := parts.item_mem_stmts options
  refine ⟨parts, written, ?_, ?_⟩
  · constructor
    · intro absent
      have neither := not_or.1 (mt stmts.2 absent.1)
      exact ⟨fun property among read => neither.1 (List.mem_flatMap_of_mem among read), neither.2⟩
    · intro inside
      have absent : itemVariable ∉ (parts.stmts options).flatMap Stmt.free := by
        intro read
        rcases stmts.1 read with read | named
        · rcases List.mem_flatMap.1 read with ⟨property, among, read⟩
          exact inside.properties property among read
        · exact inside.names named
      exact ⟨absent, mt (parts.item_mem_stmts_of_mem_attributes options) absent⟩
  · intro outer among ref fallback within
    have read : itemVariable ∈ (Property.collectionBound ref fallback).names
        component.usage.types := by
      rw [Property.names]
      exact List.mem_cons_self
    exact stmts.2 (.inl (List.mem_flatMap_of_mem among (within.names_subset read)))

/-- A list of books, each shown by its title. -/
def bookList (events : OrderedMap Event) : Component :=
  let title : Property := .collectionBound ⟨"items", some "title"⟩ none
  let row : Element := ⟨"Row", "Heading", ⟨[("label", title)], by decide⟩, [], events⟩
  ⟨none, ⟨"Books", "Collection", ∅, [row], ∅⟩, ∅, some ⟨[("items", ⟨"Book", none⟩)], by decide⟩, [],
    none⟩

theorem item_scoped_books :
    ∃ file, (bookList ∅).render {} = .ok file ∧
      ∃ parts : BodyParts (bookList ∅), parts.file {} = file ∧
        itemVariable ∉ (parts.stmts {}).flatMap Stmt.free ∧
        itemVariable ∉ parts.markup.attributes.flatMap JsxAttribute.free := by
  have valid : (bookList ∅).validate = .ok () := by decide
  rcases Component.exists_render {} valid ⟨_, rfl⟩ with ⟨_, rendered⟩
  have inside : (bookList ∅).ItemScoped {} := by
    constructor <;> decide
  rcases item_scoped_iff rendered with ⟨parts, written, scope, _⟩
  exact ⟨_, rendered, parts, written, scope.2 inside⟩

/-- The title becomes state once a click sets it; its first value then reads the item at the start
of the function of the whole list. -/
theorem title_reads_item_outside :
    let click : ActionEvent := ⟨"Amplify.Mutation",
      some ⟨[("state", .mutation ⟨⟨"Row", "label"⟩, .fixed ⟨.str "Sold", trivial⟩ none⟩)],
        by decide⟩⟩
    let component := bookList ⟨[("click", .action click)], by decide⟩
    ∃ file, component.render {} = .ok file ∧
      ∃ parts : BodyParts component, parts.file {} = file ∧
        (.const (.array ["rowChildren", "setRowChildren"]) (.call (.ident "useStateMutationAction")
          [.member (.ident "item") "title" true])) ∈ parts.stmts {} ∧
        itemVariable ∈ (parts.stmts {}).flatMap Stmt.free := by
  intro click component
  have valid : component.validate = .ok () := by decide
  have states : component.usage.states = [⟨"Row", "children"⟩] := by decide
  rcases Component.exists_render {} valid ⟨_, rfl⟩ with ⟨parts, rendered⟩
  rcases parts.exists_hooks with ⟨hooks, same, refs, made⟩
  rw [states] at refs
  obtain ⟨⟨ref, initial⟩, hooks, rfl, first, refs⟩ := List.map_eq_cons_iff.1 refs
  obtain rfl := List.map_eq_nil_iff.1 refs
  obtain rfl : ref = ⟨"Row", "children"⟩ := first
  have value : initialState component.usage.types component.root ⟨"Row", "children"⟩ =
      .ok (.member (.ident "item") "title" true) := rfl
  have known := made _ List.mem_cons_self
  rw [value] at known
  obtain rfl := Except.ok.inj known
  have declared : StateHook.toStmt ⟨⟨"Row", "children"⟩, .member (.ident "item") "title" true⟩ ∈
      parts.stmts {} := by
    rw [BodyParts.stmts_eq, same]
    exact List.mem_append_left _ (List.mem_append_right _ List.mem_cons_self)
  exact ⟨_, rendered, parts, rfl, declared, List.mem_flatMap_of_mem declared (by decide)⟩

end JsxGen
