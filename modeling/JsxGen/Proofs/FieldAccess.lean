import JsxGen.Proofs.Js.MemberNames
import JsxGen.Proofs.Success

/-!
How the source reads fields. Whatever their names, all of them are read with a dot, so that a source
is well formed only if the names are identifiers: `members_identifiers_iff`.
-/

namespace JsxGen

open Js

open Text (isIdentifier)

theorem IsLiteral.memberNames {e : Expr} (literal : IsLiteral e) : e.memberNames = [] := by
  cases literal with
  | json value => exact Expr.memberNames_ofJson value
  | num value => rw [Expr.memberNames]

theorem PropRef.access_memberNames (base : String) (field : Option String) :
    (PropRef.access base field).memberNames = field.toList := by
  cases field with
  | none => rw [access, Expr.memberNames, Option.toList_none]
  | some field =>
    rw [access, Expr.memberNames, Expr.memberNames, List.nil_append, Option.toList_some]

theorem withFallback_memberNames (value : Expr) (fallback : Option String) :
    (withFallback value fallback).memberNames = value.memberNames := by
  cases fallback with
  | none => rw [withFallback]
  | some text => rw [withFallback, Expr.memberNames, Expr.memberNames, List.append_nil]

/-- Besides the field of its subject, a comparison may read the method `includes`. -/
theorem Comparison.toExpr_memberNames {test : Comparison} {e : Expr} (made : test.toExpr = .ok e) :
    nonIdentifiers e.memberNames = nonIdentifiers test.subject.field.toList := by
  have includes : nonIdentifiers ["includes"] = [] := nonIdentifiers_of_identifier (by decide)
  have operand := (isLiteral_operandExpr test.operand.json test.operandType).memberNames
  unfold toExpr at made
  dsimp only at made
  split at made
  · cases made
    rw [Expr.memberNames, Expr.memberNames, Expr.memberNamesAll, Expr.memberNamesAll, operand,
      PropRef.access_memberNames, nonIdentifiers_append, nonIdentifiers_append, includes]
    simp
  · split at made
    · cases made
      rw [Expr.memberNames, PropRef.access_memberNames, operand, List.append_nil]
    · cases made

namespace Property

mutual

/-- The names of the fields that the property reads, in order. -/
def fields : Property → List String
  | .bound ref _ | .collectionBound ref _ => ref.field.toList
  | .concat parts => allFields parts
  | .conditional test yes no => test.subject.field.toList ++ (yes.fields ++ no.fields)
  | .auth _ | .state _ | .fixed _ _ => []

def allFields : List Property → List String
  | [] => []
  | part :: parts => part.fields ++ allFields parts

end

variable {types : ElementTypes}

mutual

theorem toExpr_memberNames : (property : Property) → {e : Expr} → property.toExpr types = .ok e →
    nonIdentifiers e.memberNames = nonIdentifiers property.fields
  | .fixed value type, e, made => by
    cases made
    rw [(isLiteral_fixedExpr value.json type).memberNames, fields]
  | .bound ref fallback, e, made => by
    cases made
    rw [withFallback_memberNames, PropRef.access_memberNames, fields]
  | .collectionBound ref fallback, e, made => by
    cases made
    rw [withFallback_memberNames, PropRef.access_memberNames, fields]
  | .concat parts, e, made => by
    rw [toExpr] at made
    rcases bind_eq_ok.1 made with ⟨parts', each, made⟩
    cases made
    rw [Expr.memberNames, toParts_memberNames parts each, fields]
  | .conditional test yes no, e, made => by
    rw [toExpr] at made
    rcases bind_eq_ok.1 made with ⟨test', tested, made⟩
    rcases bind_eq_ok.1 made with ⟨yes', first, made⟩
    rcases bind_eq_ok.1 made with ⟨no', second, made⟩
    cases made
    rw [Expr.memberNames, fields, nonIdentifiers_append, nonIdentifiers_append,
      Comparison.toExpr_memberNames tested, toExpr_memberNames yes first,
      toExpr_memberNames no second, nonIdentifiers_append, nonIdentifiers_append]
  | .auth name, e, made => by
    cases made
    rw [Expr.memberNames, Expr.memberNames, Expr.memberNames, fields, List.append_nil]
  | .state ref, e, made => by
    cases made
    rw [Expr.memberNames, fields]

theorem toParts_memberNames : (parts : List Property) → {parts' : List TemplatePart} →
    toParts types parts = .ok parts' →
      nonIdentifiers (TemplatePart.memberNamesAll parts') = nonIdentifiers (allFields parts)
  | [], parts', made => by
    cases made
    rw [TemplatePart.memberNamesAll, allFields]
  | part :: parts, parts', made => by
    rcases toParts_cons_ok made with ⟨first, rest, start, others, rfl⟩
    have same : nonIdentifiers first.memberNames = nonIdentifiers part.fields := by
      rcases start with ⟨text, distinct, type, rfl, rfl⟩ | ⟨e, given, rfl⟩
      · rw [TemplatePart.memberNames, fields]
      · rw [TemplatePart.memberNames, toExpr_memberNames part given]
    rw [TemplatePart.memberNamesAll, allFields, nonIdentifiers_append, same,
      toParts_memberNames parts others, nonIdentifiers_append]

end

end Property

theorem members_memberNames {α : Type} {value : String → α → Except InputError Expr}
    {entries : List (String × α)} {made : List Member} (names : α → List String)
    (each : ∀ key x e, value key x = .ok e →
      nonIdentifiers e.memberNames = nonIdentifiers (names x))
    (h : members value entries = .ok made) :
    nonIdentifiers (Member.memberNamesAll made) =
      nonIdentifiers (entries.flatMap fun entry => names entry.2) := by
  rw [Member.memberNamesAll_eq, nonIdentifiers_flatMap, nonIdentifiers_flatMap]
  refine flatMap_related (members_related h) ?_
  rintro entry _ ⟨e, given, rfl⟩
  rw [Member.ofString, Member.memberNames, each _ _ _ given]

theorem Parameter.toExpr_memberNames {types : ElementTypes} {key : String} {parameter : Parameter}
    {e : Expr} (made : parameter.toExpr types key = .ok e) :
    nonIdentifiers e.memberNames =
      nonIdentifiers (parameter.properties.flatMap Property.fields) := by
  cases parameter with
  | literal text =>
    cases made
    split
    · rw [Expr.memberNames, properties, List.flatMap_nil]
    · rw [Expr.memberNames, properties, List.flatMap_nil]
  | mutation mutation => cases made
  | property property =>
    rw [toExpr] at made
    rw [property.toExpr_memberNames made, properties, List.flatMap_singleton]
  | fields fields =>
    rw [toExpr] at made
    rcases bind_eq_ok.1 made with ⟨given, each, made⟩
    cases made
    have read := members_memberNames Property.fields
      (fun _ property _ made => property.toExpr_memberNames made) each
    rw [Expr.inline, Expr.memberNames, read, properties, OrderedMap.values, List.flatMap_map]

namespace ActionEvent

variable {types : ElementTypes} {event : ActionEvent}

theorem arguments_memberNames {action : Action} {argument : Option Expr}
    (made : event.arguments types action = .ok argument) :
    nonIdentifiers (Expr.memberNamesAll argument.toList) = nonIdentifiers
      ((event.parameterEntries.flatMap fun entry => entry.2.properties).flatMap
        Property.fields) := by
  unfold arguments at made
  unfold parameterEntries
  cases given : event.parameters with
  | none =>
    rw [given] at made
    cases made
    rfl
  | some parameters =>
    rw [given] at made
    rcases bind_eq_ok.1 made with ⟨members', each, made⟩
    cases made
    have read := members_memberNames (fun parameter => parameter.properties.flatMap Property.fields)
      (fun _ _ _ => Parameter.toExpr_memberNames) each
    have schema :
        Member.memberNamesAll (if action.onDataStore then [schemaMember] else []) = [] := by
      cases action.onDataStore <;> rfl
    rw [Member.memberNamesAll_eq] at read schema
    rw [Option.toList_some, Expr.memberNamesAll, Expr.memberNamesAll, List.append_nil, Expr.inline,
      Expr.memberNames, Member.memberNamesAll_eq, List.flatMap_append, schema, List.append_nil,
      read, List.flatMap_assoc]

theorem toStmt_memberNames {handler : String} {stmt : Stmt}
    (made : event.toStmt types handler = .ok stmt) :
    nonIdentifiers stmt.memberNames = nonIdentifiers (event.written.flatMap Property.fields) := by
  unfold written
  rcases toStmt_eq_ok.1 made with ⟨named, mutation, value, first, given, rfl⟩ |
    ⟨action, argument, named, other, given, rfl⟩
  · rw [if_pos named, first]
    simp [Stmt.constName, Stmt.memberNames, Stmt.memberNamesAll, Expr.memberNames,
      Expr.memberNamesAll, mutation.value.toExpr_memberNames given]
  · have apart : event.action ≠ Action.mutation.name := by
      rw [named]
      exact Action.name_injective.ne other
    rw [if_neg apart, Stmt.constName, Stmt.memberNames, Expr.memberNames, Expr.memberNames,
      List.nil_append, arguments_memberNames given]

end ActionEvent

namespace Element

variable {usage : Usage} {element : Element}

/-- A property that is kept as state is read from a plain variable. -/
theorem properties_memberNames {entries : List (String × Property)} {attributes : List JsxAttribute}
    (made : List.Forall₂ (fun entry attribute_ =>
      element.propertyAttribute usage entry = .ok attribute_) entries attributes) :
    nonIdentifiers (attributes.flatMap JsxAttribute.memberNames) = nonIdentifiers
      ((entries.filter fun entry =>
        (⟨element.name, attributeName element.type entry.1⟩ : StateRef) ∉ usage.states).flatMap
          fun entry => entry.2.fields) := by
  induction made with
  | nil => rfl
  | @cons entry attribute_ entries attributes first _ ih =>
    rcases propertyAttribute_ok first with ⟨value, rfl, state, own⟩
    rw [List.flatMap_cons, nonIdentifiers_append, ih, JsxAttribute.memberNames]
    by_cases used : ⟨element.name, attributeName element.type entry.1⟩ ∈ usage.states
    · rw [state used, Expr.memberNames, List.filter_cons_of_neg (by simpa using used)]
      rfl
    · rw [entry.2.toExpr_memberNames (own used), List.filter_cons_of_pos (by simpa using used),
        List.flatMap_cons, nonIdentifiers_append]

/-- State and events are attached by plain variables. -/
theorem attributes_memberNames {attributes : List JsxAttribute}
    (made : element.attributes usage = .ok attributes) :
    nonIdentifiers (attributes.flatMap JsxAttribute.memberNames) =
      nonIdentifiers ((element.written usage).flatMap Property.fields) := by
  rcases attributes_ok made with ⟨properties, each, rfl⟩
  have states : (element.stateAttributes usage).flatMap JsxAttribute.memberNames = [] := by
    rw [stateAttributes, List.flatMap_map, List.flatMap_eq_nil_iff]
    intro ref _
    rw [JsxAttribute.memberNames, Expr.memberNames]
  have events : element.eventAttributes.flatMap JsxAttribute.memberNames = [] := by
    rw [eventAttributes, List.flatMap_map, List.flatMap_eq_nil_iff]
    intro entry _
    rw [JsxAttribute.memberNames, Expr.memberNames]
  rw [List.flatMap_append, List.flatMap_append, states, events, List.append_nil, List.append_nil,
    written, List.flatMap_map]
  exact properties_memberNames each

theorem overridesSpread_memberNames (name : String) :
    (overridesSpread name).memberNames = [] := by
  simp [overridesSpread, JsxAttribute.memberNames, Expr.memberNames, Expr.memberNamesAll]

mutual

theorem toJsx_memberNames : (element : Element) → {jsx : JsxElement} →
    element.toJsx usage = .ok jsx →
      nonIdentifiers jsx.memberNames =
        nonIdentifiers ((element.preorder.flatMap (written usage)).flatMap Property.fields)
  | ⟨name, type, properties, children, events⟩, jsx, h => by
    rcases toJsx_ok h with ⟨attributes, inner, made, below, rfl⟩
    rw [JsxElement.memberNames, JsxAttribute.memberNamesAll_eq, List.flatMap_append,
      List.flatMap_singleton, overridesSpread_memberNames, List.append_nil, nonIdentifiers_append,
      attributes_memberNames made, toJsxAll_memberNames children below, preorder, List.flatMap_cons,
      List.flatMap_append, nonIdentifiers_append]

theorem toJsxAll_memberNames : (children : List Element) → {inner : List JsxElement} →
    toJsxAll usage children = .ok inner →
      nonIdentifiers (JsxChild.memberNamesAll (inner.map .element)) = nonIdentifiers
        (((preorderAll children).flatMap (written usage)).flatMap Property.fields)
  | [], inner, h => by
    cases h
    rfl
  | child :: children, inner, h => by
    rcases toJsxAll_cons_ok h with ⟨first, rest, made, others, rfl⟩
    rw [List.map_cons, JsxChild.memberNamesAll, JsxChild.memberNames, nonIdentifiers_append,
      toJsx_memberNames child made, toJsxAll_memberNames children others, preorderAll,
      List.flatMap_append, List.flatMap_append, nonIdentifiers_append]

end

end Element

namespace Component

variable {component : Component}

theorem itemChildren_memberNames {usage : Usage} {children : List JsxChild}
    (made : component.itemChildren usage = .ok children) :
    nonIdentifiers (JsxChild.memberNamesAll children) = nonIdentifiers
      (((Element.preorderAll component.root.children).flatMap (Element.written usage)).flatMap
        Property.fields) := by
  have key : nonIdentifiers keyAttribute.memberNames = [] :=
    nonIdentifiers_of_identifier (by decide)
  rcases itemChildren_ok made with
    ⟨empty, rfl⟩ | ⟨template, ⟨tag, attributes, inner⟩, only, above, rfl⟩
  · rw [empty]
    rfl
  · have known := template.toJsx_memberNames above
    rw [JsxElement.memberNames] at known
    rw [only, JsxChild.memberNamesAll, JsxChild.memberNamesAll, JsxChild.memberNames,
      Expr.memberNames, Expr.memberNames, JsxElement.memberNames, JsxAttribute.memberNamesAll,
      List.append_nil, List.append_assoc, nonIdentifiers_append, key, List.nil_append, known,
      Element.preorderAll, Element.preorderAll, List.append_nil]

theorem rootJsx_memberNames {usage : Usage} {markup : JsxElement}
    (made : component.rootJsx usage = .ok markup) :
    nonIdentifiers markup.memberNames = nonIdentifiers
      ((component.root.preorder.flatMap (Element.written usage)).flatMap Property.fields) := by
  rcases rootJsx_ok made with ⟨attributes, children, own, inner, rfl⟩
  have items : (component.queries.map fun query => itemsAttribute query.1).flatMap
      JsxAttribute.memberNames = [] := by
    rw [List.flatMap_map, List.flatMap_eq_nil_iff]
    intro query _
    simp [itemsAttribute, JsxAttribute.memberNames, Expr.memberNames, Expr.memberNamesAll]
  have rest : (JsxAttribute.spread (.ident restVariable)).memberNames = [] := by
    rw [JsxAttribute.memberNames, Expr.memberNames]
  have below : nonIdentifiers (JsxChild.memberNamesAll children) = nonIdentifiers
      (((Element.preorderAll component.root.children).flatMap (Element.written usage)).flatMap
        Property.fields) := by
    rcases inner with ⟨_, inner⟩ | ⟨_, elements, all, rfl⟩
    · exact itemChildren_memberNames inner
    · exact Element.toJsxAll_memberNames _ all
  rw [JsxElement.memberNames, JsxAttribute.memberNamesAll_eq, List.flatMap_append,
    List.flatMap_append, items, List.flatMap_cons, List.flatMap_singleton, rest,
    Element.overridesSpread_memberNames, List.append_nil, List.append_nil, List.append_nil,
    nonIdentifiers_append, Element.attributes_memberNames own, below, Element.preorder_eq,
    List.flatMap_cons, List.flatMap_append, nonIdentifiers_append]

end Component

theorem Query.items_memberNames (query : Query) : query.items.memberNames = ["items"] := by
  cases query with
  | mk model predicate =>
    cases predicate with
    | none => simp [items, Expr.memberNames, Expr.memberNamesAll, Expr.inline,
        Member.memberNamesAll, Member.memberNames, Member.ofString]
    | some predicate => simp [items, Expr.memberNames, Expr.memberNamesAll, Expr.inline,
        Member.memberNamesAll, Member.memberNames, Member.ofString, Expr.memberNames_ofJson]

theorem Query.nonIdentifiers_items (query : Query) :
    nonIdentifiers query.items.memberNames = [] := by
  rw [query.items_memberNames]
  exact nonIdentifiers_of_identifier (by decide)

theorem RelatedQuery.related_memberNames (query : RelatedQuery) :
    query.related.memberNames = ["filter"] ++ ([query.foreignKey] ++ ["id"]) := by
  simp [related, Member.ofString, Member.memberNames, Expr.memberNames, Expr.memberNamesAll]

/-- Items are related by the foreign key, whatever its name. -/
theorem joinRelated_memberNames (items : Expr) (queries : List RelatedQuery) :
    nonIdentifiers (joinRelated items queries).memberNames =
      nonIdentifiers items.memberNames ++ nonIdentifiers (queries.map (·.foreignKey)) := by
  have map : nonIdentifiers ["map"] = [] := nonIdentifiers_of_identifier (by decide)
  have filter : nonIdentifiers ["filter"] = [] := nonIdentifiers_of_identifier (by decide)
  have itemId : nonIdentifiers ["id"] = [] := nonIdentifiers_of_identifier (by decide)
  have related : nonIdentifiers (Member.memberNamesAll (queries.map RelatedQuery.related)) =
      nonIdentifiers (queries.map (·.foreignKey)) := by
    rw [Member.memberNamesAll_eq, List.flatMap_map, List.map_eq_flatMap, nonIdentifiers_flatMap,
      nonIdentifiers_flatMap]
    refine List.flatMap_congr fun query _ => ?_
    rw [query.related_memberNames, nonIdentifiers_append, nonIdentifiers_append, filter,
      itemId, List.nil_append, List.append_nil]
  simp only [joinRelated, Expr.memberNames, Expr.memberNamesAll, Member.memberNamesAll,
    Member.memberNames, nonIdentifiers_append, map, related, List.append_nil, List.nil_append]

theorem collectionStmts_memberNames (related : String → List RelatedQuery) (bound : List String)
    (queries : List (String × Query)) :
    nonIdentifiers ((collectionStmts related bound queries).flatMap Stmt.memberNames) =
      nonIdentifiers ((queries.flatMap fun query => related query.2.model).map (·.foreignKey)) := by
  induction queries generalizing bound with
  | nil => rfl
  | cons entry queries ih =>
    rcases entry with ⟨key, query⟩
    have fresh : nonIdentifiers (((newQueries bound (related query.model)).map
        RelatedQuery.toStmt).flatMap Stmt.memberNames) = [] := by
      rw [List.flatMap_map, nonIdentifiers_flatMap, List.flatMap_eq_nil_iff]
      intro query _
      rw [RelatedQuery.toStmt, Stmt.constName, Stmt.memberNames, Query.nonIdentifiers_items]
    have own : nonIdentifiers (Stmt.constName (dataStoreName key)
        (if (related query.model).isEmpty then query.items
          else joinRelated query.items (related query.model))).memberNames =
        nonIdentifiers ((related query.model).map (·.foreignKey)) := by
      rw [Stmt.constName, Stmt.memberNames]
      split
      · rename_i none
        rw [query.nonIdentifiers_items, List.isEmpty_iff.1 none]
        rfl
      · rw [joinRelated_memberNames, query.nonIdentifiers_items, List.nil_append]
    have prop : (collectionProp key).memberNames = [] := by
      simp [collectionProp, Stmt.constName, Stmt.memberNames, Expr.memberNames]
    rw [collectionStmts, List.flatMap_append, List.flatMap_cons, List.flatMap_cons,
      nonIdentifiers_append, nonIdentifiers_append, nonIdentifiers_append, fresh, own, prop, ih,
      List.flatMap_cons, List.map_append, nonIdentifiers_append]
    rfl

theorem Component.collectionStmts_memberNames (options : SourceOptions) (component : Component) :
    nonIdentifiers ((component.collectionStmts options.relatedSchema).flatMap Stmt.memberNames) =
      nonIdentifiers ((component.relatedQueries options).map (·.foreignKey)) := by
  rw [relatedQueries, Component.collectionStmts]
  cases options.relatedSchema with
  | none => exact JsxGen.collectionStmts_memberNames (fun _ => []) [] component.queries
  | some schema =>
    exact JsxGen.collectionStmts_memberNames schema.relatedQueries [] component.queries

theorem memberNamesAll_literals {α : Type} (value : α → Expr)
    (literal : ∀ x, (value x).memberNames = []) (entries : List (String × α)) :
    Member.memberNamesAll (entries.map fun (key, x) => Member.ofString key (value x)) = [] := by
  rw [Member.memberNamesAll_eq, List.flatMap_map, List.flatMap_eq_nil_iff]
  intro entry _
  change (Member.ofString entry.1 (value entry.2)).memberNames = []
  rw [Member.ofString, Member.memberNames, literal]

theorem Variant.toExpr_memberNames (variant : Variant) : variant.toExpr.memberNames = [] := by
  have values := memberNamesAll_literals Expr.str (fun _ => by rw [Expr.memberNames])
    variant.values.entries
  have overrides := memberNamesAll_literals (fun value : Literal => Expr.ofJson value.json)
    (fun value => Expr.memberNames_ofJson value.json) variant.overrides.entries
  simp only [toExpr, Expr.inline, Expr.memberNames, Member.memberNamesAll, Member.memberNames,
    Member.ofString] at values overrides ⊢
  rw [values, overrides, List.append_nil, List.append_nil]

theorem Component.variantStmts_memberNames (component : Component) (props overrides : String) :
    (component.variantStmts props overrides).flatMap Stmt.memberNames = [] := by
  have variants : (variantsExpr component.variants).memberNames = [] := by
    simp [variantsExpr, Expr.memberNames, Expr.memberNamesAll_eq, Variant.toExpr_memberNames]
  unfold variantStmts
  split
  · rfl
  · cases component.breakpoints with
    | nil =>
      simp [breakpointStmts, variantProps, Stmt.constName, Stmt.memberNames, Expr.memberNames,
        Expr.memberNamesAll, Expr.inline, Member.memberNamesAll, Member.memberNames, variants]
    | cons smallest sizes =>
      simp [breakpointStmts, breakpointStmt, variantProps, Stmt.constName, Stmt.memberNames,
        Expr.memberNames, Expr.memberNamesAll, Expr.inline, Member.memberNamesAll,
        Member.memberNamesAll_eq, Member.memberNames, Member.ofString, variants]

namespace BodyParts

variable {component : Component}

theorem opening_memberNames (component : Component) :
    nonIdentifiers ((opening component).flatMap Stmt.memberNames) = [] := by
  have props : component.propsStmt.memberNames = [] := by
    rw [Component.propsStmt, Stmt.memberNames, Expr.memberNames]
  have auth : nonIdentifiers authStmt.memberNames = [] := by decide
  rw [opening, List.flatMap_append, List.flatMap_cons, component.variantStmts_memberNames, props,
    List.append_nil, List.nil_append]
  split
  · rw [List.flatMap_singleton]
    exact auth
  · rfl

theorem states_memberNames (parts : BodyParts component) :
    nonIdentifiers (parts.states.flatMap Stmt.memberNames) = nonIdentifiers
      ((component.usage.states.filterMap component.root.initialProperty?).flatMap
        Property.fields) := by
  rw [List.filterMap_eq_flatMap_toList, List.flatMap_assoc, nonIdentifiers_flatMap,
    nonIdentifiers_flatMap]
  refine flatMap_related parts.states_made fun ref stmt made => ?_
  rcases stateStmt_ok made with ⟨initial, given, rfl⟩
  have value : nonIdentifiers initial.memberNames =
      nonIdentifiers ((component.root.initialProperty? ref).toList.flatMap Property.fields) := by
    rw [initialState_eq] at given
    cases first : component.root.initialProperty? ref with
    | none =>
      rw [first] at given
      cases given
      rfl
    | some property =>
      rw [first] at given
      rw [property.toExpr_memberNames given, Option.toList_some, List.flatMap_singleton]
  simp [StateHook.toStmt, Stmt.memberNames, Expr.memberNames, Expr.memberNamesAll, value]

theorem actions_memberNames (parts : BodyParts component) :
    nonIdentifiers (parts.actions.flatMap Stmt.memberNames) = nonIdentifiers
      ((component.root.actions.flatMap (·.event.written)).flatMap Property.fields) := by
  rw [List.flatMap_assoc, nonIdentifiers_flatMap, nonIdentifiers_flatMap]
  exact flatMap_related parts.actions_made fun use stmt made => ActionEvent.toStmt_memberNames made

end BodyParts

/-- The names of the fields that the source reads: those of properties, and the keys by which items
are related. -/
def Component.fieldNames (options : SourceOptions) (component : Component) : List String :=
  component.written.flatMap Property.fields ++
    (component.relatedQueries options).map (·.foreignKey)

/-- Whatever is no identifier stands behind a dot exactly if a field is called so. -/
theorem BodyParts.mem_memberNames_iff {component : Component} (options : SourceOptions)
    (parts : BodyParts component) {name : String} (bad : ¬isIdentifier name) :
    name ∈ (parts.stmts options).flatMap Stmt.memberNames ↔
      name ∈ component.fieldNames options := by
  have markup : nonIdentifiers ([Stmt.ret (.jsx parts.markup)].flatMap Stmt.memberNames) =
      nonIdentifiers ((component.root.preorder.flatMap
        (Element.written component.usage)).flatMap Property.fields) := by
    rw [List.flatMap_singleton, Stmt.memberNames, Expr.memberNames,
      Component.rootJsx_memberNames parts.markup_made]
  -- The names that are identifiers come from the methods that are called, and fall away.
  have only (names : List String) : name ∈ names ↔ name ∈ nonIdentifiers names := by
    rw [mem_nonIdentifiers, and_iff_left bad]
  rw [only, only (component.fieldNames options)]
  simp only [stmts, Component.fieldNames, Component.written, List.flatMap_append,
    nonIdentifiers_append, opening_memberNames, states_memberNames, actions_memberNames,
    component.collectionStmts_memberNames, markup, List.nil_append, List.mem_append, or_assoc]
  exact or_congr_right (or_congr_right or_comm)

/-- Each dot has an identifier behind it exactly if every field is called by one. Any other name of a
field is written there as it is. -/
theorem members_identifiers_iff {options : SourceOptions} {component : Component}
    {file : SourceFile} (rendered : component.render options = .ok file) :
    ∃ parts : BodyParts component, parts.file options = file ∧
      ((∀ name ∈ (parts.stmts options).flatMap Stmt.memberNames, isIdentifier name) ↔
        ∀ name ∈ component.fieldNames options, isIdentifier name) ∧
      ∀ name ∈ component.fieldNames options, ¬isIdentifier name →
        name ∈ (parts.stmts options).flatMap Stmt.memberNames := by
  rcases Component.render_eq_ok.1 rendered with ⟨_, parts, written⟩
  refine ⟨parts, written, ?_, ?_⟩
  · constructor
    · intro all name named
      by_contra bad
      exact bad (all name ((parts.mem_memberNames_iff options bad).2 named))
    · intro all name accessed
      by_contra bad
      exact bad (all name ((parts.mem_memberNames_iff options bad).1 accessed))
  · intro name named bad
    exact (parts.mem_memberNames_iff options bad).2 named

/-- Authors with their books, which refer to them by the field `key`. -/
def authorSchema (key : String) : DataSchema :=
  let books : DataField := ⟨.model "Book", false, false, true, some (.hasMany "Book" [key])⟩
  ⟨none, ⟨[("Author", ⟨⟨[("books", books)], by simp⟩⟩), ("Book", .empty)], by simp⟩, ∅, ∅⟩

/-- A list of the authors, each shown by the first name. -/
def authorList : Component :=
  let name : Property := .collectionBound ⟨"items", some "firstName"⟩ none
  let row : Element := ⟨"Row", "Text", ⟨[("label", name)], by decide⟩, [], ∅⟩
  ⟨none, ⟨"Authors", "Collection", ∅, [row], ∅⟩, ∅, some ⟨[("items", ⟨"Author", none⟩)], by decide⟩,
    [], none⟩

theorem members_identifiers_authors :
    let options : SourceOptions := ⟨2, true, some (authorSchema "authorID")⟩
    ∃ file, authorList.render options = .ok file ∧
      ∃ parts : BodyParts authorList, parts.file options = file ∧
        authorList.fieldNames options = ["firstName", "authorID"] ∧
        ∀ name ∈ (parts.stmts options).flatMap Stmt.memberNames, isIdentifier name := by
  intro options
  have valid : authorList.validate = .ok () := by decide
  have fields : authorList.fieldNames options = ["firstName", "authorID"] := by decide
  rcases Component.exists_render options valid ⟨_, rfl⟩ with ⟨_, rendered⟩
  rcases members_identifiers_iff rendered with ⟨parts, written, members, _⟩
  refine ⟨_, rendered, parts, written, fields, members.2 ?_⟩
  rw [fields]
  decide

/-- Behind a dot, a key with a hyphen is read as a subtraction. -/
theorem key_behind_dot :
    let options : SourceOptions := ⟨2, true, some (authorSchema "author-id")⟩
    ∃ file, authorList.render options = .ok file ∧
      ∃ parts : BodyParts authorList, parts.file options = file ∧
        "author-id" ∈ (parts.stmts options).flatMap Stmt.memberNames ∧
        isIdentifier "author-id" = false ∧
        (Expr.ident "model").field "author-id" =
          .index (.ident "model") (.str "author-id") false := by
  intro options
  have valid : authorList.validate = .ok () := by decide
  have key : "author-id" ∈ authorList.fieldNames options := by decide
  have bad : isIdentifier "author-id" = false := by decide
  rcases Component.exists_render options valid ⟨_, rfl⟩ with ⟨parts, rendered⟩
  have accessed := (parts.mem_memberNames_iff options (by simp [bad])).2 key
  exact ⟨_, rendered, parts, rfl, accessed, bad, rfl⟩

end JsxGen
