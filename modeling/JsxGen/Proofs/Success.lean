import JsxGen.Proofs.ItemScope

/-!
When a source file is written. `Component.succeeds_render` says it of each component exactly;
`render_outcome` that nothing hides a fault of an event, and that known operators are enough.
-/

namespace JsxGen

open Js

theorem succeeds_members {α : Type} {value : String → α → Except InputError Expr}
    {entries : List (String × α)} :
    Succeeds (members value entries) ↔ ∀ entry ∈ entries, Succeeds (value entry.1 entry.2) := by
  rw [members, succeeds_mapM]
  exact forall₂_congr fun _ _ => succeeds_bind_pure

/-- The expression of a parameter is never that of a state to be set. -/
theorem Parameter.succeeds_toExpr {types : ElementTypes} {key : String} (parameter : Parameter) :
    Succeeds (parameter.toExpr types key) ↔ (∀ mutation, parameter ≠ .mutation mutation) ∧
      ∀ property ∈ parameter.properties, property.OperatorsKnown := by
  cases parameter with
  | literal text => exact iff_of_true (succeeds_ok _) (by simp [properties])
  | mutation mutation => exact iff_of_false (not_succeeds_error _) (by simp)
  | property property => simp [toExpr, properties, property.succeeds_toExpr]
  | fields fields =>
    have form : ∀ mutation, Parameter.fields fields ≠ .mutation mutation := by simp
    rw [toExpr, succeeds_bind_pure, succeeds_members, and_iff_right form, properties,
      OrderedMap.values, List.forall_mem_map]
    exact forall₂_congr fun entry _ => entry.2.succeeds_toExpr

namespace ActionEvent

variable {types : ElementTypes} {event : ActionEvent}

/-- Some parameter of the event sets a state. -/
def SetsState (event : ActionEvent) : Prop :=
  ∃ entry ∈ event.parameterEntries, ∃ mutation, entry.2 = .mutation mutation

/-- The action is one of the library's, and the event sets a state if and only if that is its
action. -/
structure Sound (event : ActionEvent) : Prop where
  known : event.action ∈ Action.names
  state : event.action = "Amplify.Mutation" ↔ event.SetsState

theorem setsState_iff : event.SetsState ↔ ∃ mutation, event.mutation? = some mutation := by
  rw [← Option.isSome_iff_exists, mutation?, List.findSome?_isSome_iff]
  refine exists_congr fun ⟨key, parameter⟩ => and_congr_right' ?_
  cases parameter <;> simp

theorem succeeds_arguments {action : Action} :
    Succeeds (event.arguments types action) ↔ ¬event.SetsState ∧
      ∀ entry ∈ event.parameterEntries, ∀ property ∈ entry.2.properties,
        property.OperatorsKnown := by
  have each : Succeeds (event.arguments types action) ↔
      ∀ entry ∈ event.parameterEntries, Succeeds (entry.2.toExpr types entry.1) := by
    unfold arguments parameterEntries
    cases event.parameters with
    | none => exact iff_of_true (succeeds_ok _) (by simp)
    | some parameters => exact succeeds_bind_pure.trans succeeds_members
  simp only [each, Parameter.succeeds_toExpr, forall₂_and, SetsState, not_exists, not_and]

theorem succeeds_mutationStmt {handler : String} :
    Succeeds (event.mutationStmt types handler) ↔ event.SetsState ∧
      ∀ property ∈ event.mutation?.toList.map Mutation.value, property.OperatorsKnown := by
  rw [setsState_iff, mutationStmt]
  cases event.mutation? with
  | none => exact iff_of_false (not_succeeds_error _) (by simp)
  | some mutation =>
    dsimp only
    rw [succeeds_bind_pure, mutation.value.succeeds_toExpr]
    simp

/-- Only what the statement computes is looked at, besides the action. -/
theorem succeeds_toStmt {handler : String} :
    Succeeds (event.toStmt types handler) ↔
      event.Sound ∧ ∀ property ∈ event.written, property.OperatorsKnown := by
  by_cases known : event.action ∈ Action.names
  · obtain ⟨action, named⟩ := Action.mem_names.1 known
    have found : Action.ofName event.action = .ok action := Action.ofName_eq_ok.2 named.symm
    rw [toStmt, found, written]
    change Succeeds (if action = .mutation then _ else _) ↔ _
    split
    · rename_i mutates
      subst mutates
      have sound : event.Sound ↔ event.SetsState :=
        ⟨fun sound => sound.state.1 named, fun sets => ⟨known, iff_of_true named sets⟩⟩
      rw [succeeds_mutationStmt, sound, if_pos named]
    · rename_i other
      have apart : event.action ≠ Action.mutation.name := by
        rw [named]
        exact Action.name_injective.ne other
      have sound : event.Sound ↔ ¬event.SetsState :=
        ⟨fun sound sets => apart (sound.state.2 sets),
          fun unset => ⟨known, iff_of_false apart unset⟩⟩
      rw [succeeds_bind_pure, succeeds_arguments, sound, if_neg apart, List.forall_mem_flatMap]
  · refine iff_of_false ?_ fun sound => known sound.1.known
    rintro ⟨stmt, made⟩
    obtain ⟨action, found, _⟩ := bind_eq_ok.1 made
    exact known (Action.mem_names.2 ⟨action, (Action.ofName_eq_ok.1 found).symm⟩)

theorem exists_gives_of_mem_written {property : Property} (member : property ∈ event.written) :
    ∃ entry ∈ event.parameterEntries, entry.2.Gives property := by
  unfold written at member
  split at member
  · obtain ⟨mutation, first, rfl⟩ := List.mem_map.1 member
    obtain ⟨⟨key, parameter⟩, listed, same⟩ :=
      List.exists_of_findSome?_eq_some (Option.mem_toList.1 first)
    cases parameter with
    | mutation other =>
      cases same
      exact ⟨_, listed, .mutation⟩
    | _ => cases same
  · obtain ⟨entry, listed, given⟩ := List.mem_flatMap.1 member
    exact ⟨entry, listed, Parameter.mem_properties.1 given⟩

end ActionEvent

namespace Element

variable {usage : Usage} {element : Element}

theorem succeeds_attributes :
    Succeeds (element.attributes usage) ↔
      ∀ property ∈ element.written usage, property.OperatorsKnown := by
  have each (entry : String × Property) : Succeeds (element.propertyAttribute usage entry) ↔
      (⟨element.name, attributeName element.type entry.1⟩ ∉ usage.states →
        entry.2.OperatorsKnown) := by
    dsimp only [propertyAttribute]
    split
    · rename_i used
      exact iff_of_true (succeeds_ok _) fun unused => absurd used unused
    · rename_i unused
      rw [succeeds_bind_pure, entry.2.succeeds_toExpr, imp_iff_right unused]
  rw [attributes, succeeds_bind_pure, succeeds_mapM]
  simp only [each, written, List.forall_mem_map, List.mem_filter, decide_eq_true_eq, and_imp]

mutual

theorem succeeds_toJsx : (element : Element) →
    (Succeeds (element.toJsx usage) ↔
      ∀ inner ∈ element.preorder, ∀ property ∈ inner.written usage, property.OperatorsKnown)
  | ⟨name, type, properties, children, events⟩ => by
    rw [toJsx, succeeds_bind_of fun _ => succeeds_bind_pure, succeeds_attributes,
      succeeds_toJsxAll children, preorder, List.forall_mem_cons]

theorem succeeds_toJsxAll : (children : List Element) →
    (Succeeds (toJsxAll usage children) ↔
      ∀ inner ∈ preorderAll children, ∀ property ∈ inner.written usage, property.OperatorsKnown)
  | [] => by
    rw [toJsxAll]
    exact iff_of_true (succeeds_ok _) (by simp [preorderAll])
  | child :: children => by
    rw [toJsxAll, succeeds_bind_of fun _ => succeeds_bind_pure, succeeds_toJsx child,
      succeeds_toJsxAll children, preorderAll, List.forall_mem_append]

end

/-- An element of the tree has the event for an action. -/
def Fires (root : Element) (event : ActionEvent) : Prop :=
  ∃ element ∈ root.preorder, .action event ∈ element.events.values

theorem exists_action_iff {root : Element} {event : ActionEvent} :
    (∃ use ∈ root.actions, use.event = event) ↔ root.Fires event := by
  simp only [actions, Fires, List.mem_flatMap, List.mem_filterMap, OrderedMap.values, List.mem_map]
  constructor
  · rintro ⟨use, ⟨element, inside, ⟨name, source⟩, listed, made⟩, same⟩
    cases source with
    | action event' =>
      cases made
      cases same
      exact ⟨element, inside, _, listed, rfl⟩
    | binding prop => cases made
  · rintro ⟨element, inside, ⟨name, source⟩, listed, same⟩
    cases same
    exact ⟨_, ⟨element, inside, _, listed, rfl⟩, rfl⟩

end Element

namespace Component

variable {usage : Usage} {component : Component}

theorem succeeds_itemChildren :
    Succeeds (component.itemChildren usage) ↔ component.root.children.length ≤ 1 ∧
      ∀ inner ∈ Element.preorderAll component.root.children,
        ∀ property ∈ inner.written usage, property.OperatorsKnown := by
  unfold itemChildren
  split
  · rename_i empty
    exact iff_of_true (succeeds_ok _) (by simp [empty, Element.preorderAll])
  · rename_i template only
    rw [succeeds_bind_pure, template.succeeds_toJsx, only]
    simp [Element.preorderAll]
  · rename_i several single
    refine iff_of_false (not_succeeds_error _) fun few => ?_
    cases among : component.root.children with
    | nil => exact several among
    | cons first rest =>
      cases rest with
      | nil => exact single first among
      | cons second rest => simp [among] at few

theorem succeeds_rootJsx :
    Succeeds (component.rootJsx usage) ↔
      (component.collections ≠ none → component.root.children.length ≤ 1) ∧
        ∀ inner ∈ component.root.preorder,
          ∀ property ∈ inner.written usage, property.OperatorsKnown := by
  unfold rootJsx
  dsimp only
  rw [Element.preorder_eq, List.forall_mem_cons]
  split
  · rename_i collections known
    rw [succeeds_bind_of fun _ => succeeds_bind_pure, Element.succeeds_attributes,
      succeeds_itemChildren, known]
    simp [and_left_comm]
  · rename_i single
    rw [succeeds_bind_of fun _ => succeeds_bind_pure, succeeds_map, Element.succeeds_attributes,
      Element.succeeds_toJsxAll, single]
    simp

theorem succeeds_stateStmt {types : ElementTypes} {root : Element} {ref : StateRef} :
    Succeeds (stateStmt types root ref) ↔
      ∀ property ∈ root.initialProperty? ref, property.OperatorsKnown := by
  rw [stateStmt, succeeds_bind_pure, initialState_eq]
  cases root.initialProperty? ref with
  | none => exact iff_of_true (succeeds_ok _) (by simp)
  | some property => simp [property.succeeds_toExpr]

/-- The properties whose expressions stand in the source: first values of states, what actions are
given, and attributes. -/
def written (component : Component) : List Property :=
  component.usage.states.filterMap component.root.initialProperty? ++
    component.root.actions.flatMap (·.event.written) ++
    component.root.preorder.flatMap (Element.written component.usage)

theorem forall_mem_written {p : Property → Prop} : (∀ property ∈ component.written, p property) ↔
    (∀ ref ∈ component.usage.states, ∀ property ∈ component.root.initialProperty? ref, p property) ∧
      (∀ use ∈ component.root.actions, ∀ property ∈ use.event.written, p property) ∧
      ∀ inner ∈ component.root.preorder,
        ∀ property ∈ inner.written component.usage, p property := by
  have states : (∀ property ∈ component.usage.states.filterMap component.root.initialProperty?,
      p property) ↔
        ∀ ref ∈ component.usage.states, ∀ property ∈ component.root.initialProperty? ref,
          p property := by
    simp only [List.mem_filterMap, forall_exists_index, and_imp, Option.mem_def]
    exact forall_comm.trans (forall_congr' fun ref => forall_comm)
  rw [written, List.forall_mem_append, List.forall_mem_append, List.forall_mem_flatMap,
    List.forall_mem_flatMap, states, and_assoc]

theorem succeeds_body {options : SourceOptions} :
    Succeeds (component.body options) ↔
      (∀ use ∈ component.root.actions, use.event.Sound) ∧
      (component.collections ≠ none → component.root.children.length ≤ 1) ∧
      ∀ property ∈ component.written, property.OperatorsKnown := by
  rw [body, succeeds_bind_of fun _ => succeeds_bind_of fun _ => succeeds_bind_pure, succeeds_mapM,
    succeeds_mapM, succeeds_rootJsx, forall_mem_written]
  simp only [succeeds_stateStmt, ActionEvent.succeeds_toStmt, forall₂_and]
  constructor
  · rintro ⟨states, ⟨sound, actions⟩, single, attributes⟩
    exact ⟨sound, single, states, actions, attributes⟩
  · rintro ⟨sound, single, states, actions, attributes⟩
    exact ⟨states, ⟨sound, actions⟩, single, attributes⟩

/-- Whether a file is written does not depend on the options, nor on properties that are not written
because a state takes their place. -/
theorem succeeds_render {options : SourceOptions} :
    Succeeds (component.render options) ↔ component.validate = .ok () ∧
      (∀ event, component.root.Fires event → event.Sound) ∧
      (component.collections ≠ none → component.root.children.length ≤ 1) ∧
      ∀ property ∈ component.written, property.OperatorsKnown := by
  have valid : Succeeds component.validate ↔ component.validate = .ok () :=
    ⟨fun ⟨_, done⟩ => done, fun done => ⟨_, done⟩⟩
  have sound : (∀ event, component.root.Fires event → event.Sound) ↔
      ∀ use ∈ component.root.actions, use.event.Sound := by
    simp only [← Element.exists_action_iff, forall_exists_index, and_imp, forall_apply_eq_imp_iff₂]
  rw [render, succeeds_bind_of fun _ => succeeds_bind_pure, valid, succeeds_body, sound]

theorem holds_of_mem_written {outer inner : Property} (member : outer ∈ component.written)
    (within : inner.Within outer) : component.root.Holds inner := by
  simp only [written, List.mem_append, List.mem_filterMap, List.mem_flatMap] at member
  rcases member with (⟨ref, _, given⟩ | ⟨use, listed, given⟩) | ⟨element, inside, given⟩
  · obtain ⟨element, found, declared, _⟩ := Element.initialProperty?_eq_some.1 given
    have value := List.mem_map_of_mem (f := Prod.snd) (OrderedMap.mem_of_get? declared)
    exact .property (List.mem_of_find?_eq_some found) value within
  · obtain ⟨element, inside, occurs⟩ := Element.exists_action_iff.1 ⟨use, listed, rfl⟩
    obtain ⟨entry, present, gives⟩ := ActionEvent.exists_gives_of_mem_written given
    exact .action inside occurs present gives within
  · obtain ⟨key, declared, _⟩ := Element.mem_written.1 given
    exact .property inside (List.mem_map_of_mem (f := Prod.snd) declared) within

end Component

/-- A file is written for a component without a fault, and none if there is a fault in the component
itself, in an event anywhere in the tree, or in the number of templates. -/
theorem render_outcome (options : SourceOptions) (component : Component) :
    (component.validate = .ok () →
      (∀ event, component.root.Fires event → event.Sound) →
      (∀ test yes no, component.root.Holds (.conditional test yes no) →
        test.operator ∈ Comparison.operators) →
      (component.collections ≠ none → component.root.children.length ≤ 1) →
        ∃ file, component.render options = .ok file) ∧
    (component.validate ≠ .ok () ∨
      (∃ event, component.root.Fires event ∧ ¬event.Sound) ∨
      (component.collections ≠ none ∧ 2 ≤ component.root.children.length) →
        ∃ fault, component.render options = .error fault) := by
  constructor
  · intro valid sound known few
    exact Component.succeeds_render.2 ⟨valid, sound, few, fun property member test yes no within =>
      known test yes no (Component.holds_of_mem_written member within)⟩
  · intro faults
    refine not_succeeds_iff.1 fun success => ?_
    obtain ⟨valid, sound, few, _⟩ := Component.succeeds_render.1 success
    rcases faults with invalid | ⟨event, fires, unsound⟩ | ⟨collection, several⟩
    · exact invalid valid
    · exact unsound (sound event fires)
    · have single := few collection
      omega

/-- A heading that a click changes, and a collection whose template has a button with an action that
the library does not have. -/
theorem render_outcome_heading :
    let click : ActionEvent := ⟨"Amplify.Mutation",
      some ⟨[("state", .mutation ⟨⟨"Title", "label"⟩, .fixed ⟨.str "Bye", trivial⟩ none⟩)],
        by decide⟩⟩
    let count : Comparison := ⟨⟨"count", none⟩, "gt", ⟨.num (.int 0), trivial⟩, none⟩
    let title : Component := ⟨none, ⟨"Title", "Heading",
      ⟨[("label", .conditional count (.fixed ⟨.str "Some", trivial⟩ none) (.auth "name"))],
        by decide⟩, [], ⟨[("click", .action click)], by decide⟩⟩, ∅, none, [], none⟩
    let leave : ActionEvent := ⟨"Amplify.Teleport", none⟩
    let button : Element := ⟨"Leave", "Button", ∅, [], ⟨[("click", .action leave)], by decide⟩⟩
    let row : Element := ⟨"Row", "View", ∅, [button], ∅⟩
    let books : Component := ⟨none, ⟨"Books", "Collection", ∅, [row], ∅⟩,
      ∅, some ⟨[("items", ⟨"Book", none⟩)], by decide⟩, [], none⟩
    (title.validate = .ok () ∧ title.root.Fires click ∧ click.Sound ∧
      (∃ yes no, title.root.Holds (.conditional count yes no)) ∧
        ∃ file, title.render {} = .ok file) ∧
      books.root.Fires leave ∧ ¬leave.Sound ∧ ∃ fault, books.render {} = .error fault := by
  intro click count title leave button row books
  have single {element : Element} (inside : element ∈ title.root.preorder) :
      element = title.root := by
    simpa [title, Element.preorder, Element.preorderAll] using inside
  have firing {event : ActionEvent} (occurs : .action event ∈ title.root.events.values) :
      event = click := by
    simpa [title, OrderedMap.values] using occurs
  have valid : title.validate = .ok () := by decide
  have fires : title.root.Fires click :=
    ⟨title.root, title.root.mem_preorder_self, List.mem_cons_self⟩
  have sound : click.Sound := ⟨by decide, iff_of_true rfl ⟨_, List.mem_cons_self, _, rfl⟩⟩
  have leaves : books.root.Fires leave := by
    refine ⟨button, ?_, List.mem_cons_self⟩
    simp [books, row, Element.preorder, Element.preorderAll, Element.mem_preorder_self]
  have unsound : ¬leave.Sound := fun sound => absurd sound.known (by decide)
  have tested : ∃ yes no, title.root.Holds (.conditional count yes no) :=
    ⟨_, _, .property title.root.mem_preorder_self List.mem_cons_self .self⟩
  refine ⟨⟨valid, fires, sound, tested, (render_outcome {} title).1 valid ?_ ?_ (by simp [title])⟩,
    leaves, unsound, (render_outcome {} books).2 (.inr (.inl ⟨leave, leaves, unsound⟩))⟩
  · rintro event ⟨element, inside, occurs⟩
    rw [single inside] at occurs
    rw [firing occurs]
    exact sound
  · intro test yes no holds
    cases holds with
    | property inside occurs within =>
      rw [single inside] at occurs
      cases List.mem_singleton.1 occurs
      cases within with
      | self => decide
      | yes within => cases within
      | no within => cases within
    | action inside occurs given gives within =>
      rw [single inside] at occurs
      rw [firing occurs] at given
      cases List.mem_singleton.1 given
      cases gives
      cases within

end JsxGen
