import JsxGen.Proofs.Action
import JsxGen.Proofs.SourceFile
import JsxGen.Proofs.Usage

/-!
State is wired up the same way wherever a component mentions it: `state_wiring` says that the hook
that declares it, the handlers that set it and the attributes that show it agree on its variables.
-/

namespace JsxGen

open Js

theorem BodyParts.hook_mem {component : Component} (parts : BodyParts component) {ref : StateRef}
    (used : ref ∈ component.usage.states) :
    ∃ initial, .const (.array [ref.getter, ref.setter])
      (.call (.ident "useStateMutationAction") [initial]) ∈ parts.states := by
  rcases exists_related parts.states_made used with ⟨stmt, present, made⟩
  rcases stateStmt_ok made with ⟨initial, _, rfl⟩
  exact ⟨initial, present⟩

/-- The function of a mutation calls the setter of the first state among the parameters. -/
theorem ActionEvent.toStmt_of_mutation {types : ElementTypes} {handler : String}
    {event : ActionEvent} {stmt : Stmt} {mutation : Mutation}
    (sets : event.action = "Amplify.Mutation") (first : event.mutation? = some mutation)
    (h : event.toStmt types handler = .ok stmt) :
    ∃ value, stmt = .const (.ident handler) (.arrowBlock []
      [.expr (.call (.ident (types.resolve mutation.target).setter) [value])]) := by
  rcases toStmt_eq_ok.1 h with ⟨_, other, value, same, _, rfl⟩ | ⟨action, _, named, other, _, _⟩
  · cases first.symm.trans same
    exact ⟨value, rfl⟩
  · have mutates : action.name = Action.mutation.name := named.symm.trans sets
    exact absurd (Action.name_injective mutates) other

namespace Element

variable {usage : Usage} {element : Element}

theorem propertyAttribute_ok {entry : String × Property} {attribute_ : JsxAttribute}
    (h : element.propertyAttribute usage entry = .ok attribute_) :
    ∃ value, attribute_ = .named (attributeName element.type entry.1) value ∧
      (⟨element.name, attributeName element.type entry.1⟩ ∈ usage.states →
        value = .ident (StateRef.getter ⟨element.name, attributeName element.type entry.1⟩)) ∧
      (⟨element.name, attributeName element.type entry.1⟩ ∉ usage.states →
        entry.2.toExpr usage.types = .ok value) := by
  dsimp only [propertyAttribute] at h
  split at h
  · rename_i used
    cases h
    exact ⟨_, rfl, fun _ => rfl, fun unused => absurd used unused⟩
  · rename_i unused
    obtain ⟨value, given, h⟩ := bind_eq_ok.1 h
    cases h
    exact ⟨value, rfl, fun used => absurd used unused, fun _ => given⟩

theorem attributes_ok {attributes : List JsxAttribute}
    (h : element.attributes usage = .ok attributes) :
    ∃ properties, List.Forall₂ (fun entry attribute_ =>
        element.propertyAttribute usage entry = .ok attribute_)
        element.properties.entries properties ∧
      attributes = properties ++ element.stateAttributes usage ++ element.eventAttributes := by
  obtain ⟨properties, made, h⟩ := bind_eq_ok.1 h
  cases h
  exact ⟨properties, mapM_eq_ok.1 made, rfl⟩

theorem mem_stateAttributes {attribute_ : JsxAttribute} :
    attribute_ ∈ element.stateAttributes usage ↔
      ∃ ref ∈ usage.states, ref.component = element.name ∧
        ref.property ∉ element.properties.keys.map (attributeName element.type) ∧
        attribute_ = .named ref.property (.ident ref.getter) := by
  simp only [stateAttributes, List.mem_map, List.mem_filter, Bool.and_eq_true, decide_eq_true_eq]
  constructor
  · intro made
    rcases made with ⟨ref, ⟨used, own, hidden⟩, rfl⟩
    exact ⟨ref, used, own, hidden, rfl⟩
  · intro made
    rcases made with ⟨ref, used, own, hidden, rfl⟩
    exact ⟨ref, ⟨used, own, hidden⟩, rfl⟩

theorem named_mem_of_state {properties : List JsxAttribute} {ref : StateRef}
    (each : List.Forall₂ (fun entry attribute_ =>
      element.propertyAttribute usage entry = .ok attribute_) element.properties.entries properties)
    (used : ref ∈ usage.states) (own : ref.component = element.name) :
    .named ref.property (.ident ref.getter) ∈ properties ++ element.stateAttributes usage := by
  by_cases declared : ref.property ∈ element.properties.keys.map (attributeName element.type)
  · rcases List.mem_map.1 declared with ⟨key, known, shown⟩
    rcases List.mem_map.1 known with ⟨entry, member, rfl⟩
    rcases exists_related each member with ⟨attribute_, among, evaluated⟩
    rcases propertyAttribute_ok evaluated with ⟨value, rfl, state, _⟩
    rw [shown, ← own] at state
    rw [shown, state used] at among
    exact List.mem_append_left _ among
  · exact List.mem_append_right _ (mem_stateAttributes.2 ⟨ref, used, own, declared, rfl⟩)

/-- What an element shows of a state of its own, apart from its handlers: its variable, and nothing
else under that name. -/
def Shows (usage : Usage) (element : Element) (ref : StateRef) (jsx : JsxElement) : Prop :=
  ∃ properties, List.Forall₂ (fun entry attribute_ =>
      element.propertyAttribute usage entry = .ok attribute_)
      element.properties.entries properties ∧
    properties ++ element.stateAttributes usage ⊆ jsx.attributes ∧
    .named ref.property (.ident ref.getter) ∈ properties ++ element.stateAttributes usage ∧
    ∀ value, .named ref.property value ∈ properties ++ element.stateAttributes usage →
      value = .ident ref.getter

theorem CarriedBy.shows {jsx : JsxElement} (carried : element.CarriedBy usage jsx) {ref : StateRef}
    (used : ref ∈ usage.states) (own : element.name = ref.component) :
    element.Shows usage ref jsx := by
  rcases carried with ⟨attributes, made, present⟩
  rcases attributes_ok made with ⟨properties, each, rfl⟩
  have within : properties ++ element.stateAttributes usage ⊆ jsx.attributes :=
    fun _ member => present.subset (List.mem_append_left _ member)
  refine ⟨properties, each, within, named_mem_of_state each used own.symm, ?_⟩
  intro value member
  rcases List.mem_append.1 member with among | among
  · rcases exists_source each among with ⟨entry, _, evaluated⟩
    rcases propertyAttribute_ok evaluated with ⟨_, same, state, _⟩
    rcases JsxAttribute.named.inj same with ⟨sameName, sameValue⟩
    rw [← sameName, own] at state
    exact sameValue.trans (state used)
  · rcases mem_stateAttributes.1 among with ⟨other, _, sameElement, _, same⟩
    rcases JsxAttribute.named.inj same with ⟨sameName, sameValue⟩
    have sameState : other = ref := by
      cases other
      cases ref
      rw [StateRef.mk.injEq]
      exact ⟨sameElement.trans own, sameName.symm⟩
    rw [sameValue, sameState]

end Element

/-- For every state that a component mentions, whose elements of one name have one type. -/
theorem state_wiring {options : SourceOptions} {component : Component} {file : SourceFile}
    (sameTypes : component.root.SameTypes) (rendered : component.render options = .ok file)
    {ref : StateRef} (mentions : component.root.Mentions ref) :
    let shown := component.root.shown ref
    ∃ parts : BodyParts component, parts.file options = file ∧
      (∃ initial, .const (.array [shown.getter, shown.setter])
        (.call (.ident "useStateMutationAction") [initial]) ∈ parts.stmts options) ∧
      List.Forall₂ (fun use stmt => use.event.action = "Amplify.Mutation" →
          ∀ mutation, use.event.mutation? = some mutation → mutation.target = ref →
            ∃ value, stmt = .const (.ident use.handler)
              (.arrowBlock [] [.expr (.call (.ident shown.setter) [value])]))
        component.root.actions parts.actions ∧
      List.Forall₂ (fun element jsx => element.name = ref.component →
          element.Shows component.usage shown jsx)
        component.root.preorder parts.markup.preorder := by
  intro shown
  rcases Component.render_eq_ok.1 rendered with ⟨_, parts, written⟩
  have used : shown ∈ component.usage.states := Component.mem_usage_states sameTypes mentions
  have resolved : component.usage.types.resolve ref = shown := Element.types_resolve sameTypes ref
  refine ⟨parts, written, ?_, ?_, ?_⟩
  · rcases parts.hook_mem used with ⟨initial, present⟩
    refine ⟨initial, ?_⟩
    simp only [BodyParts.stmts, List.mem_append]
    exact .inl (.inl (.inl (.inr present)))
  · refine parts.actions_made.imp fun use stmt made sets mutation first target => ?_
    have form := ActionEvent.toStmt_of_mutation sets first made
    rwa [target, resolved] at form
  · refine (Component.rootJsx_carries parts.markup_made).imp fun element jsx carried own => ?_
    exact carried.shows used own

/-- A heading whose content a click on a button sets. -/
theorem state_wiring_heading :
    let title : StateRef := ⟨"Title", "label"⟩
    let click : ActionEvent := ⟨"Amplify.Mutation",
      some ⟨[("state", .mutation ⟨title, .fixed ⟨.str "Bye", trivial⟩ none⟩)], by decide⟩⟩
    let root : Element := ⟨"Panel", "View", ∅,
      [⟨"Title", "Heading", ⟨[("label", .fixed ⟨.str "Hello", trivial⟩ none)], by decide⟩, [], ∅⟩,
       ⟨"Toggle", "Button", ∅, [], ⟨[("click", .action click)], by decide⟩⟩], ∅⟩
    let component : Component := ⟨none, root, ∅, none, [], none⟩
    ∃ file, root.SameTypes ∧ component.render {} = .ok file ∧ root.Mentions title ∧
      ∃ parts : BodyParts component, parts.file {} = file ∧
        ∃ initial, .const (.array ["titleChildren", "setTitleChildren"])
          (.call (.ident "useStateMutationAction") [initial]) ∈ parts.stmts {} := by
  intro title click root component
  have sameTypes : root.SameTypes := by
    simp only [Element.SameTypes, root, Element.preorder, Element.preorderAll]
    decide
  have mentions : root.Mentions title := by
    have within : root.children[1] ∈ root.preorder := by
      simp [root, Element.preorder, Element.preorderAll]
    have occurs : Event.action click ∈ root.children[1].events.values := by
      simp [root, OrderedMap.values]
    have given : click.parameterEntries[0] ∈ click.parameterEntries := List.getElem_mem _
    exact .action within occurs given .target
  have valid : component.validate = .ok () := by decide
  rcases Component.exists_render {} valid ⟨_, rfl⟩ with ⟨_, rendered⟩
  rcases state_wiring sameTypes rendered mentions with ⟨parts, written, hook, _⟩
  have getter : (root.shown title).getter = "titleChildren" := by decide
  have setter : (root.shown title).setter = "setTitleChildren" := by decide
  rw [getter, setter] at hook
  exact ⟨_, sameTypes, rendered, mentions, parts, written, hook⟩

end JsxGen
