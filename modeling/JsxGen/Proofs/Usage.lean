import JsxGen.Proofs.OrderedMap
import JsxGen.Usage

/-!
State that a component mentions, and the property that shows it. `mem_usage_states` says that the
states listed for a component are those that occur in it, each under the property that shows it;
`usage_auth_iff` that the attributes of the user are used if some property reads one.
-/

namespace JsxGen

/-- The property reads the state, at whatever depth. -/
inductive Property.Reads (ref : StateRef) : Property → Prop where
  | state : Reads ref (.state ref)
  | part {parts : List Property} {part : Property} :
    part ∈ parts → Reads ref part → Reads ref (.concat parts)
  | yes {test : Comparison} {yes no : Property} :
    Reads ref yes → Reads ref (.conditional test yes no)
  | no {test : Comparison} {yes no : Property} :
    Reads ref no → Reads ref (.conditional test yes no)

/-- The inner property is the outer one or a part of it, at whatever depth. -/
inductive Property.Within (inner : Property) : Property → Prop where
  | self : Within inner inner
  | part {parts : List Property} {part : Property} :
    part ∈ parts → Within inner part → Within inner (.concat parts)
  | yes {test : Comparison} {yes no : Property} :
    Within inner yes → Within inner (.conditional test yes no)
  | no {test : Comparison} {yes no : Property} :
    Within inner no → Within inner (.conditional test yes no)

/-- The parameter sets the state or reads it. -/
inductive Parameter.Mentions (ref : StateRef) : Parameter → Prop where
  | target {value : Property} : Mentions ref (.mutation ⟨ref, value⟩)
  | value {mutation : Mutation} : mutation.value.Reads ref → Mentions ref (.mutation mutation)
  | property {property : Property} : property.Reads ref → Mentions ref (.property property)
  | field {fields : OrderedMap Property} {property : Property} :
    property ∈ fields.values → property.Reads ref → Mentions ref (.fields fields)

/-- Some element of the tree reads the state in a property, or mentions it in an action. -/
inductive Element.Mentions (ref : StateRef) (root : Element) : Prop where
  | property {element : Element} {property : Property} :
    element ∈ root.preorder → property ∈ element.properties.values → property.Reads ref →
      Mentions ref root
  | action {element : Element} {event : ActionEvent} {entry : String × Parameter} :
    element ∈ root.preorder → .action event ∈ element.events.values →
      entry ∈ event.parameterEntries → entry.2.Mentions ref → Mentions ref root

/-- The property is the parameter, or what the parameter gives to a state or a field. -/
inductive Parameter.Gives (property : Property) : Parameter → Prop where
  | mutation {target : StateRef} : Gives property (.mutation ⟨target, property⟩)
  | property : Gives property (.property property)
  | field {fields : OrderedMap Property} :
    property ∈ fields.values → Gives property (.fields fields)

/-- The property occurs in the tree, in a property of an element or in an action. -/
inductive Element.Holds (root : Element) (inner : Property) : Prop where
  | property {element : Element} {outer : Property} :
    element ∈ root.preorder → outer ∈ element.properties.values → inner.Within outer →
      Holds root inner
  | action {element : Element} {event : ActionEvent} {entry : String × Parameter}
    {outer : Property} :
    element ∈ root.preorder → .action event ∈ element.events.values →
      entry ∈ event.parameterEntries → entry.2.Gives outer → inner.Within outer →
      Holds root inner

/-- The state as it is shown: that of the content of an element stands under `children`. -/
def Element.shown (root : Element) (ref : StateRef) : StateRef :=
  { ref with
    property :=
      if ∃ element ∈ root.preorder,
          element.name = ref.component ∧ childProp? element.type = some ref.property
      then "children" else ref.property }

def Element.SameTypes (root : Element) : Prop :=
  ∀ first ∈ root.preorder, ∀ second ∈ root.preorder,
    first.name = second.name → first.type = second.type

theorem Property.allStateRefs_eq (parts : List Property) :
    allStateRefs parts = parts.flatMap stateRefs := by
  induction parts with
  | nil => simp [allStateRefs]
  | cons part parts ih => simp [allStateRefs, ih]

theorem Property.Reads.mem_stateRefs {ref : StateRef} {property : Property}
    (reads : property.Reads ref) : ref ∈ property.stateRefs := by
  induction reads with
  | state => simp [stateRefs]
  | part member _ ih =>
    rw [stateRefs, allStateRefs_eq]
    exact List.mem_flatMap_of_mem member ih
  | yes _ ih =>
    rw [stateRefs]
    exact List.mem_append_left _ ih
  | no _ ih =>
    rw [stateRefs]
    exact List.mem_append_right _ ih

theorem Property.anyUsesAuth_eq (parts : List Property) :
    anyUsesAuth parts = parts.any usesAuth := by
  induction parts with
  | nil => simp [anyUsesAuth]
  | cons part parts ih => simp [anyUsesAuth, ih]

theorem Property.Within.usesAuth {name : String} {property : Property}
    (within : (auth name).Within property) : property.usesAuth = true := by
  induction within with
  | self => rw [Property.usesAuth]
  | part member _ ih =>
    rw [Property.usesAuth, anyUsesAuth_eq, List.any_eq_true]
    exact ⟨_, member, ih⟩
  | yes _ ih => rw [Property.usesAuth, ih, Bool.true_or]
  | no _ ih => rw [Property.usesAuth, ih, Bool.or_true]

mutual

theorem Property.exists_auth : (property : Property) → property.usesAuth = true →
    ∃ name, (auth name).Within property
  | .auth name, _ => ⟨name, .self⟩
  | .concat parts, uses => by
    rw [usesAuth] at uses
    rcases exists_auth_part parts uses with ⟨part, member, name, within⟩
    exact ⟨name, .part member within⟩
  | .conditional test yes no, uses => by
    rw [usesAuth, Bool.or_eq_true] at uses
    rcases uses with uses | uses
    · rcases exists_auth yes uses with ⟨name, within⟩
      exact ⟨name, .yes within⟩
    · rcases exists_auth no uses with ⟨name, within⟩
      exact ⟨name, .no within⟩
  | .bound _ _, uses | .collectionBound _ _, uses | .state _, uses | .fixed _ _, uses => by
    simp [usesAuth] at uses

theorem Property.exists_auth_part : (parts : List Property) → anyUsesAuth parts = true →
    ∃ part ∈ parts, ∃ name, (auth name).Within part
  | [], uses => by
    rw [anyUsesAuth] at uses
    contradiction
  | part :: parts, uses => by
    rw [anyUsesAuth, Bool.or_eq_true] at uses
    rcases uses with uses | uses
    · exact ⟨part, List.mem_cons_self, exists_auth part uses⟩
    · rcases exists_auth_part parts uses with ⟨other, member, reads⟩
      exact ⟨other, List.mem_cons_of_mem _ member, reads⟩

end

theorem Property.usesAuth_iff (property : Property) :
    property.usesAuth = true ↔ ∃ name, (auth name).Within property := by
  constructor
  · exact property.exists_auth
  · intro known
    rcases known with ⟨name, within⟩
    exact within.usesAuth

theorem Parameter.mem_properties {parameter : Parameter} {property : Property} :
    property ∈ parameter.properties ↔ parameter.Gives property := by
  constructor
  · intro member
    cases parameter with
    | literal text => cases member
    | mutation mutation =>
      rcases List.mem_singleton.1 member with rfl
      exact .mutation
    | property property =>
      rcases List.mem_singleton.1 member with rfl
      exact .property
    | fields fields => exact .field member
  · intro gives
    cases gives with
    | mutation => exact List.mem_cons_self
    | property => exact List.mem_cons_self
    | field member => exact member

theorem Parameter.Mentions.mem_stateRefs {ref : StateRef} {parameter : Parameter}
    (mentions : parameter.Mentions ref) : ref ∈ parameter.stateRefs := by
  cases mentions with
  | target => exact List.mem_cons_self
  | value reads =>
    exact List.mem_cons_of_mem _ (List.mem_flatMap_of_mem List.mem_cons_self reads.mem_stateRefs)
  | property reads => exact List.mem_flatMap_of_mem List.mem_cons_self reads.mem_stateRefs
  | field member reads => exact List.mem_flatMap_of_mem member reads.mem_stateRefs

theorem Element.mem_parameters {element : Element} {parameter : Parameter} :
    parameter ∈ element.parameters ↔ ∃ event, .action event ∈ element.events.values ∧
      ∃ entry ∈ event.parameterEntries, entry.2 = parameter := by
  simp only [parameters, List.mem_flatMap, List.mem_filterMap, List.mem_map]
  constructor
  · intro known
    rcases known with ⟨event, ⟨source, occurs, same⟩, given⟩
    cases source with
    | action event' =>
      cases same
      exact ⟨_, occurs, given⟩
    | binding prop => cases same
  · intro known
    rcases known with ⟨event, occurs, given⟩
    exact ⟨event, ⟨_, occurs, rfl⟩, given⟩

theorem Element.Mentions.mem_stateRefs {ref : StateRef} {root : Element}
    (mentions : root.Mentions ref) : ∃ element ∈ root.preorder, ref ∈ element.stateRefs := by
  cases mentions with
  | property within occurs reads =>
    exact ⟨_, within,
      List.mem_append_left _ (List.mem_flatMap_of_mem occurs reads.mem_stateRefs)⟩
  | action within occurs given named =>
    exact ⟨_, within, List.mem_append_right _
      (List.mem_flatMap_of_mem (Element.mem_parameters.2 ⟨_, occurs, _, given, rfl⟩)
        named.mem_stateRefs)⟩

namespace Element

variable {root : Element}

theorem exists_of_types_get? {name type : String} (found : root.types.get? name = some type) :
    ∃ element ∈ root.preorder, element.name = name ∧ element.type = type := by
  have member := Entries.mem_of_mem_merge (OrderedMap.mem_of_get? found)
  rcases List.mem_map.1 member with ⟨element, within, same⟩
  exact ⟨element, within, congrArg Prod.fst same, congrArg Prod.snd same⟩

theorem types_get? (sameTypes : root.SameTypes) {element : Element}
    (within : element ∈ root.preorder) :
    root.types.get? element.name = some element.type := by
  have known : element.name ∈ root.types.keys := by
    rw [types, OrderedMap.mem_keys_ofList, Entries.keys, List.map_map]
    exact List.mem_map_of_mem (f := fun element : Element => element.name) within
  rcases OrderedMap.exists_get? known with ⟨type, found⟩
  rcases exists_of_types_get? found with ⟨other, inside, sameName, sameType⟩
  rw [found, ← sameType, sameTypes other inside element within sameName]

theorem types_childProp?_iff (sameTypes : root.SameTypes) (name property : String) :
    root.types.childProp? name = some property ↔
      ∃ element ∈ root.preorder, element.name = name ∧ childProp? element.type = some property := by
  rw [ElementTypes.childProp?, Option.bind_eq_some_iff]
  constructor
  · intro known
    rcases known with ⟨type, found, shown⟩
    rcases exists_of_types_get? found with ⟨element, within, sameName, rfl⟩
    exact ⟨element, within, sameName, shown⟩
  · intro known
    rcases known with ⟨element, within, rfl, shown⟩
    exact ⟨element.type, types_get? sameTypes within, shown⟩

theorem types_resolve (sameTypes : root.SameTypes) (ref : StateRef) :
    root.types.resolve ref = root.shown ref := by
  simp only [ElementTypes.resolve, types_childProp?_iff sameTypes, shown]
  split <;> rfl

end Element

theorem Element.usesAuth_iff {element : Element} :
    element.usesAuth = true ↔ ∃ name, ((∃ outer ∈ element.properties.values,
      (Property.auth name).Within outer) ∨ ∃ event, .action event ∈ element.events.values ∧
        ∃ entry ∈ event.parameterEntries, ∃ outer, entry.2.Gives outer ∧
          (Property.auth name).Within outer) := by
  simp only [usesAuth, Bool.or_eq_true, List.any_eq_true, Property.usesAuth_iff,
    Parameter.mem_properties, Element.mem_parameters]
  constructor
  · intro known
    rcases known with ⟨outer, occurs, name, within⟩ |
      ⟨_, ⟨event, occurs, entry, given, rfl⟩, outer, gives, name, within⟩
    · exact ⟨name, .inl ⟨outer, occurs, within⟩⟩
    · exact ⟨name, .inr ⟨event, occurs, entry, given, outer, gives, within⟩⟩
  · intro known
    rcases known with ⟨name, ⟨outer, occurs, within⟩ |
      ⟨event, occurs, entry, given, outer, gives, within⟩⟩
    · exact .inl ⟨outer, occurs, name, within⟩
    · exact .inr ⟨_, ⟨event, occurs, entry, given, rfl⟩, outer, gives, name, within⟩

theorem Component.usage_auth_iff {component : Component} :
    component.usage.auth = true ↔ ∃ name, component.root.Holds (.auth name) := by
  change component.root.preorder.any Element.usesAuth = true ↔ _
  rw [List.any_eq_true]
  constructor
  · intro known
    rcases known with ⟨element, inside, uses⟩
    rcases Element.usesAuth_iff.1 uses with ⟨name, ⟨outer, occurs, within⟩ |
      ⟨event, occurs, entry, given, outer, gives, within⟩⟩
    · exact ⟨name, .property inside occurs within⟩
    · exact ⟨name, .action inside occurs given gives within⟩
  · intro known
    rcases known with ⟨name, holds⟩
    cases holds with
    | property inside occurs within =>
      exact ⟨_, inside, Element.usesAuth_iff.2 ⟨name, .inl ⟨_, occurs, within⟩⟩⟩
    | action inside occurs given gives within =>
      exact ⟨_, inside, Element.usesAuth_iff.2
        ⟨name, .inr ⟨_, occurs, _, given, _, gives, within⟩⟩⟩

theorem Component.resolve_mem_usage_states {component : Component} {ref : StateRef}
    (mentions : component.root.Mentions ref) :
    component.usage.types.resolve ref ∈ component.usage.states := by
  rcases mentions.mem_stateRefs with ⟨element, within, read⟩
  exact List.mem_eraseDups.2 (List.mem_map_of_mem (List.mem_flatMap_of_mem within read))

/-- State that occurs in a component is listed, under the property that shows it. -/
theorem Component.mem_usage_states {component : Component} {ref : StateRef}
    (sameTypes : component.root.SameTypes) (mentions : component.root.Mentions ref) :
    component.root.shown ref ∈ component.usage.states := by
  rw [← Element.types_resolve sameTypes ref]
  exact Component.resolve_mem_usage_states mentions

end JsxGen
