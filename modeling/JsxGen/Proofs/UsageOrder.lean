import JsxGen.Proofs.ElementNames
import JsxGen.Proofs.Places

/-!
What a component uses, and the order in which it is listed. `lists_usage` says that the states, the
types and the models listed for a component are those that occur in it, in the order of first use.
-/

namespace JsxGen

/-- The property reads the state at the place: parts are numbered, and so are the values of a
conditional. -/
inductive Property.ReadsAt : Property → List Nat → StateRef → Prop where
  | state {ref : StateRef} : ReadsAt (.state ref) [] ref
  | part {parts : List Property} {part : Property} {i : Nat} {place : List Nat} {ref : StateRef} :
    parts[i]? = some part → ReadsAt part place ref → ReadsAt (.concat parts) (i :: place) ref
  | yes {test : Comparison} {yes no : Property} {place : List Nat} {ref : StateRef} :
    ReadsAt yes place ref → ReadsAt (.conditional test yes no) (0 :: place) ref
  | no {test : Comparison} {yes no : Property} {place : List Nat} {ref : StateRef} :
    ReadsAt no place ref → ReadsAt (.conditional test yes no) (1 :: place) ref

/-- The parameter sets or reads the state at the place; a mutation sets its target first. -/
inductive Parameter.MentionsAt : Parameter → List Nat → StateRef → Prop where
  | target {target : StateRef} {value : Property} :
    MentionsAt (.mutation ⟨target, value⟩) [0] target
  | value {mutation : Mutation} {place : List Nat} {ref : StateRef} :
    mutation.value.ReadsAt place ref → MentionsAt (.mutation mutation) (1 :: place) ref
  | property {property : Property} {place : List Nat} {ref : StateRef} :
    property.ReadsAt place ref → MentionsAt (.property property) place ref
  | field {fields : OrderedMap Property} {property : Property} {i : Nat} {place : List Nat}
    {ref : StateRef} :
    fields.values[i]? = some property → property.ReadsAt place ref →
      MentionsAt (.fields fields) (i :: place) ref

inductive Event.MentionsAt : Event → List Nat → StateRef → Prop where
  | parameter {event : ActionEvent} {entry : String × Parameter} {i : Nat} {place : List Nat}
    {ref : StateRef} :
    event.parameterEntries[i]? = some entry → entry.2.MentionsAt place ref →
      MentionsAt (.action event) (i :: place) ref

/-- The tree mentions the state at the place: of an element, the properties come first, then the
events, then the children. -/
inductive Element.MentionsAt : Element → List Nat → StateRef → Prop where
  | property {element : Element} {property : Property} {i : Nat} {place : List Nat}
    {ref : StateRef} :
    element.properties.values[i]? = some property → property.ReadsAt place ref →
      MentionsAt element (0 :: i :: place) ref
  | event {element : Element} {event : Event} {i : Nat} {place : List Nat} {ref : StateRef} :
    element.events.values[i]? = some event → event.MentionsAt place ref →
      MentionsAt element (1 :: i :: place) ref
  | child {element child : Element} {i : Nat} {place : List Nat} {ref : StateRef} :
    element.children[i]? = some child → MentionsAt child place ref →
      MentionsAt element (2 :: i :: place) ref

/-- The component queries the model at the place: props come ahead of collections. -/
inductive Component.QueriesAt (component : Component) : List Nat → String → Prop where
  | prop {query : Query} {i : Nat} :
    component.bindings.values[i]? = some (.data query) → QueriesAt component [0, i] query.model
  | collection {entry : String × Query} {i : Nat} :
    component.queries[i]? = some entry → QueriesAt component [1, i] entry.2.model

/-- Under which property a state is kept: under `children` if it is the content of its element, whose
type is that of the last element of its name, and under its own otherwise. -/
inductive Element.KeepsAs (root : Element) (ref : StateRef) : StateRef → Prop where
  | content {element : Element} :
    root.LastOfName element → element.name = ref.component →
      childProp? element.type = some ref.property → KeepsAs root ref ⟨ref.component, "children"⟩
  | other :
    (∀ element, root.LastOfName element → element.name = ref.component →
      childProp? element.type ≠ some ref.property) → KeepsAs root ref ref

/-- Nothing is left out of the listing or out of place, and nothing else is in it. -/
structure Component.Lists (component : Component) (usage : Usage) : Prop where
  states : ∃ refs, ListedInOrder component.root.MentionsAt refs ∧
    FirstUses usage.states (refs.map usage.types.resolve)
  resolves : ∀ ref, component.root.KeepsAs ref (usage.types.resolve ref)
  resolved : ∀ ref ∈ usage.states, usage.types.resolve ref = ref
  auth : usage.auth = true ↔ ∃ name, component.root.Holds (.auth name)
  names : FirstUses usage.types.keys (component.root.preorder.map Element.name)
  types : ∀ element, component.root.LastOfName element →
    usage.types.get? element.name = some element.type
  models : ∃ names, ListedInOrder component.QueriesAt names ∧ FirstUses usage.models names

namespace Property

mutual

theorem inOrder_stateRefs : (property : Property) →
    ListedInOrder property.ReadsAt property.stateRefs
  | .state ref => by
    rw [stateRefs]
    refine ListedInOrder.singleton [] fun place other => ⟨?_, ?_⟩
    · intro reads
      cases reads
      exact ⟨rfl, rfl⟩
    · rintro ⟨rfl, rfl⟩
      exact .state
  | .concat parts => by
    rw [stateRefs, allStateRefs_eq]
    refine (ListedInOrder.flatMap 0 (inOrder_parts parts)).congr fun place ref => ⟨?_, ?_⟩
    · rintro ⟨i, part, place, listed, rfl, reads⟩
      exact .part listed reads
    · intro reads
      cases reads with
      | part listed reads => exact ⟨_, _, _, listed, rfl, reads⟩
  | .conditional test yes no => by
    rw [stateRefs]
    have both := (ListedFrom.cons (inOrder_stateRefs yes) ((inOrder_stateRefs no).last 1)).inOrder
    refine both.congr fun place ref => ⟨?_, ?_⟩
    · rintro (⟨place, rfl, reads⟩ | ⟨place, rfl, reads⟩)
      · exact .yes reads
      · exact .no reads
    · intro reads
      cases reads with
      | yes reads => exact .inl ⟨_, rfl, reads⟩
      | no reads => exact .inr ⟨_, rfl, reads⟩
  | .bound _ _ | .collectionBound _ _ | .auth _ | .fixed _ _ => by
    simp only [stateRefs]
    exact ListedInOrder.nil fun _ _ reads => nomatch reads

theorem inOrder_parts : (parts : List Property) →
    ∀ part ∈ parts, ListedInOrder part.ReadsAt part.stateRefs
  | [] => fun _ member => nomatch member
  | part :: parts => List.forall_mem_cons.2 ⟨inOrder_stateRefs part, inOrder_parts parts⟩

end

end Property

theorem Parameter.inOrder_stateRefs (parameter : Parameter) :
    ListedInOrder parameter.MentionsAt parameter.stateRefs := by
  cases parameter with
  | literal text => exact ListedInOrder.nil fun _ _ mentions => nomatch mentions
  | mutation mutation =>
    have target : ListedInOrder (fun place ref => place = [] ∧ ref = mutation.target)
        [mutation.target] := ListedInOrder.singleton [] fun _ _ => Iff.rfl
    have both := (ListedFrom.cons target (mutation.value.inOrder_stateRefs.last 1)).inOrder
    change ListedInOrder _ ([mutation.target] ++ [mutation.value].flatMap Property.stateRefs)
    rw [List.flatMap_singleton]
    refine both.congr fun place ref => ⟨?_, ?_⟩
    · rintro (⟨_, rfl, rfl, rfl⟩ | ⟨place, rfl, reads⟩)
      · exact .target
      · exact .value reads
    · intro mentions
      cases mentions with
      | target => exact .inl ⟨_, rfl, rfl, rfl⟩
      | value reads => exact .inr ⟨_, rfl, reads⟩
  | property property =>
    change ListedInOrder _ ([property].flatMap Property.stateRefs)
    rw [List.flatMap_singleton]
    refine property.inOrder_stateRefs.congr fun place ref => ⟨.property, ?_⟩
    intro mentions
    cases mentions with
    | property reads => exact reads
  | fields fields =>
    change ListedInOrder _ (fields.values.flatMap Property.stateRefs)
    have each := ListedInOrder.flatMap 0 fun property (_ : property ∈ fields.values) =>
      property.inOrder_stateRefs
    refine each.congr fun place ref => ⟨?_, ?_⟩
    · rintro ⟨i, property, place, listed, rfl, reads⟩
      exact .field listed reads
    · intro mentions
      cases mentions with
      | field listed reads => exact ⟨_, _, _, listed, rfl, reads⟩

/-- The states that the parameters of an event mention. -/
def Event.stateRefs (event : Event) : List StateRef :=
  event.action?.toList.flatMap fun event =>
    event.parameterEntries.flatMap fun entry => entry.2.stateRefs

theorem Event.inOrder_stateRefs (event : Event) :
    ListedInOrder event.MentionsAt event.stateRefs := by
  cases event with
  | binding prop => exact ListedInOrder.nil fun _ _ mentions => nomatch mentions
  | action event =>
    rw [stateRefs, action?, Option.toList_some, List.flatMap_singleton]
    have each := ListedInOrder.flatMap 0 fun entry (_ : entry ∈ event.parameterEntries) =>
      entry.2.inOrder_stateRefs
    refine each.congr fun place ref => ⟨?_, ?_⟩
    · rintro ⟨i, entry, place, listed, rfl, mentions⟩
      exact .parameter listed mentions
    · intro mentions
      cases mentions with
      | parameter listed mentions => exact ⟨_, _, _, listed, rfl, mentions⟩

namespace Element

theorem stateRefs_eq (element : Element) :
    element.stateRefs = element.properties.values.flatMap Property.stateRefs ++
      element.events.values.flatMap Event.stateRefs := by
  rw [stateRefs, parameters, List.filterMap_eq_flatMap_toList, List.flatMap_assoc,
    List.flatMap_assoc]
  simp only [List.flatMap_map]
  rfl

theorem preorder_stateRefs (element : Element) :
    element.preorder.flatMap stateRefs = element.properties.values.flatMap Property.stateRefs ++
      (element.events.values.flatMap Event.stateRefs ++
        element.children.flatMap fun child => child.preorder.flatMap stateRefs) := by
  rw [preorder_eq, preorderAll_eq, List.flatMap_cons, List.flatMap_assoc, stateRefs_eq,
    List.append_assoc]

mutual

theorem inOrder_stateRefs : (element : Element) →
    ListedInOrder element.MentionsAt (element.preorder.flatMap stateRefs)
  | ⟨name, type, properties, children, events⟩ => by
    have properties := ListedInOrder.flatMap 0 fun property (_ : property ∈ properties.values) =>
      property.inOrder_stateRefs
    have events := ListedInOrder.flatMap 0 fun event (_ : event ∈ events.values) =>
      event.inOrder_stateRefs
    have below := ListedInOrder.flatMap 0 (inOrder_children children)
    rw [preorder_stateRefs]
    have whole := (ListedFrom.cons properties (.cons events (below.last 2))).inOrder
    refine whole.congr fun place ref => ⟨?_, ?_⟩
    · rintro (⟨_, rfl, i, _, place, listed, rfl, reads⟩ |
        ⟨_, rfl, i, _, place, listed, rfl, mentions⟩ | ⟨_, rfl, i, _, place, listed, rfl, mentions⟩)
      · exact .property listed reads
      · exact .event listed mentions
      · exact .child listed mentions
    · intro mentions
      cases mentions with
      | property listed reads => exact .inl ⟨_, rfl, _, _, _, listed, rfl, reads⟩
      | event listed mentions => exact .inr (.inl ⟨_, rfl, _, _, _, listed, rfl, mentions⟩)
      | child listed mentions => exact .inr (.inr ⟨_, rfl, _, _, _, listed, rfl, mentions⟩)

theorem inOrder_children : (children : List Element) →
    ∀ child ∈ children, ListedInOrder child.MentionsAt (child.preorder.flatMap stateRefs)
  | [] => fun _ member => nomatch member
  | child :: children => List.forall_mem_cons.2 ⟨inOrder_stateRefs child, inOrder_children children⟩

end

end Element

/-- No element shows its content under a key `children`, so that a resolved state stays as it is. -/
theorem ElementTypes.resolve_resolve (types : ElementTypes) (ref : StateRef) :
    types.resolve (types.resolve ref) = types.resolve ref := by
  have noChildren : types.childProp? ref.component ≠ some "children" := by
    rw [childProp?]
    intro shown
    rcases Option.bind_eq_some_iff.1 shown with ⟨type, _, shown⟩
    exact childProp?_ne_children type shown
  by_cases content : types.childProp? ref.component = some ref.property
  · have first : types.resolve ref = ⟨ref.component, "children"⟩ := if_pos content
    rw [first]
    exact if_neg noChildren
  · have first : types.resolve ref = ref := if_neg content
    rw [first, first]

theorem Element.keepsAs_resolve (root : Element) (ref : StateRef) :
    root.KeepsAs ref (root.types.resolve ref) := by
  by_cases content : root.types.childProp? ref.component = some ref.property
  · obtain ⟨type, found, shown⟩ := Option.bind_eq_some_iff.1 content
    obtain ⟨element, inside, sameName, _⟩ := exists_of_types_get? found
    obtain ⟨last, isLast, lastName⟩ := exists_lastOfName inside
    have recorded := isLast.types_get?
    rw [lastName, sameName, found] at recorded
    rw [ElementTypes.resolve, if_pos content]
    refine .content isLast (lastName.trans sameName) ?_
    rw [← Option.some.inj recorded, shown]
  · rw [ElementTypes.resolve, if_neg content]
    refine .other fun element isLast sameName shown => content ?_
    rw [ElementTypes.childProp?, ← sameName, isLast.types_get?]
    exact shown

namespace Component

variable (component : Component)

theorem inOrder_models : ListedInOrder component.QueriesAt
    (component.bindings.values.filterMap Binding.model? ++ component.queries.map (·.2.model)) := by
  have props := ListedInOrder.filterMap component.bindings.values Binding.model?
  have collections := ListedInOrder.filterMap component.queries fun entry => some entry.2.model
  rw [List.filterMap_eq_map'] at collections
  have whole := (ListedFrom.cons props (collections.last 1)).inOrder
  refine whole.congr fun place model => ⟨?_, ?_⟩
  · rintro (⟨_, rfl, i, binding, listed, given, rfl⟩ | ⟨_, rfl, i, entry, listed, given, rfl⟩)
    · cases binding with
      | data query =>
        cases given
        exact .prop listed
      | scalar type fallback => cases given
      | event => cases given
      | slot => cases given
    · cases given
      exact .collection listed
  · intro queried
    cases queried with
    | prop listed => exact .inl ⟨_, rfl, _, _, listed, rfl, rfl⟩
    | collection listed => exact .inr ⟨_, rfl, _, _, listed, rfl, rfl⟩

/-- What is listed for a component is what occurs in it, in the order of first use. -/
theorem lists_usage : component.Lists component.usage where
  states := ⟨_, component.root.inOrder_stateRefs, firstUses_eraseDups _⟩
  resolves := component.root.keepsAs_resolve
  resolved := by
    intro ref listed
    rcases List.mem_map.1 (List.mem_eraseDups.1 listed) with ⟨used, _, rfl⟩
    exact component.usage.types.resolve_resolve used
  auth := usage_auth_iff
  names := by
    have keys :
        component.usage.types.keys = (component.root.preorder.map Element.name).eraseDups := by
      change component.root.types.keys = _
      rw [Element.types, OrderedMap.keys_ofList, Entries.keys, List.map_map]
      rfl
    rw [keys]
    exact firstUses_eraseDups _
  types := fun _ last => last.types_get?
  models := ⟨_, component.inOrder_models, firstUses_eraseDups _⟩

/-- A text shows the content of a heading, told by both of its names, and a state that a box keeps
under its own. -/
theorem lists_usage_heading :
    let title (property : String) : Property := .state ⟨"Title", property⟩
    let echo : Element := ⟨"Echo", "Text", ⟨[("label", .concat [title "label", title "children"]),
      ("color", .state ⟨"Frame", "label"⟩)], by decide⟩, [], ∅⟩
    let component : Component := ⟨none, ⟨"Frame", "View", ∅, [.ofName "Title" "Heading", echo], ∅⟩,
      ∅, none, [], none⟩
    component.Lists component.usage ∧
      component.usage.states = [⟨"Title", "children"⟩, ⟨"Frame", "label"⟩] := by
  intro title echo component
  exact ⟨lists_usage component, by decide⟩

end Component

end JsxGen
