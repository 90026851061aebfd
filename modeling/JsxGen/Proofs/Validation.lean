import JsxGen.Proofs.FirstError
import JsxGen.Proofs.SourceFile

/-!
Which components are accepted, and which fault of any other is reported. The faults of a component
stand at places; `Component.validate_first_fault` says that the one reported comes first, and that
the names from the root down locate it.
-/

namespace JsxGen

/-- A fault and the names that lead to it. -/
structure LocatedFault where
  path : List String
  fault : SchemaFault

namespace LocatedFault

def error (located : LocatedFault) : InputError :=
  .schema (".".intercalate located.path) located.fault

/-- The fault as it is found inside of what `outer` leads to. -/
def within (outer : List String) (located : LocatedFault) : LocatedFault :=
  { located with path := outer ++ located.path }

def errorIn (outer : List String) (located : LocatedFault) : InputError :=
  (located.within outer).error

end LocatedFault

/-- The tree has the fault at the place: of an element, the type comes first, then the events, then
the children. -/
inductive Element.FaultAt : Element → List Nat → LocatedFault → Prop where
  | type {element : Element} :
    element.type = "" → FaultAt element [0] ⟨[element.name], .elementWithoutType⟩
  | event {element : Element} {key : String} {event : ActionEvent} {i : Nat} :
    element.events.entries[i]? = some (key, .action event) → event.action = "" →
      FaultAt element [1, i] ⟨[element.name, "events", key], .eventWithoutAction⟩
  | child {element child : Element} {i : Nat} {place : List Nat} {located : LocatedFault} :
    element.children[i]? = some child → FaultAt child place located →
      FaultAt element (2 :: i :: place) (located.within [element.name])

/-- The component has the fault at the place: its name comes first, then its props, its collections
and its elements. -/
inductive Component.FaultAt (component : Component) : List Nat → LocatedFault → Prop where
  | empty : Text.trim component.name = "" → FaultAt component [0] ⟨["component"], .emptyName⟩
  | unnameable :
    Text.sanitize component.name = "" → FaultAt component [1] ⟨[component.name], .unnameable⟩
  | binding {prop : String} {query : Query} {i : Nat} :
    component.bindings.entries[i]? = some (prop, .data query) → query.model = "" →
      FaultAt component [2, i]
        ⟨[component.name, "bindingProperties", prop], .bindingWithoutModel⟩
  | collection {key : String} {query : Query} {i : Nat} :
    component.queries[i]? = some (key, query) → query.model = "" →
      FaultAt component [3, i]
        ⟨[component.name, "collectionProperties", key], .collectionWithoutModel⟩
  | element {place : List Nat} {located : LocatedFault} :
    component.root.FaultAt place located → FaultAt component (4 :: place) located

/-- Nothing is missing in the element itself. -/
def Element.Complete (element : Element) : Prop :=
  element.type ≠ "" ∧ ∀ event, .action event ∈ element.events.values → event.action ≠ ""

structure Component.Complete (component : Component) : Prop where
  named : Text.trim component.name ≠ ""
  nameable : Text.sanitize component.name ≠ ""
  props : ∀ query, .data query ∈ component.bindings.values → query.model ≠ ""
  collections : ∀ entry ∈ component.queries, entry.2.model ≠ ""
  elements : ∀ element ∈ component.root.preorder, element.Complete

/-! The faults in the order of their places, by which the checks are told. -/

def faultIf (faulty : Bool) (path : List String) (fault : SchemaFault) : Option LocatedFault :=
  if faulty then some ⟨path, fault⟩ else none

theorem faultIf_eq_some {faulty : Prop} [Decidable faulty] {path : List String}
    {fault : SchemaFault} {located : LocatedFault} :
    faultIf faulty path fault = some located ↔ faulty ∧ located = ⟨path, fault⟩ := by
  by_cases known : faulty
  · simp [faultIf, known, eq_comm]
  · simp [faultIf, known]

theorem faultIf_eq_none {faulty : Prop} [Decidable faulty] {path : List String}
    {fault : SchemaFault} : faultIf faulty path fault = none ↔ ¬faulty := by
  by_cases known : faulty
  · simp [faultIf, known]
  · simp [faultIf, known]

/-- The name of the action that an event takes. -/
def Event.actionName? (event : Event) : Option String :=
  event.action?.map ActionEvent.action

section Entries

variable {α : Type} (text? : α → Option String) (owner group : String) (fault : SchemaFault)

/-- The fault of an entry in a group of its owner, if the text that is read from it is empty. -/
def entryFault? (entry : String × α) : Option LocatedFault :=
  (text? entry.2).bind fun text => faultIf (text = "") [owner, group, entry.1] fault

def entryFaults (entries : List (String × α)) : List LocatedFault :=
  entries.filterMap (entryFault? text? owner group fault)

end Entries

mutual

def Element.faults : Element → List LocatedFault
  | ⟨name, type, _, children, events⟩ =>
    (faultIf (type = "") [name] .elementWithoutType).toList ++
      (entryFaults Event.actionName? name "events" .eventWithoutAction events.entries ++
        (Element.faultsAll children).map (.within [name]))

def Element.faultsAll : List Element → List LocatedFault
  | [] => []
  | child :: children => child.faults ++ Element.faultsAll children

end

theorem Element.faultsAll_eq (elements : List Element) :
    faultsAll elements = elements.flatMap faults := by
  induction elements with
  | nil => rw [faultsAll, List.flatMap_nil]
  | cons element elements ih => rw [faultsAll, List.flatMap_cons, ih]

def Component.faults (component : Component) : List LocatedFault :=
  let name := component.name
  (faultIf (Text.trim name = "") ["component"] .emptyName).toList ++
    ((faultIf (Text.sanitize name = "") [name] .unnameable).toList ++
      (entryFaults Binding.model? name "bindingProperties" .bindingWithoutModel
          component.bindings.entries ++
        (entryFaults (fun query => some query.model) name "collectionProperties"
            .collectionWithoutModel component.queries ++
          component.root.faults)))

theorem Event.actionName?_eq_some {event : Event} {text : String} :
    event.actionName? = some text ↔ ∃ action, event = .action action ∧ action.action = text := by
  cases event with
  | action event => simp [actionName?, action?]
  | binding prop => simp [actionName?, action?]

theorem Binding.model?_eq_some {binding : Binding} {text : String} :
    binding.model? = some text ↔ ∃ query, binding = .data query ∧ query.model = text := by
  cases binding with
  | data query => simp [model?]
  | scalar type fallback => simp [model?]
  | event => simp [model?]
  | slot => simp [model?]

/-! Faults are listed in the order of their places. -/

theorem inOrder_faultIf (faulty : Prop) [Decidable faulty] (path : List String)
    (fault : SchemaFault) :
    ListedInOrder (fun place located => place = [] ∧ faulty ∧ located = ⟨path, fault⟩)
      (faultIf faulty path fault).toList := by
  by_cases known : faulty
  · have found : faultIf faulty path fault = some ⟨path, fault⟩ :=
      faultIf_eq_some.2 ⟨known, rfl⟩
    rw [found]
    exact ListedInOrder.singleton [] fun place located => by simp [known]
  · rw [faultIf_eq_none.2 known]
    exact ListedInOrder.nil fun _ _ there => known there.2.1

section Entries

variable {α : Type} {text? : α → Option String} {owner group : String} {fault : SchemaFault}

theorem entryFault?_eq_some {entry : String × α} {located : LocatedFault} :
    entryFault? text? owner group fault entry = some located ↔
      text? entry.2 = some "" ∧ located = ⟨[owner, group, entry.1], fault⟩ := by
  rw [entryFault?, Option.bind_eq_some_iff]
  constructor
  · rintro ⟨text, read, faulty⟩
    obtain ⟨rfl, rfl⟩ := faultIf_eq_some.1 faulty
    exact ⟨read, rfl⟩
  · rintro ⟨read, rfl⟩
    exact ⟨"", read, faultIf_eq_some.2 ⟨rfl, rfl⟩⟩

theorem inOrder_entryFaults (entries : List (String × α)) :
    ListedInOrder (fun place located => ∃ i key a, entries[i]? = some (key, a) ∧ place = [i] ∧
        text? a = some "" ∧ located = ⟨[owner, group, key], fault⟩)
      (entryFaults text? owner group fault entries) := by
  refine (ListedInOrder.filterMap entries _).congr fun place located => ?_
  simp only [entryFault?_eq_some, Prod.exists]
  constructor
  · rintro ⟨i, key, a, listed, ⟨read, rfl⟩, rfl⟩
    exact ⟨i, key, a, listed, rfl, read, rfl⟩
  · rintro ⟨i, key, a, listed, rfl, read, rfl⟩
    exact ⟨i, key, a, listed, ⟨read, rfl⟩, rfl⟩

theorem entryFaults_eq_nil_iff {entries : List (String × α)} :
    entryFaults text? owner group fault entries = [] ↔
      ∀ entry ∈ entries, text? entry.2 ≠ some "" := by
  rw [entryFaults, List.filterMap_eq_nil_iff]
  refine forall₂_congr fun entry _ => ?_
  rw [Option.eq_none_iff_forall_ne_some]
  constructor
  · intro faultless read
    exact faultless _ (entryFault?_eq_some.2 ⟨read, rfl⟩)
  · intro filled located faulty
    exact filled (entryFault?_eq_some.1 faulty).1

theorem forall_text?_ne_iff {β : Type} {make : β → α} {text : β → String} {m : OrderedMap α}
    (read : ∀ {a}, text? a = some "" ↔ ∃ b, a = make b ∧ text b = "") :
    (∀ entry ∈ m.entries, text? entry.2 ≠ some "") ↔ ∀ b, make b ∈ m.values → text b ≠ "" := by
  constructor
  · intro filled b member missing
    obtain ⟨entry, listed, made⟩ := List.mem_map.1 member
    exact filled entry listed (read.2 ⟨b, made, missing⟩)
  · intro filled entry listed none
    obtain ⟨b, made, missing⟩ := read.1 none
    exact filled b (made ▸ List.mem_map_of_mem listed) missing

end Entries

mutual

theorem Element.inOrder_faults : (element : Element) →
    ListedInOrder element.FaultAt element.faults
  | ⟨name, type, properties, children, events⟩ => by
    have own := inOrder_faultIf (type = "") [name] .elementWithoutType
    have fired : ListedInOrder _
        (entryFaults Event.actionName? name "events" .eventWithoutAction _) :=
      inOrder_entryFaults events.entries
    have below := (ListedInOrder.flatMap 0 (Element.inOrder_childFaults children)).map
      (LocatedFault.within [name])
    have whole := (ListedFrom.cons own (.cons fired (below.last 2))).inOrder
    rw [faults, faultsAll_eq]
    refine whole.congr fun place located => ⟨?_, ?_⟩
    · rintro (⟨_, rfl, rfl, missing, rfl⟩ | ⟨_, rfl, i, key, _, listed, rfl, read, rfl⟩ |
        ⟨_, rfl, located, ⟨i, child, place, listed, rfl, there⟩, rfl⟩)
      · exact .type missing
      · obtain ⟨event, rfl, missing⟩ := Event.actionName?_eq_some.1 read
        exact .event listed missing
      · exact .child listed there
    · intro there
      cases there with
      | type missing => exact .inl ⟨_, rfl, rfl, missing, rfl⟩
      | event listed missing =>
        have read := Event.actionName?_eq_some.2 ⟨_, rfl, missing⟩
        exact .inr (.inl ⟨_, rfl, _, _, _, listed, rfl, read, rfl⟩)
      | child listed there =>
        exact .inr (.inr ⟨_, rfl, _, ⟨_, _, _, listed, rfl, there⟩, rfl⟩)

theorem Element.inOrder_childFaults : (children : List Element) →
    ∀ child ∈ children, ListedInOrder child.FaultAt child.faults
  | [] => fun _ member => nomatch member
  | child :: children =>
    List.forall_mem_cons.2 ⟨Element.inOrder_faults child, Element.inOrder_childFaults children⟩

end

theorem Component.inOrder_faults {component : Component} :
    ListedInOrder component.FaultAt component.faults := by
  have empty := inOrder_faultIf (Text.trim component.name = "") ["component"] .emptyName
  have unnameable :=
    inOrder_faultIf (Text.sanitize component.name = "") [component.name] .unnameable
  have props : ListedInOrder _ (entryFaults Binding.model? component.name "bindingProperties"
      .bindingWithoutModel _) :=
    inOrder_entryFaults component.bindings.entries
  have collections : ListedInOrder _ (entryFaults (fun query : Query => some query.model)
      component.name "collectionProperties" .collectionWithoutModel _) :=
    inOrder_entryFaults component.queries
  have whole := (ListedFrom.cons empty (.cons unnameable (.cons props (.cons collections
    (component.root.inOrder_faults.last 4))))).inOrder
  refine whole.congr fun place located => ⟨?_, ?_⟩
  · rintro (⟨_, rfl, rfl, missing, rfl⟩ | ⟨_, rfl, rfl, missing, rfl⟩ |
      ⟨_, rfl, i, prop, _, listed, rfl, read, rfl⟩ |
      ⟨_, rfl, i, key, query, listed, rfl, read, rfl⟩ | ⟨place, rfl, there⟩)
    · exact .empty missing
    · exact .unnameable missing
    · obtain ⟨query, rfl, missing⟩ := Binding.model?_eq_some.1 read
      exact .binding listed missing
    · exact .collection listed (Option.some.inj read)
    · exact .element there
  · intro there
    cases there with
    | empty missing => exact .inl ⟨_, rfl, rfl, missing, rfl⟩
    | unnameable missing => exact .inr (.inl ⟨_, rfl, rfl, missing, rfl⟩)
    | binding listed missing =>
      have read := Binding.model?_eq_some.2 ⟨_, rfl, missing⟩
      exact .inr (.inr (.inl ⟨_, rfl, _, _, _, listed, rfl, read, rfl⟩))
    | collection listed missing =>
      have read := congrArg some missing
      exact .inr (.inr (.inr (.inl ⟨_, rfl, _, _, _, listed, rfl, read, rfl⟩)))
    | element there => exact .inr (.inr (.inr (.inr ⟨_, rfl, there⟩)))

/-! The checks find the first of the faults. -/

theorem locate_intercalate {path : List String} (nonempty : path ≠ []) (part : String) :
    locate (".".intercalate path) part = ".".intercalate (path ++ [part]) := by
  rw [String.intercalate_append_of_ne_nil nonempty (List.cons_ne_nil part []),
    String.intercalate_singleton]
  rfl

theorem locate_locate (above : List String) (owner group key : String) :
    locate (locate (".".intercalate (above ++ [owner])) group) key =
      ".".intercalate (above ++ [owner, group, key]) := by
  have named : above ++ [owner] ≠ [] :=
    List.append_ne_nil_of_right_ne_nil _ (List.cons_ne_nil _ _)
  rw [locate_intercalate named, locate_intercalate (List.append_ne_nil_of_left_ne_nil named _),
    List.append_assoc, List.append_assoc]
  rfl

theorem reject_eq (outer : List String) (faulty : Bool) (path : List String) (fault : SchemaFault) :
    reject faulty (".".intercalate (outer ++ path)) fault =
      firstError ((faultIf faulty path fault).map (·.errorIn outer)).toList := by
  cases faulty with
  | false => rfl
  | true => rfl

section Entries

variable {α : Type} {text? : α → Option String} {group : String} {fault : SchemaFault}

/-- The check of an entry in a group, which all the groups have in common. -/
def checkEntry (text? : α → Option String) (location group : String) (fault : SchemaFault)
    (entry : String × α) : Checked Unit :=
  match text? entry.2 with
  | some text => reject (text = "") (locate (locate location group) entry.1) fault
  | none => .ok ()

theorem forM_checkEntry (above : List String) (owner : String) (entries : List (String × α)) :
    entries.forM (checkEntry text? (".".intercalate (above ++ [owner])) group fault) =
      firstError ((entryFaults text? owner group fault entries).map (·.errorIn above)) := by
  rw [entryFaults, List.map_filterMap]
  refine forM_eq_firstError entries fun entry => ?_
  rw [checkEntry, entryFault?]
  cases text? entry.2 with
  | none => rfl
  | some text =>
    simp only [Option.bind_some]
    rw [locate_locate, reject_eq]

end Entries

theorem Event.validate_eq (location : String) :
    validate location = checkEntry actionName? location "events" .eventWithoutAction := by
  funext ⟨key, event⟩
  cases event with
  | action event => rfl
  | binding prop => rfl

theorem Component.validateBinding_eq (name : String) : validateBinding name =
    checkEntry Binding.model? name "bindingProperties" .bindingWithoutModel := by
  funext ⟨prop, binding⟩
  cases binding with
  | data query => rfl
  | scalar type fallback => rfl
  | event => rfl
  | slot => rfl

theorem Component.validateQuery_eq (name : String) : validateQuery name =
    checkEntry (fun query => some query.model) name "collectionProperties"
      .collectionWithoutModel :=
  rfl

theorem LocatedFault.errorIn_within (above : List String) (name : String)
    (located : LocatedFault) :
    (located.within [name]).errorIn above = located.errorIn (above ++ [name]) := by
  simp only [errorIn, within, List.append_assoc]

-- The names above vary along the induction: the faults below a child are located below its parent.
mutual

theorem Element.validate_eq (above : List String) : (element : Element) →
    element.validate (".".intercalate (above ++ [element.name])) =
      firstError (element.faults.map (·.errorIn above))
  | ⟨name, type, properties, children, events⟩ => by
    have own := reject_eq above (type = "") [name] .elementWithoutType
    have below := Element.validateAll_eq (above ++ [name]) (by simp) children
    simp only [validate]
    rw [own, below, faults, Event.validate_eq, forM_checkEntry]
    simp only [List.map_append, firstError_append, Option.toList_map, List.map_map,
      Function.comp_def, LocatedFault.errorIn_within]

theorem Element.validateAll_eq (above : List String) (nonempty : above ≠ []) :
    (children : List Element) → Element.validateAll (".".intercalate above) children =
      firstError ((Element.faultsAll children).map (·.errorIn above))
  | [] => by
    rw [validateAll, faultsAll]
    rfl
  | child :: children => by
    have first := Element.validate_eq above child
    have others := Element.validateAll_eq above nonempty children
    rw [validateAll, locate_intercalate nonempty, first, others, faultsAll, List.map_append,
      firstError_append]

end

theorem Component.validate_eq (component : Component) :
    component.validate = firstError (component.faults.map (·.errorIn [])) := by
  -- The name of the component is where a path from the root starts.
  have root : component.name = ".".intercalate ([] ++ [component.name]) :=
    String.intercalate_singleton.symm
  have empty := reject_eq [] (Text.trim component.name = "") ["component"] .emptyName
  have unnameable := reject_eq [] (Text.sanitize component.name = "") [component.name] .unnameable
  have elements : component.root.validate component.name = _ :=
    Element.validate_eq [] component.root
  have groups {α : Type} (text? : α → Option String) (group : String) (fault : SchemaFault)
      (entries : List (String × α)) :
      entries.forM (checkEntry text? component.name group fault) =
        firstError ((entryFaults text? component.name group fault entries).map (·.errorIn [])) := by
    rw [← forM_checkEntry, ← root]
  rw [List.nil_append, String.intercalate_singleton] at empty unnameable
  simp only [validate]
  rw [empty, unnameable, validateBinding_eq, validateQuery_eq, groups, groups, elements]
  simp only [faults, List.map_append, firstError_append, Option.toList_map]

/-! Where nothing is missing, there is no fault. -/

namespace Element

mutual

theorem faults_eq_nil_iff : (element : Element) →
    (element.faults = [] ↔ ∀ inner ∈ element.preorder, inner.Complete)
  | ⟨name, type, properties, children, events⟩ => by
    have below := faultsAll_eq_nil_iff children
    rw [preorder, List.forall_mem_cons, ← below, faults, List.append_eq_nil_iff,
      List.append_eq_nil_iff, List.map_eq_nil_iff, Option.toList_eq_nil_iff, faultIf_eq_none,
      entryFaults_eq_nil_iff, forall_text?_ne_iff Event.actionName?_eq_some, Complete, and_assoc]

theorem faultsAll_eq_nil_iff : (elements : List Element) →
    (faultsAll elements = [] ↔ ∀ inner ∈ preorderAll elements, inner.Complete)
  | [] => by
    rw [faultsAll, preorderAll]
    exact iff_of_true rfl (List.forall_mem_nil _)
  | element :: elements => by
    have first := faults_eq_nil_iff element
    have others := faultsAll_eq_nil_iff elements
    rw [faultsAll, preorderAll, List.append_eq_nil_iff, first, others, List.forall_mem_append]

end

end Element

namespace Component

theorem faults_eq_nil_iff {component : Component} :
    component.faults = [] ↔ component.Complete := by
  simp only [faults, List.append_eq_nil_iff, Option.toList_eq_nil_iff, faultIf_eq_none,
    entryFaults_eq_nil_iff, forall_text?_ne_iff Binding.model?_eq_some, ne_eq, Option.some.injEq,
    Element.faults_eq_nil_iff]
  constructor
  · rintro ⟨named, nameable, props, queried, elements⟩
    exact ⟨named, nameable, props, queried, elements⟩
  · rintro ⟨named, nameable, props, queried, elements⟩
    exact ⟨named, nameable, props, queried, elements⟩

/-- A component is accepted if it is complete. Of any other, the fault that comes first is
reported. -/
theorem validate_first_fault (component : Component) :
    (component.validate = .ok () ↔ component.Complete) ∧
      ∀ error, component.validate = .error error ↔
        ∃ located, ComesFirst component.FaultAt located ∧ located.error = error := by
  rw [component.validate_eq]
  constructor
  · rw [firstError_eq_ok_iff, List.map_eq_nil_iff, faults_eq_nil_iff]
  · intro error
    exact firstError_map_eq_error_iff inOrder_faults

/-- The type of a label comes ahead of the action of a button further down. -/
example :
    let save : Element := ⟨"Save", "Button", ∅, [], ⟨[("click", .action (.ofName ""))], by decide⟩⟩
    let body : Element := ⟨"Body", "View", ∅, [.ofName "Label" "", save], ∅⟩
    let card : Component := ⟨none, ⟨"Card", "Flex", ∅, [body], ∅⟩, ∅, none, [], none⟩
    card.validate = .error (.schema "Card.Body.Label" .elementWithoutType) := by
  decide

end Component

end JsxGen
