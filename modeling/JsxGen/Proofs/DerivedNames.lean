import JsxGen.Proofs.Collection
import JsxGen.Proofs.Names

/-!
The names that a source is given by what the schema calls elements, properties, events and models.
No check is made of them: `derivedNames_identifiers_iff` says for which components they can stand
where they stand.
-/

namespace JsxGen

open Js

open Text (isIdentifier sanitize beginsName)

/-- The model that a text names under the key for it. -/
def Parameter.modelText? (key : String) : Parameter → Option String
  | .literal text => if key = "model" then some text else none
  | .mutation _ | .property _ | .fields _ => none

def ActionEvent.modelTexts (event : ActionEvent) : List String :=
  if event.action = Action.mutation.name then []
  else event.parameterEntries.filterMap fun entry => entry.2.modelText? entry.1

theorem Parameter.classNames_eq (key : String) (parameter : Parameter) :
    parameter.classNames key = ((parameter.modelText? key).map sanitize).toList := by
  cases parameter with
  | literal text =>
    rw [classNames, modelText?]
    split <;> rfl
  | mutation _ => rfl
  | property _ => rfl
  | fields _ => rfl

theorem ActionEvent.classNames_eq (event : ActionEvent) :
    event.classNames = event.modelTexts.map sanitize := by
  unfold classNames modelTexts
  split
  · rfl
  · rw [List.map_filterMap, List.filterMap_eq_flatMap_toList]
    exact List.flatMap_congr fun entry _ => entry.2.classNames_eq entry.1

namespace Component

/-- The models that the statements name: of collections, of items related to theirs, of actions. -/
def namedModels (options : SourceOptions) (component : Component) : List String :=
  component.queries.map (·.2.model) ++
    (newQueries [] (component.relatedQueries options)).map (·.model) ++
      component.root.actions.flatMap (·.event.modelTexts)

/-- Names that are made of those of elements, properties, events and models, and stand where the
source needs identifiers. -/
def derivedNames (options : SourceOptions) (component : Component) : List String :=
  component.stateNames ++ component.handlerNames ++
    (component.namedModels options).map sanitize ++
      (component.relatedQueries options).map (·.items)

/-- Which names of the schema make identifiers of all of these. -/
structure NamesUsable (options : SourceOptions) (component : Component) : Prop where
  states : ∀ ref ∈ component.usage.states, Joins ref.component ref.property
  handlers : ∀ element ∈ component.root.preorder, ∀ entry ∈ element.events.entries,
    entry.2.action?.isSome → Joins element.name entry.1
  models : ∀ model ∈ component.namedModels options, beginsName model

variable {options : SourceOptions} {component : Component}

theorem map_sanitize_namedModels (options : SourceOptions) (component : Component) :
    (component.namedModels options).map sanitize =
      component.queriedModels options ++ component.root.actions.flatMap (·.event.classNames) := by
  rw [namedModels, queriedModels, List.map_append, List.map_append, List.map_map, List.map_map,
    List.map_flatMap]
  refine congrArg _ (List.flatMap_congr fun use _ => ?_)
  exact use.event.classNames_eq.symm

theorem stateNames_iff : (∀ name ∈ component.stateNames, isIdentifier name) ↔
    ∀ ref ∈ component.usage.states, Joins ref.component ref.property := by
  rw [stateNames, List.forall_mem_flatMap]
  refine forall₂_congr fun ref _ => ?_
  rw [List.forall_mem_cons, List.forall_mem_singleton, ← isIdentifier_getter_iff]
  exact and_iff_left_of_imp isIdentifier_setter

theorem mem_handlerNames {name : String} :
    name ∈ component.handlerNames ↔ ∃ element ∈ component.root.preorder,
      ∃ entry ∈ element.events.entries, entry.2.action?.isSome ∧
        handlerName element.name entry.1 = name := by
  simp only [handlerNames, Element.actions, List.map_flatMap, List.map_filterMap, List.mem_flatMap,
    List.mem_filterMap, Option.map_map, Option.map_eq_some_iff, Option.isSome_iff_exists,
    Function.comp_apply, exists_and_right]

theorem handlerNames_iff : (∀ name ∈ component.handlerNames, isIdentifier name) ↔
    ∀ element ∈ component.root.preorder, ∀ entry ∈ element.events.entries,
      entry.2.action?.isSome → Joins element.name entry.1 := by
  simp only [mem_handlerNames, ← isIdentifier_handlerName_iff]
  constructor
  · intro all element inside entry occurs acts
    exact all _ ⟨element, inside, entry, occurs, acts, rfl⟩
  · rintro all name ⟨element, inside, entry, occurs, acts, rfl⟩
    exact all element inside entry occurs acts

/-- The variable of related items is named by the model of some query that is made for them. -/
theorem exists_namedModel {query : RelatedQuery}
    (member : query ∈ component.relatedQueries options) :
    ∃ model ∈ component.namedModels options, query.items = relatedVariable model := by
  have named : query.items ∈ (newQueries [] (component.relatedQueries options)).map (·.items) :=
    mem_newQueries.2 ⟨List.mem_map_of_mem member, List.not_mem_nil⟩
  rcases List.mem_map.1 named with ⟨first, new, same⟩
  refine ⟨first.model, ?_, ?_⟩
  · exact List.mem_append_left _ (List.mem_append_right _ (List.mem_map_of_mem new))
  · rw [← same, items_of_mem_relatedQueries ((newQueries_sublist _ _).subset new)]

theorem derivedNames_iff :
    (∀ name ∈ component.derivedNames options, isIdentifier name) ↔
      component.NamesUsable options := by
  have items (models : ∀ model ∈ component.namedModels options, beginsName model) :
      ∀ query ∈ component.relatedQueries options, isIdentifier query.items := by
    intro query member
    rcases exists_namedModel member with ⟨model, named, same⟩
    rw [same]
    exact isIdentifier_relatedVariable (models model named)
  simp only [derivedNames, List.forall_mem_append, List.forall_mem_map, stateNames_iff,
    handlerNames_iff, Text.isIdentifier_sanitize]
  constructor
  · rintro ⟨⟨⟨states, handlers⟩, models⟩, _⟩
    exact ⟨states, handlers, models⟩
  · intro usable
    exact ⟨⟨⟨usable.states, usable.handlers⟩, usable.models⟩, items usable.models⟩

end Component

namespace BodyParts

variable {options : SourceOptions} {component : Component}

theorem derivedNames_occur (options : SourceOptions) (parts : BodyParts component) {name : String}
    (derived : name ∈ component.derivedNames options) :
    name ∈ (parts.stmts options).flatMap Stmt.declared ∨
      name ∈ (parts.stmts options).flatMap Stmt.free := by
  simp only [Component.derivedNames, List.mem_append, Component.map_sanitize_namedModels] at derived
  simp only [stmts, List.flatMap_append, List.mem_append, states_declared, actions_declared]
  rcases derived with ((state | handler) | queried | acted) | related
  · exact .inl (.inl (.inl (.inl (.inr state))))
  · exact .inl (.inl (.inl (.inr handler)))
  · exact .inr (.inl (.inr (component.queriedModels_subset_free options queried)))
  · rcases List.mem_flatMap.1 acted with ⟨use, member, named⟩
    rcases exists_related parts.actions_made member with ⟨stmt, present, made⟩
    exact .inr (.inl (.inl (.inr
      (List.mem_flatMap_of_mem present (ActionEvent.classNames_subset_free made named)))))
  · rcases component.collectionStmts_declared options with ⟨items, _, same, declared⟩
    exact .inl (.inl (.inr
      (declared.mem_iff.2 (List.mem_append_right _ ((same name).2 related)))))

end BodyParts

/-- All names made for a component are identifiers if and only if its elements, their states and
events, and its models have names that can be used for it. -/
theorem derivedNames_identifiers_iff {options : SourceOptions} {component : Component}
    {file : SourceFile} (rendered : component.render options = .ok file) :
    ∃ parts : BodyParts component, parts.file options = file ∧
      (∀ name ∈ component.derivedNames options,
        name ∈ (parts.stmts options).flatMap Stmt.declared ∨
          name ∈ (parts.stmts options).flatMap Stmt.free) ∧
      ((∀ name ∈ component.derivedNames options, isIdentifier name) ↔
        component.NamesUsable options) := by
  rcases Component.render_eq_ok.1 rendered with ⟨_, parts, written⟩
  exact ⟨parts, written, fun _ => parts.derivedNames_occur options, Component.derivedNames_iff⟩

/-- A click sets a property of the element `Box`. -/
def clickSets (property : String) : Component :=
  let click : ActionEvent := ⟨"Amplify.Mutation",
    some ⟨[("state", .mutation ⟨⟨"Box", property⟩, .fixed ⟨.str "open", trivial⟩ none⟩)],
      by simp [Entries.keys]⟩⟩
  let button : Element :=
    ⟨"Button", "Button", ∅, [], ⟨[("click", .action click)], by simp [Entries.keys]⟩⟩
  ⟨none, ⟨"Panel", "View", ∅, [⟨"Box", "View", ∅, [], ∅⟩, button], ∅⟩, ∅, none, [], none⟩

theorem derivedNames_identifiers_label :
    ∃ file, (clickSets "label").render {} = .ok file ∧
      ∃ parts : BodyParts (clickSets "label"), parts.file {} = file ∧
        (clickSets "label").derivedNames {} = ["boxLabel", "setBoxLabel", "buttonClick"] ∧
        (∀ name ∈ ["boxLabel", "setBoxLabel", "buttonClick"],
          name ∈ (parts.stmts {}).flatMap Stmt.declared ∨
            name ∈ (parts.stmts {}).flatMap Stmt.free) ∧
        (clickSets "label").NamesUsable {} := by
  have valid : (clickSets "label").validate = .ok () := by decide
  rcases Component.exists_render {} valid ⟨_, rfl⟩ with ⟨_, rendered⟩
  rcases derivedNames_identifiers_iff rendered with ⟨parts, written, occur, usable⟩
  have names : (clickSets "label").derivedNames {} =
      ["boxLabel", "setBoxLabel", "buttonClick"] := by decide
  rw [names] at occur usable
  exact ⟨_, rendered, parts, written, names, occur, usable.1 (by decide)⟩

/-- The state of an attribute that HTML spells with a hyphen. -/
theorem hyphen_in_variable :
    ∃ file, (clickSets "aria-label").render {} = .ok file ∧
      ∃ parts : BodyParts (clickSets "aria-label"), parts.file {} = file ∧
        "boxAria-label" ∈ (parts.stmts {}).flatMap Stmt.declared ∧
        "boxAria-label" ∈ (clickSets "aria-label").derivedNames {} ∧
        isIdentifier "boxAria-label" = false := by
  have valid : (clickSets "aria-label").validate = .ok () := by decide
  rcases Component.exists_render {} valid ⟨_, rfl⟩ with ⟨parts, rendered⟩
  have state : "boxAria-label" ∈ (clickSets "aria-label").stateNames := by decide
  refine ⟨_, rendered, parts, rfl, ?_, ?_, by decide⟩
  · rw [← parts.states_declared] at state
    simp [BodyParts.stmts, state]
  · simp [Component.derivedNames, state]

end JsxGen
