import JsxGen.Proofs.Action
import JsxGen.Proofs.SourceFile
import JsxGen.Proofs.Usage

/-!
The statements that declare state. `declared_before_use` says that whatever state a component
mentions, and the attributes of the user, are declared ahead of the statements that use them.
-/

namespace JsxGen

open Js

theorem exists_stateHooks {types : ElementTypes} {root : Element} {refs : List StateRef}
    {stmts : List Stmt}
    (made : List.Forall₂ (fun ref stmt => stateStmt types root ref = .ok stmt) refs stmts) :
    ∃ hooks : List StateHook, stmts = hooks.map StateHook.toStmt ∧
      hooks.map StateHook.ref = refs ∧
      ∀ hook ∈ hooks, initialState types root hook.ref = .ok hook.initial := by
  induction made with
  | nil => exact ⟨[], rfl, rfl, by simp⟩
  | @cons ref stmt refs stmts first _ ih =>
    rcases stateStmt_ok first with ⟨initial, given, rfl⟩
    rcases ih with ⟨hooks, rfl, rfl, known⟩
    refine ⟨⟨ref, initial⟩ :: hooks, rfl, rfl, ?_⟩
    intro hook member
    rcases List.mem_cons.1 member with rfl | member
    · exact given
    · exact known hook member

namespace BodyParts

variable {options : SourceOptions} {component : Component}

/-- The statements after those for state. -/
def closing (options : SourceOptions) (parts : BodyParts component) : List Stmt :=
  parts.actions ++ component.collectionStmts options.relatedSchema ++ [.ret (.jsx parts.markup)]

theorem stmts_eq (options : SourceOptions) (parts : BodyParts component) :
    parts.stmts options = opening component ++ parts.states ++ parts.closing options := by
  simp only [stmts, closing, List.append_assoc]

end BodyParts

theorem StateHook.toStmt_ne_authStmt (hook : StateHook) : hook.toStmt ≠ authStmt := by
  simp [toStmt, authStmt, Stmt.constName]

theorem ActionEvent.ne_authStmt {types : ElementTypes} {handler : String} {event : ActionEvent}
    {stmt : Stmt} (made : event.toStmt types handler = .ok stmt) : stmt ≠ authStmt := by
  rcases toStmt_eq_ok.1 made with ⟨_, _, _, _, _, rfl⟩ | ⟨_, _, _, _, _, rfl⟩
  · simp [authStmt, Stmt.constName]
  · simp [authStmt, Stmt.constName]

theorem authStmt_notMem_collectionStmts (related : String → List RelatedQuery)
    (bound : List String) (queries : List (String × Query)) :
    authStmt ∉ collectionStmts related bound queries := by
  have items : ∀ query : Query, ∃ object property, query.items = .member object property false :=
    fun _ => ⟨_, _, rfl⟩
  induction queries generalizing bound with
  | nil => simp [collectionStmts]
  | cons entry queries ih =>
    rcases entry with ⟨key, query⟩
    simp only [collectionStmts, List.mem_append, List.mem_cons, not_or]
    refine ⟨?_, ?_, ?_, ih _⟩
    · intro member
      rcases List.mem_map.1 member with ⟨query, _, same⟩
      simp [RelatedQuery.toStmt, authStmt, Stmt.constName, Query.items] at same
    · split
      · simp [authStmt, Stmt.constName, Query.items]
      · simp [authStmt, Stmt.constName, joinRelated]
    · simp [collectionProp, authStmt, Stmt.constName]

theorem authStmt_notMem_variantStmts (component : Component) :
    authStmt ∉ component.variantStmts propsVariable overridesVariable := by
  unfold Component.variantStmts
  split
  · exact List.not_mem_nil
  · cases component.breakpoints with
    | nil => simp [authStmt, Stmt.constName, authVariable, overridesVariable, breakpointStmts]
    | cons smallest sizes =>
      simp [authStmt, Stmt.constName, authVariable, overridesVariable, breakpointStmts,
        breakpointStmt]

namespace BodyParts

variable {options : SourceOptions} {component : Component}

theorem exists_hooks (parts : BodyParts component) :
    ∃ hooks : List StateHook, parts.states = hooks.map StateHook.toStmt ∧
      hooks.map StateHook.ref = component.usage.states ∧
      ∀ hook ∈ hooks, initialState component.usage.types component.root hook.ref =
        .ok hook.initial :=
  exists_stateHooks parts.states_made

theorem authStmt_mem_opening : authStmt ∈ opening component ↔ component.usage.auth = true := by
  have props : component.propsStmt ≠ authStmt := by
    simp [Component.propsStmt, authStmt, Stmt.constName]
  have variants := authStmt_notMem_variantStmts component
  cases uses : component.usage.auth with
  | false => simp [opening, uses, variants, props.symm]
  | true => simp [opening, uses]

theorem authStmt_notMem_states (parts : BodyParts component) : authStmt ∉ parts.states := by
  rcases parts.exists_hooks with ⟨hooks, same, _, _⟩
  rw [same]
  intro member
  rcases List.mem_map.1 member with ⟨hook, _, equal⟩
  exact hook.toStmt_ne_authStmt equal

theorem authStmt_notMem_closing (options : SourceOptions) (parts : BodyParts component) :
    authStmt ∉ parts.closing options := by
  intro member
  rcases List.mem_append.1 member with member | member
  · rcases List.mem_append.1 member with member | member
    · rcases exists_source parts.actions_made member with ⟨use, _, made⟩
      exact ActionEvent.ne_authStmt made rfl
    · exact authStmt_notMem_collectionStmts _ _ _ member
  · simp [authStmt, Stmt.constName] at member

theorem authStmt_mem_stmts (options : SourceOptions) (parts : BodyParts component) :
    authStmt ∈ parts.stmts options ↔ component.usage.auth = true := by
  have states := parts.authStmt_notMem_states
  have closing := parts.authStmt_notMem_closing options
  rw [stmts_eq, List.mem_append, List.mem_append, authStmt_mem_opening]
  constructor
  · intro member
    exact (member.resolve_right closing).resolve_right states
  · exact fun uses => .inl (.inl uses)

theorem stmts_of_auth (options : SourceOptions) (parts : BodyParts component)
    (uses : component.usage.auth = true) :
    parts.stmts options = component.propsStmt ::
        component.variantStmts propsVariable overridesVariable ++
      authStmt :: (parts.states ++ parts.closing options) := by
  rw [stmts_eq, opening, if_pos uses]
  simp only [List.cons_append, List.append_assoc, List.nil_append]

theorem stmts_of_state (options : SourceOptions) (parts : BodyParts component) {ref : StateRef}
    (used : ref ∈ component.usage.states) :
    ∃ hook : StateHook, hook.ref = ref ∧ ∃ before between,
      parts.stmts options = before ++ hook.toStmt :: between ++ parts.closing options := by
  rcases parts.exists_hooks with ⟨hooks, same, refs, _⟩
  rw [← refs] at used
  rcases List.mem_map.1 used with ⟨hook, member, rfl⟩
  have declared : hook.toStmt ∈ parts.states := same ▸ List.mem_map_of_mem member
  rcases List.append_of_mem declared with ⟨before, between, split⟩
  refine ⟨hook, rfl, opening component ++ before, between, ?_⟩
  rw [stmts_eq, split, ← List.append_assoc (opening component)]

end BodyParts

/-- For every state that a component reads or sets, and for the attributes of the user. -/
theorem declared_before_use {options : SourceOptions} {component : Component} {file : SourceFile}
    (rendered : component.render options = .ok file) :
    let attributes : Stmt := .const (.ident "authAttributes") (.binary
      (.member (.member (.call (.ident "useAuth") []) "user" false) "attributes" true) .nullish
      (.object [] false))
    ∃ parts : BodyParts component, parts.file options = file ∧
      (∀ ref, component.root.Mentions ref → ∃ hook : StateHook,
        hook.ref = component.usage.types.resolve ref ∧ ∃ before between,
          parts.stmts options = before ++ hook.toStmt :: between ++ parts.closing options) ∧
      (attributes ∈ parts.stmts options ↔ ∃ name, component.root.Holds (.auth name)) ∧
      (attributes ∈ parts.stmts options → ∃ before,
        parts.stmts options = before ++ attributes :: (parts.states ++ parts.closing options)) := by
  intro attributes
  rcases Component.render_eq_ok.1 rendered with ⟨_, parts, written⟩
  refine ⟨parts, written, ?_, ?_, ?_⟩
  · intro ref mentions
    exact parts.stmts_of_state options (Component.resolve_mem_usage_states mentions)
  · exact (parts.authStmt_mem_stmts options).trans Component.usage_auth_iff
  · intro present
    have uses := (parts.authStmt_mem_stmts options).1 present
    exact ⟨_, parts.stmts_of_auth options uses⟩

/-- A heading greets the user; a click makes it read another state. -/
theorem declared_before_use_greeting :
    let name : StateRef := ⟨"Name", "value"⟩
    let click : ActionEvent := ⟨"Amplify.Mutation",
      some ⟨[("state", .mutation ⟨⟨"Greeting", "label"⟩,
        .concat [.fixed ⟨.str "Hello ", trivial⟩ none, .state name]⟩)], by decide⟩⟩
    let greeting : Element := ⟨"Greeting", "Heading",
      ⟨[("label", .concat [.fixed ⟨.str "Hello ", trivial⟩ none, .auth "name"])], by decide⟩, [],
      ⟨[("click", .action click)], by decide⟩⟩
    let component : Component := ⟨none, ⟨"Panel", "View", ∅, [greeting], ∅⟩, ∅, none, [], none⟩
    ∃ file, component.render {} = .ok file ∧ component.root.Mentions name ∧
      component.root.Holds (.auth "name") ∧
      ∃ parts : BodyParts component, parts.file {} = file ∧ (∃ initial before between,
        parts.stmts {} = before ++ .const (.array ["nameValue", "setNameValue"])
          (.call (.ident "useStateMutationAction") [initial]) :: between ++ parts.closing {}) ∧
        ∃ before, parts.stmts {} = before ++ .const (.ident "authAttributes") (.binary
          (.member (.member (.call (.ident "useAuth") []) "user" false) "attributes" true) .nullish
          (.object [] false)) :: (parts.states ++ parts.closing {}) := by
  intro name click greeting component
  have inside : greeting ∈ component.root.preorder :=
    Element.mem_preorder_of_child List.mem_cons_self
  have occurs : Event.action click ∈ greeting.events.values := by
    simp [greeting, OrderedMap.values]
  have mentions : component.root.Mentions name := by
    refine .action inside occurs (List.getElem_mem (n := 0) (by decide)) ?_
    exact .value (.part (List.getElem_mem (n := 1) (by decide)) .state)
  have holds : component.root.Holds (.auth "name") := by
    refine .property inside (List.getElem_mem (n := 0) (by decide)) ?_
    exact .part (List.getElem_mem (n := 1) (by decide)) .self
  have valid : component.validate = .ok () := by decide
  rcases Component.exists_render {} valid ⟨_, rfl⟩ with ⟨_, rendered⟩
  rcases declared_before_use rendered with ⟨parts, written, states, auth, ahead⟩
  rcases states name mentions with ⟨⟨ref, initial⟩, same, before, between, split⟩
  have resolved : ref = name := same.trans (by decide)
  have getter : name.getter = "nameValue" := by decide
  have setter : name.setter = "setNameValue" := by decide
  rw [StateHook.toStmt, resolved, getter, setter] at split
  exact ⟨_, rendered, mentions, holds, parts, written, ⟨initial, before, between, split⟩,
    ahead (auth.2 ⟨_, holds⟩)⟩

end JsxGen
