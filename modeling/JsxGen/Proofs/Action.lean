import JsxGen.Action
import JsxGen.Proofs.PropertyExpr

/-!
The statement of an action: a function that sets a state, or a call of the hook of the action.
`toStmt_free` says which variables the statement reads.
-/

namespace JsxGen

open Js

theorem Action.ofName_eq_ok {name : String} {action : Action} :
    ofName name = .ok action ↔ action.name = name := by
  constructor
  · intro known
    unfold ofName at known
    split at known
    · rename_i found listed
      cases known
      have same := List.find?_some listed
      exact of_decide_eq_true same
    · cases known
  · intro same
    subst same
    cases action <;> rfl

theorem Action.name_injective : Function.Injective name := by
  intro first second same
  have known : ofName first.name = .ok second := ofName_eq_ok.2 same.symm
  exact Except.ok.inj ((ofName_eq_ok.2 rfl).symm.trans known)

/-- The actions of the library, as the schema calls them. -/
def Action.names : List String :=
  ["Amplify.Navigation", "Amplify.DataStoreCreateItemAction", "Amplify.DataStoreUpdateItemAction",
    "Amplify.DataStoreDeleteItemAction", "Amplify.AuthSignOut", "Amplify.Mutation"]

theorem Action.map_name_all : all.map name = names := rfl

theorem Action.mem_names {text : String} : text ∈ names ↔ ∃ action : Action, text = action.name := by
  rw [← map_name_all, List.mem_map]
  constructor
  · rintro ⟨action, _, rfl⟩
    exact ⟨action, rfl⟩
  · rintro ⟨action, rfl⟩
    exact ⟨action, by cases action <;> decide, rfl⟩

theorem Action.ofName_of_notMem {text : String} (unknown : text ∉ names) :
    ofName text = .error (.unknownAction text) := by
  rw [← map_name_all] at unknown
  have none_ : all.find? (·.name = text) = none := by
    rw [List.find?_eq_none]
    intro action member same
    exact unknown (of_decide_eq_true same ▸ List.mem_map_of_mem member)
  rw [ofName, none_]

theorem ActionEvent.toStmt_eq_ok {types : ElementTypes} {handler : String} {event : ActionEvent}
    {stmt : Stmt} :
    event.toStmt types handler = .ok stmt ↔
      (event.action = Action.mutation.name ∧ ∃ mutation value, event.mutation? = some mutation ∧
        mutation.value.toExpr types = .ok value ∧ stmt = .constName handler (.arrowBlock []
          [.expr (.call (.ident (types.resolve mutation.target).setter) [value])])) ∨
      ∃ action argument, event.action = action.name ∧ action ≠ .mutation ∧
        event.arguments types action = .ok argument ∧
        stmt = .constName handler (.call (.ident action.hook.name) argument.toList) := by
  unfold toStmt
  constructor
  · intro made
    obtain ⟨action, known, made⟩ := bind_eq_ok.1 made
    have named := Action.ofName_eq_ok.1 known
    split at made
    · rename_i mutates
      subst mutates
      unfold mutationStmt at made
      split at made
      · cases made
      · rename_i mutation first
        obtain ⟨value, given, made⟩ := bind_eq_ok.1 made
        cases made
        exact .inl ⟨named.symm, mutation, value, first, given, rfl⟩
    · rename_i other
      obtain ⟨argument, given, made⟩ := bind_eq_ok.1 made
      cases made
      exact .inr ⟨action, argument, named.symm, other, given, rfl⟩
  · intro known
    rcases known with ⟨named, mutation, value, first, given, rfl⟩ |
      ⟨action, argument, named, other, given, rfl⟩
    · refine bind_eq_ok.2 ⟨.mutation, Action.ofName_eq_ok.2 named.symm, ?_⟩
      rw [if_pos rfl, mutationStmt, first]
      exact bind_eq_ok.2 ⟨value, given, rfl⟩
    · refine bind_eq_ok.2 ⟨action, Action.ofName_eq_ok.2 named.symm, ?_⟩
      rw [if_neg other]
      exact bind_eq_ok.2 ⟨argument, given, rfl⟩

theorem members_related {α : Type} {value : String → α → Except InputError Expr}
    {entries : List (String × α)} {made : List Member} (h : members value entries = .ok made) :
    List.Forall₂ (fun entry m => ∃ e, value entry.1 entry.2 = .ok e ∧ m = .ofString entry.1 e)
      entries made := by
  refine (mapM_eq_ok.1 h).imp fun entry m h => ?_
  obtain ⟨e, given, h⟩ := bind_eq_ok.1 h
  cases h
  exact ⟨e, given, rfl⟩

theorem members_free {α : Type} {value : String → α → Except InputError Expr}
    {entries : List (String × α)} {made : List Member} (names : String → α → List String)
    (each : ∀ key x e, value key x = .ok e → e.free = names key x)
    (h : members value entries = .ok made) :
    Member.freeAll made = entries.flatMap fun entry => names entry.1 entry.2 := by
  rw [Member.freeAll_eq]
  refine flatMap_related (members_related h) ?_
  rintro entry _ ⟨e, given, rfl⟩
  rw [Member.ofString, Member.free, each _ _ _ given]

namespace Parameter

/-- The class that a text names under the key for it. -/
def classNames (key : String) : Parameter → List String
  | .literal text => if key = "model" then [Text.sanitize text] else []
  | .mutation _ | .property _ | .fields _ => []

/-- The variables of the expression of a parameter under a key. -/
def names (types : ElementTypes) (key : String) (parameter : Parameter) : List String :=
  parameter.properties.flatMap (Property.names types) ++ parameter.classNames key

theorem toExpr_free {types : ElementTypes} {key : String} {parameter : Parameter} {e : Expr}
    (made : parameter.toExpr types key = .ok e) : e.free = parameter.names types key := by
  cases parameter with
  | literal text =>
    cases made
    rw [names, properties, List.flatMap_nil, List.nil_append, classNames]
    split
    · rw [Expr.free]
    · rw [Expr.free]
  | mutation mutation => cases made
  | property property =>
    rw [toExpr] at made
    rw [property.toExpr_free made, names, properties, List.flatMap_singleton, classNames,
      List.append_nil]
  | fields fields =>
    rw [toExpr] at made
    obtain ⟨given, each, made⟩ := bind_eq_ok.1 made
    cases made
    have read := members_free (fun _ property => property.names types)
      (fun _ property _ made => property.toExpr_free made) each
    rw [Expr.inline, Expr.free, read, names, properties, OrderedMap.values, List.flatMap_map,
      classNames, List.append_nil]

end Parameter

namespace ActionEvent

variable {types : ElementTypes} {event : ActionEvent}

/-- The properties whose values the statement of the event computes. Of the parameters of a
mutation, only the first that sets a state counts. -/
def written (event : ActionEvent) : List Property :=
  if event.action = Action.mutation.name then event.mutation?.toList.map Mutation.value
  else event.parameterEntries.flatMap fun entry => entry.2.properties

def classNames (event : ActionEvent) : List String :=
  if event.action = Action.mutation.name then []
  else event.parameterEntries.flatMap fun entry => entry.2.classNames entry.1

/-- The argument of a hook reads what the parameters read, and the schema if the hook takes it. -/
theorem arguments_free_eq {action : Action} {argument : Option Expr}
    (made : event.arguments types action = .ok argument) :
    ∃ schema, schema ⊆ ["schema"] ∧ Expr.freeAll argument.toList =
      (event.parameterEntries.flatMap fun entry => entry.2.names types entry.1) ++ schema := by
  unfold arguments at made
  unfold parameterEntries
  cases given : event.parameters with
  | none =>
    rw [given] at made
    cases made
    exact ⟨[], List.nil_subset _, rfl⟩
  | some parameters =>
    rw [given] at made
    obtain ⟨members', each, made⟩ := bind_eq_ok.1 made
    cases made
    have read := members_free _ (fun _ _ _ => Parameter.toExpr_free) each
    refine ⟨Member.freeAll (if action.onDataStore then [schemaMember] else []), ?_, ?_⟩
    · split
      · exact List.Subset.refl _
      · exact List.nil_subset _
    · rw [Member.freeAll_eq] at read ⊢
      rw [Option.toList_some, Expr.freeAll, Expr.freeAll, List.append_nil, Expr.inline, Expr.free,
        Member.freeAll_eq, List.flatMap_append, read]

theorem arguments_free {action : Action} {argument : Option Expr}
    (made : event.arguments types action = .ok argument) {name : String}
    (other : name ≠ "schema") :
    name ∈ Expr.freeAll argument.toList ↔
      name ∈ event.parameterEntries.flatMap fun entry => entry.2.names types entry.1 := by
  rcases arguments_free_eq made with ⟨schema, only, read⟩
  rw [read, List.mem_append]
  exact or_iff_left fun member => other (List.mem_singleton.1 (only member))

/-- The classes that the parameters of an event name are read by its statement. -/
theorem classNames_subset_free {handler : String} {stmt : Stmt}
    (made : event.toStmt types handler = .ok stmt) : event.classNames ⊆ stmt.free := by
  intro name named
  unfold classNames at named
  rcases toStmt_eq_ok.1 made with ⟨mutates, _⟩ | ⟨action, argument, _, _, given, rfl⟩
  · rw [if_pos mutates] at named
    cases named
  · rcases arguments_free_eq given with ⟨_, _, read⟩
    rw [Stmt.constName, Stmt.free, Expr.free, read]
    refine List.mem_append_right _ (List.mem_append_left _ ?_)
    split at named
    · cases named
    · exact mem_flatMap_append.2 (.inr named)

/-- Besides what the parameters read, the statement of an event names only the library's functions,
the setter of a state and the schema. -/
theorem toStmt_free {handler : String} {stmt : Stmt} (made : event.toStmt types handler = .ok stmt)
    {name : String} (schema : name ≠ "schema") (hook : ∀ action : Action, name ≠ action.hook.name)
    (setter : ∀ ref : StateRef, name ≠ ref.setter) :
    name ∈ stmt.free ↔
      name ∈ event.written.flatMap (Property.names types) ∨ name ∈ event.classNames := by
  unfold written classNames
  rcases toStmt_eq_ok.1 made with ⟨named, mutation, value, first, given, rfl⟩ |
    ⟨action, argument, named, other, given, rfl⟩
  · rw [if_pos named, if_pos named, first]
    simp [Stmt.constName, Stmt.free, Expr.free, Stmt.freeAll, Expr.freeAll, Stmt.declared, setter,
      mutation.value.toExpr_free given]
  · have apart : event.action ≠ Action.mutation.name := by
      rw [named]
      exact Action.name_injective.ne other
    rw [if_neg apart, if_neg apart, Stmt.constName, Stmt.free, Expr.free, Expr.free,
      List.singleton_append, List.mem_cons, arguments_free given schema]
    exact (or_iff_right (hook action)).trans mem_flatMap_append

end ActionEvent

end JsxGen
