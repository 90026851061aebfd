import JsxGen.Proofs.Success
import JsxGen.Proofs.UnknownOperator

/-!
When an action has a statement, and which of its faults is reported if it has none:
`ActionEvent.toStmt_outcome`. A mutation is looked at up to its first state, any other action in
all its parameters.
-/

namespace JsxGen

theorem Property.inOrder_faults (property : Property) :
    ListedInOrder (fun place error => ∃ test, property.UnknownAt place test ∧ test.fault = error)
      (Comparison.faults property.comparisons) :=
  property.inOrder_unknown.map Comparison.fault

theorem reports_members {α : Type} {value : String → α → Except InputError Js.Expr}
    {found : String → α → List InputError} (each : ∀ key x, Reports (value key x) (found key x))
    (entries : List (String × α)) :
    Reports (members value entries) (entries.flatMap fun entry => found entry.1 entry.2) :=
  Reports.mapM fun entry _ => (each entry.1 entry.2).bind_pure

namespace Parameter

/-- What is wrong with the parameter under the key, unless the action is a mutation. -/
inductive FaultAt (key : String) : Parameter → List Nat → InputError → Prop where
  | mutation {mutation : Mutation} :
    FaultAt key (.mutation mutation) [] (.schema key .stateWithoutMutation)
  | property {property : Property} {place : List Nat} {test : Comparison} :
    property.UnknownAt place test → FaultAt key (.property property) place test.fault
  | field {fields : OrderedMap Property} {property : Property} {i : Nat} {place : List Nat}
    {test : Comparison} :
    fields.values[i]? = some property → property.UnknownAt place test →
      FaultAt key (.fields fields) (i :: place) test.fault

def faults (key : String) : Parameter → List InputError
  | .literal _ => []
  | .mutation _ => [.schema key .stateWithoutMutation]
  | .property p => Comparison.faults p.comparisons
  | .fields ps => ps.values.flatMap fun p => Comparison.faults p.comparisons

theorem inOrder_faults (key : String) (parameter : Parameter) :
    ListedInOrder (parameter.FaultAt key) (parameter.faults key) := by
  cases parameter with
  | literal text => exact ListedInOrder.nil fun _ _ faulty => nomatch faulty
  | mutation mutation =>
    refine ListedInOrder.singleton [] fun place error => ⟨?_, ?_⟩
    · intro faulty
      cases faulty
      exact ⟨rfl, rfl⟩
    · rintro ⟨rfl, rfl⟩
      exact .mutation
  | property property =>
    refine property.inOrder_faults.congr fun place error => ⟨?_, ?_⟩
    · rintro ⟨test, unknown, rfl⟩
      exact .property unknown
    · intro faulty
      cases faulty with
      | property unknown => exact ⟨_, unknown, rfl⟩
  | fields fields =>
    have each := ListedInOrder.flatMap 0 fun property (_ : property ∈ fields.values) =>
      property.inOrder_faults
    refine each.congr fun place error => ⟨?_, ?_⟩
    · rintro ⟨i, property, place, listed, rfl, test, unknown, rfl⟩
      exact .field listed unknown
    · intro faulty
      cases faulty with
      | field listed unknown => exact ⟨_, _, _, listed, rfl, _, unknown, rfl⟩

theorem reports_toExpr (types : ElementTypes) (key : String) (parameter : Parameter) :
    Reports (parameter.toExpr types key) (parameter.faults key) := by
  cases parameter with
  | literal text => exact reports_ok _
  | mutation mutation => exact reports_error _ []
  | property property => exact property.reports_toExpr
  | fields fields =>
    rw [faults, OrderedMap.values, List.flatMap_map]
    exact (reports_members (fun _ property => property.reports_toExpr) fields.entries).bind_pure

end Parameter

namespace ActionEvent

/-- The first of the parameters that sets a state does so by the mutation. -/
def SetsFirst (event : ActionEvent) (mutation : Mutation) : Prop :=
  ∃ before key after, event.parameterEntries = before ++ (key, .mutation mutation) :: after ∧
    ∀ entry ∈ before, ∀ other, entry.2 ≠ .mutation other

/-- A mutation whose first state gets a value with known operators, or another action of the library
that sets no state and whose parameters all have known operators, at whatever depth. -/
inductive Writable (event : ActionEvent) : Prop where
  | mutation {mutation : Mutation} :
    event.action = "Amplify.Mutation" → event.SetsFirst mutation →
      mutation.value.OperatorsKnown → Writable event
  | other :
    event.action ∈ Action.names → event.action ≠ "Amplify.Mutation" →
      (∀ entry ∈ event.parameterEntries, ∀ mutation, entry.2 ≠ .mutation mutation) →
      (∀ entry ∈ event.parameterEntries, ∀ property, entry.2.Gives property →
        property.OperatorsKnown) → Writable event

/-- What is wrong with the event whose function is called as the handler: its action comes first,
then the state that a mutation sets or the parameters of any other action. -/
inductive FaultAt (handler : String) (event : ActionEvent) : List Nat → InputError → Prop where
  | action : event.action ∉ Action.names → FaultAt handler event [0] (.unknownAction event.action)
  | state :
    event.action = "Amplify.Mutation" → ¬event.SetsState →
      FaultAt handler event [1] (.schema handler .mutationWithoutState)
  | value {mutation : Mutation} {place : List Nat} {test : Comparison} :
    event.action = "Amplify.Mutation" → event.SetsFirst mutation →
      mutation.value.UnknownAt place test → FaultAt handler event (1 :: place) test.fault
  | parameter {key : String} {parameter : Parameter} {i : Nat} {place : List Nat}
    {error : InputError} :
    event.action ≠ "Amplify.Mutation" → event.parameterEntries[i]? = some (key, parameter) →
      parameter.FaultAt key place error → FaultAt handler event (2 :: i :: place) error

variable {types : ElementTypes} {handler : String} {event : ActionEvent}

theorem mutation?_eq_some_iff {mutation : Mutation} :
    event.mutation? = some mutation ↔ event.SetsFirst mutation := by
  rw [mutation?, List.findSome?_eq_some_iff]
  constructor
  · rintro ⟨before, ⟨key, parameter⟩, after, split, sets, first⟩
    cases parameter with
    | mutation other =>
      cases sets
      refine ⟨before, key, after, split, fun entry member other same => ?_⟩
      have none_ := first entry member
      rw [← Prod.eta entry, same] at none_
      cases none_
    | _ => cases sets
  · rintro ⟨before, key, after, split, first⟩
    refine ⟨before, _, after, split, rfl, fun entry member => ?_⟩
    rcases entry with ⟨key', parameter⟩
    cases parameter with
    | mutation other => exact absurd rfl (first _ member other)
    | _ => rfl

/-- What is wrong with the state that a mutation sets, or with its value. -/
def mutationFaults (handler : String) (event : ActionEvent) : List InputError :=
  match event.mutation? with
  | none => [.schema handler .mutationWithoutState]
  | some m => Comparison.faults m.value.comparisons

def faults (handler : String) (event : ActionEvent) : List InputError :=
  (if event.action ∉ Action.names then [.unknownAction event.action] else []) ++
    ((if event.action = "Amplify.Mutation" then event.mutationFaults handler else []) ++
      if event.action ≠ "Amplify.Mutation" then
        event.parameterEntries.flatMap fun entry => entry.2.faults entry.1 else [])

theorem inOrder_mutationFaults (handler : String) (event : ActionEvent) :
    ListedInOrder (fun place error =>
        (¬event.SetsState ∧ place = [] ∧ error = .schema handler .mutationWithoutState) ∨
          ∃ mutation, event.SetsFirst mutation ∧
            ∃ test, mutation.value.UnknownAt place test ∧ test.fault = error)
      (event.mutationFaults handler) := by
  simp only [← mutation?_eq_some_iff, setsState_iff]
  unfold mutationFaults
  cases event.mutation? with
  | none => exact ListedInOrder.singleton [] fun place error => by simp
  | some mutation => exact mutation.value.inOrder_faults.congr fun place error => by simp

theorem inOrder_faults (handler : String) (event : ActionEvent) :
    ListedInOrder (event.FaultAt handler) (event.faults handler) := by
  have action : ListedInOrder _ (if event.action ∉ Action.names then
      [InputError.unknownAction event.action] else []) :=
    ListedInOrder.ite (ListedInOrder.singleton [] fun _ _ => Iff.rfl)
  have state := (event.inOrder_mutationFaults handler).ite (p := event.action = "Amplify.Mutation")
  have given := (ListedInOrder.flatMap 0 fun entry (_ : entry ∈ event.parameterEntries) =>
    entry.2.inOrder_faults entry.1).ite (p := event.action ≠ "Amplify.Mutation")
  have whole := (ListedFrom.cons action (.cons state (given.last 2))).inOrder
  refine whole.congr fun place error => ⟨?_, ?_⟩
  · rintro (⟨_, rfl, unknown, rfl, rfl⟩ |
      ⟨place, rfl, mutates, ⟨stateless, rfl, rfl⟩ | ⟨mutation, first, test, unknown, rfl⟩⟩ |
      ⟨_, rfl, other, i, ⟨key, parameter⟩, place, listed, rfl, faulty⟩)
    · exact .action unknown
    · exact .state mutates stateless
    · exact .value mutates first unknown
    · exact .parameter other listed faulty
  · intro faulty
    cases faulty with
    | action unknown => exact .inl ⟨_, rfl, unknown, rfl, rfl⟩
    | state mutates stateless => exact .inr (.inl ⟨_, rfl, mutates, .inl ⟨stateless, rfl, rfl⟩⟩)
    | value mutates first unknown =>
      exact .inr (.inl ⟨_, rfl, mutates, .inr ⟨_, first, _, unknown, rfl⟩⟩)
    | parameter other listed faulty =>
      exact .inr (.inr ⟨_, rfl, other, _, _, _, listed, rfl, faulty⟩)

theorem reports_mutationStmt :
    Reports (event.mutationStmt types handler) (event.mutationFaults handler) := by
  unfold mutationStmt mutationFaults
  cases event.mutation? with
  | none => exact reports_error _ []
  | some mutation => exact mutation.value.reports_toExpr.bind_pure

theorem reports_arguments (action : Action) : Reports (event.arguments types action)
    (event.parameterEntries.flatMap fun entry => entry.2.faults entry.1) := by
  unfold arguments parameterEntries
  cases event.parameters with
  | none => exact reports_ok none
  | some parameters =>
    exact (reports_members (Parameter.reports_toExpr types) parameters.entries).bind_pure

theorem toStmt_of_unknown (unknown : event.action ∉ Action.names) :
    event.toStmt types handler = .error (.unknownAction event.action) := by
  rw [toStmt, Action.ofName_of_notMem unknown]
  rfl

theorem reports_toStmt : Reports (event.toStmt types handler) (event.faults handler) := by
  by_cases known : event.action ∈ Action.names
  · obtain ⟨action, named⟩ := Action.mem_names.1 known
    have found : Action.ofName event.action = .ok action := Action.ofName_eq_ok.2 named.symm
    rw [toStmt, found, faults, if_neg (not_not.2 known), List.nil_append]
    change Reports (if action = .mutation then _ else _) _
    by_cases mutates : action = .mutation
    · have same : event.action = "Amplify.Mutation" := by rw [named, mutates]; rfl
      rw [if_pos mutates, if_pos same, if_neg (not_not.2 same), List.append_nil]
      exact reports_mutationStmt
    · have other : event.action ≠ "Amplify.Mutation" := by
        rw [named]
        exact Action.name_injective.ne mutates
      rw [if_neg mutates, if_neg other, if_pos other, List.nil_append]
      exact (reports_arguments action).bind_pure
  · rw [toStmt_of_unknown known, faults, if_pos known]
    exact reports_error _ _

theorem succeeds_toStmt_iff : Succeeds (event.toStmt types handler) ↔ event.Writable := by
  have named : Action.mutation.name = "Amplify.Mutation" := rfl
  rw [succeeds_toStmt, written, named]
  by_cases mutates : event.action = "Amplify.Mutation"
  · have known : event.action ∈ Action.names := Action.mem_names.2 ⟨.mutation, mutates⟩
    have sound : event.Sound ↔ ∃ mutation, event.SetsFirst mutation := by
      simp only [← mutation?_eq_some_iff, ← setsState_iff]
      exact ⟨fun sound => sound.state.1 mutates, fun sets => ⟨known, iff_of_true mutates sets⟩⟩
    rw [if_pos mutates, sound]
    constructor
    · rintro ⟨⟨mutation, first⟩, values⟩
      have written := Option.mem_toList.2 (mutation?_eq_some_iff.2 first)
      exact .mutation mutates first (values _ (List.mem_map_of_mem written))
    · rintro (⟨_, first, value⟩ | ⟨_, other, _⟩)
      · rw [mutation?_eq_some_iff.2 first]
        exact ⟨⟨_, first⟩, List.forall_mem_singleton.2 value⟩
      · exact absurd mutates other
  · rw [if_neg mutates, List.forall_mem_flatMap]
    simp only [Parameter.mem_properties]
    constructor
    · rintro ⟨sound, values⟩
      have unset : ¬event.SetsState := fun sets => mutates (sound.state.2 sets)
      exact .other sound.known mutates
        (fun entry member mutation same => unset ⟨entry, member, mutation, same⟩) values
    · rintro (⟨same, _, _⟩ | ⟨known, _, unset, values⟩)
      · exact absurd same mutates
      · refine ⟨⟨known, iff_of_false mutates ?_⟩, values⟩
        rintro ⟨entry, member, mutation, same⟩
        exact unset entry member mutation same

/-- Which actions have a statement. One that the library does not have is told by its name, whatever
its parameters are; of the faults of any other, the first is reported. -/
theorem toStmt_outcome (types : ElementTypes) (handler : String) (event : ActionEvent) :
    (Succeeds (event.toStmt types handler) ↔ event.Writable) ∧
    (∀ name, event.toStmt types handler = .error (.unknownAction name) ↔
      event.action ∉ Action.names ∧ name = event.action) ∧
    ∀ error, event.toStmt types handler = .error error ↔
      ComesFirst (event.FaultAt handler) error := by
  have reports : Reports (event.toStmt types handler) (event.faults handler) := reports_toStmt
  have reported (error : InputError) : event.toStmt types handler = .error error ↔
      ComesFirst (event.FaultAt handler) error :=
    reports.eq_error_iff (event.inOrder_faults handler)
  refine ⟨succeeds_toStmt_iff, fun name => ⟨?_, ?_⟩, reported⟩
  · intro failed
    obtain ⟨place, faulty, _⟩ := (reported _).1 failed
    generalize told : InputError.unknownAction name = error at faulty
    cases faulty with
    | action unknown => exact ⟨unknown, InputError.unknownAction.inj told⟩
    | state mutates stateless => cases told
    | value mutates first unknown => cases told
    | parameter other listed faulty =>
      cases faulty <;> cases told
  · rintro ⟨unknown, rfl⟩
    exact toStmt_of_unknown unknown

/-- Only a mutation sets state; the error tells the parameter that does. -/
example :
    let hidden : Mutation := ⟨⟨"Card", "display"⟩, .fixed ⟨.str "none", trivial⟩ none⟩
    toStmt ∅ "cardClick" ⟨"Amplify.Navigation",
        some ⟨[("type", .literal "url"), ("hide", .mutation hidden)], by decide⟩⟩ =
      .error (.schema "hide" .stateWithoutMutation) :=
  rfl

end ActionEvent

end JsxGen
