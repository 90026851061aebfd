import JsxGen.Proofs.InitialState
import JsxGen.Proofs.PropertyExpr

/-!
The order in which states are declared. `initial_order_iff` says for which components no state has
a first value that reads a state declared with it or after it.
-/

namespace JsxGen

open Js

/-- The variables that the first value of a state reads. -/
def Component.initialNames (component : Component) (ref : StateRef) : List String :=
  match component.root.initialProperty? ref with
  | none => undefinedExpr.free
  | some property => property.names component.usage.types

theorem Component.initialState_free {component : Component} {ref : StateRef} {initial : Expr}
    (made : initialState component.usage.types component.root ref = .ok initial) :
    initial.free = component.initialNames ref := by
  rw [initialState_eq] at made
  unfold initialNames
  cases found : component.root.initialProperty? ref with
  | none =>
    rw [found] at made
    cases made
    rfl
  | some property =>
    rw [found] at made
    exact property.toExpr_free made

section order

variable {α β : Type}

/-- Nothing in the list reads a name that it or a later one declares. -/
def InOrder (reads declares : α → List String) (xs : List α) : Prop :=
  (∀ x ∈ xs, ∀ name ∈ reads x, name ∉ declares x) ∧
    xs.Pairwise fun x later => ∀ name ∈ reads x, name ∉ declares later

instance decidableInOrder (reads declares : α → List String) (xs : List α) :
    Decidable (InOrder reads declares xs) :=
  inferInstanceAs (Decidable (_ ∧ _))

theorem inOrder_map {f : α → β} {reads declares : α → List String}
    {reads' declares' : β → List String} {xs : List α}
    (sameReads : ∀ x ∈ xs, reads x = reads' (f x))
    (sameDeclares : ∀ x ∈ xs, declares x = declares' (f x)) :
    InOrder reads declares xs ↔ InOrder reads' declares' (xs.map f) := by
  unfold InOrder
  rw [List.forall_mem_map, List.pairwise_map]
  refine and_congr (forall₂_congr fun x member => ?_) (List.Pairwise.iff_of_mem ?_)
  · rw [sameReads x member, sameDeclares x member]
  · intro x later member among
    rw [sameReads x member, sameDeclares later among]

end order

/-- The first value of every state reads none that is declared with it or after it. -/
def Component.StatesInOrder (component : Component) : Prop :=
  InOrder component.initialNames (fun ref => [ref.getter, ref.setter]) component.usage.states

instance decidableStatesInOrder (component : Component) : Decidable component.StatesInOrder :=
  inferInstanceAs (Decidable (InOrder _ _ _))

theorem stateHooks_inOrder_iff {component : Component} {hooks : List StateHook}
    (refs : hooks.map StateHook.ref = component.usage.states)
    (made : ∀ hook ∈ hooks, initialState component.usage.types component.root hook.ref =
      .ok hook.initial) :
    InOrder (fun hook => hook.initial.free) (fun hook => hook.toStmt.declared) hooks ↔
      component.StatesInOrder := by
  unfold Component.StatesInOrder
  rw [← refs]
  apply inOrder_map
  · intro hook member
    exact Component.initialState_free (made hook member)
  · intro hook _
    rfl

/-- Which components declare every state ahead of the first values that read it. -/
theorem initial_order_iff {options : SourceOptions} {component : Component} {file : SourceFile}
    (rendered : component.render options = .ok file) :
    ∃ (parts : BodyParts component) (hooks : List StateHook), parts.file options = file ∧
      parts.states = hooks.map StateHook.toStmt ∧
      (InOrder (fun hook => hook.initial.free) (fun hook => hook.toStmt.declared) hooks ↔
        component.StatesInOrder) := by
  rcases Component.render_eq_ok.1 rendered with ⟨_, parts, written⟩
  rcases parts.exists_hooks with ⟨hooks, same, refs, made⟩
  exact ⟨parts, hooks, written, same, stateHooks_inOrder_iff refs made⟩

/-- A field for a name, and a heading that greets the name until a button is clicked. -/
def greetingPanel (order : Element → Element → Element → List Element) : Component :=
  let name : Element := ⟨"Name", "TextField",
    ⟨[("value", .fixed ⟨.str "Bob", trivial⟩ none)], by decide⟩, [], ∅⟩
  let greeting : Element := ⟨"Greeting", "Heading",
    ⟨[("label", .concat [.fixed ⟨.str "Hello ", trivial⟩ none, .state ⟨"Name", "value"⟩])],
      by decide⟩, [], ∅⟩
  let click : ActionEvent := ⟨"Amplify.Mutation",
    some ⟨[("state", .mutation ⟨⟨"Greeting", "label"⟩, .fixed ⟨.str "Bye", trivial⟩ none⟩)],
      by decide⟩⟩
  let reset : Element := ⟨"Reset", "Button", ∅, [], ⟨[("click", .action click)], by decide⟩⟩
  ⟨none, ⟨"Panel", "Flex", ∅, order name greeting reset, ∅⟩, ∅, none, [], none⟩

theorem initial_order_name_first :
    let component := greetingPanel fun name greeting reset => [name, greeting, reset]
    ∃ file, component.render {} = .ok file ∧
      ∃ (parts : BodyParts component) (hooks : List StateHook), parts.file {} = file ∧
        parts.states = hooks.map StateHook.toStmt ∧
        InOrder (fun hook => hook.initial.free) (fun hook => hook.toStmt.declared) hooks := by
  intro component
  have valid : component.validate = .ok () := by decide
  have ordered : component.StatesInOrder := by decide
  rcases Component.exists_render {} valid ⟨_, rfl⟩ with ⟨_, rendered⟩
  rcases initial_order_iff rendered with ⟨parts, hooks, written, same, order⟩
  exact ⟨_, rendered, parts, hooks, written, same, order.2 ordered⟩

/-- Where the button comes first, the heading reads the name ahead of its declaration. -/
theorem greeting_reads_later_state :
    let component := greetingPanel fun name greeting reset => [reset, greeting, name]
    ∃ file, component.render {} = .ok file ∧
      ∃ (parts : BodyParts component) (greeting name : StateHook), parts.file {} = file ∧
        parts.states = [greeting.toStmt, name.toStmt] ∧
        "nameValue" ∈ greeting.initial.free ∧ "nameValue" ∈ name.toStmt.declared := by
  intro component
  have valid : component.validate = .ok () := by decide
  have states : component.usage.states = [⟨"Greeting", "children"⟩, ⟨"Name", "value"⟩] := by
    decide
  have reads : "nameValue" ∈ component.initialNames ⟨"Greeting", "children"⟩ := by decide
  have getter : StateRef.getter ⟨"Name", "value"⟩ = "nameValue" := by decide
  rcases Component.exists_render {} valid ⟨_, rfl⟩ with ⟨parts, rendered⟩
  rcases parts.exists_hooks with ⟨hooks, same, refs, made⟩
  rw [states] at refs
  obtain ⟨greeting, hooks, rfl, first, refs⟩ := List.map_eq_cons_iff.1 refs
  obtain ⟨name, hooks, rfl, second, refs⟩ := List.map_eq_cons_iff.1 refs
  obtain rfl := List.map_eq_nil_iff.1 refs
  refine ⟨_, rendered, parts, greeting, name, rfl, same, ?_, ?_⟩
  · rw [Component.initialState_free (made greeting List.mem_cons_self), first]
    exact reads
  · rw [StateHook.toStmt, second, getter]
    exact List.mem_cons_self

end JsxGen
