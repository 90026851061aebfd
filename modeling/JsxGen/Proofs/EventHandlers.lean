import JsxGen.Proofs.ActionFault
import JsxGen.Proofs.Places
import JsxGen.Proofs.StateWiring

/-!
Actions are listed in one walk over the tree and their handlers are named in another.
`action_wiring` says that both agree: each action event has one statement of its own, and the
attribute for the event names what that statement binds. Handlers of two events may have one name.
-/

namespace JsxGen

open Js

/-- The action stands at the place: the events of an element come ahead of its children. -/
inductive Element.ActionAt : Element → List Nat → ActionUse → Prop where
  | event {element : Element} {key : String} {event : ActionEvent} {i : Nat} :
    element.events.entries[i]? = some (key, .action event) →
      ActionAt element [0, i] ⟨handlerName element.name key, event⟩
  | child {element child : Element} {i : Nat} {place : List Nat} {use : ActionUse} :
    element.children[i]? = some child → ActionAt child place use →
      ActionAt element (1 :: i :: place) use

/-- The hook for each action of the library but the mutation, which calls a setter. -/
def hookNames : List (String × String) :=
  [("Amplify.Navigation", "useNavigateAction"),
    ("Amplify.DataStoreCreateItemAction", "useDataStoreCreateAction"),
    ("Amplify.DataStoreUpdateItemAction", "useDataStoreUpdateAction"),
    ("Amplify.DataStoreDeleteItemAction", "useDataStoreDeleteAction"),
    ("Amplify.AuthSignOut", "useAuthSignOutAction")]

/-- The statement binds the handler to a call of the hook of the action or, for a mutation, to a
function that calls the setter of the first state among the parameters. -/
inductive ActionUse.BoundBy (types : ElementTypes) (use : ActionUse) : Stmt → Prop where
  | hook {action : Action} {hook : String} {argument : Option Expr} :
    hookNames.lookup use.event.action = some hook → use.event.action = action.name →
      use.event.arguments types action = .ok argument →
      BoundBy types use (.const (.ident use.handler) (.call (.ident hook) argument.toList))
  | setter {mutation : Mutation} {value : Expr} :
    use.event.action = "Amplify.Mutation" → use.event.SetsFirst mutation →
      mutation.value.toExpr types = .ok value →
      BoundBy types use (.const (.ident use.handler) (.arrowBlock []
        [.expr (.call (.ident (types.resolve mutation.target).setter) [value])]))

/-- The items of the last list in order, some for each pair of the other two. -/
inductive DealtOut {α β γ : Type} (R : α → β → List γ → Prop) :
    List α → List β → List γ → Prop where
  | nil : DealtOut R [] [] []
  | cons {x : α} {y : β} {own : List γ} {xs : List α} {ys : List β} {others : List γ} :
    R x y own → DealtOut R xs ys others → DealtOut R (x :: xs) (y :: ys) (own ++ others)

/-- What an event of an element of the name gives: one attribute, which names what the one statement
of an action binds. An event that is passed on to a prop has no statement. -/
inductive EventWired (types : ElementTypes) (name : String) :
    String × Event → JsxAttribute → List Stmt → Prop where
  | action {key : String} {event : ActionEvent} {stmt : Stmt} :
    ActionUse.BoundBy types ⟨handlerName name key, event⟩ stmt →
      EventWired types name (key, .action event)
        (.named (eventAttribute key) (.ident (handlerName name key))) [stmt]
  | binding {key prop : String} :
    EventWired types name (key, .binding prop) (.named (eventAttribute key) (.ident prop)) []

/-- The markup has one attribute for each event of the element, and the statements are those of its
action events. -/
def Element.WiredTo (types : ElementTypes) (element : Element) (jsx : JsxElement)
    (stmts : List Stmt) : Prop :=
  ∃ handlers, handlers <:+: jsx.attributes ∧
    DealtOut (EventWired types element.name) element.events.entries handlers stmts

section DealtOut

variable {α β γ δ : Type} {R : α → β → List γ → Prop} {Q : α → β → Prop} {S : δ → γ → Prop}

/-- What is made for the items of all, one by one, is dealt out to those that have the items. -/
theorem dealtOut_of_related {items : α → List δ} {xs : List α} {ys : List β} {zs : List γ}
    (paired : List.Forall₂ Q xs ys) (made : List.Forall₂ S (xs.flatMap items) zs)
    (each : ∀ x y own, Q x y → List.Forall₂ S (items x) own → R x y own) :
    DealtOut R xs ys zs := by
  induction paired generalizing zs with
  | nil =>
    rw [List.flatMap_nil, List.forall₂_nil_left_iff] at made
    rw [made]
    exact .nil
  | cons first _ ih =>
    rw [List.flatMap_cons] at made
    obtain ⟨own, rest, here, others, rfl⟩ := exists_append_related made
    exact .cons (each _ _ own first here) (ih others)

theorem dealtOut_map {items : α → List δ} {f : α → β} {xs : List α} {zs : List γ}
    (made : List.Forall₂ S (xs.flatMap items) zs)
    (each : ∀ x own, List.Forall₂ S (items x) own → R x (f x) own) :
    DealtOut R xs (xs.map f) zs := by
  have paired : List.Forall₂ (fun x y => y = f x) xs (xs.map f) :=
    List.forall₂_map_right_iff.2 (List.forall₂_same.2 fun _ _ => rfl)
  refine dealtOut_of_related paired made fun x y own same here => ?_
  rw [same]
  exact each x own here

end DealtOut

namespace Element

/-- The actions of the own events of an element. -/
def ownActions (element : Element) : List ActionUse :=
  element.events.entries.filterMap fun (key, event) =>
    event.action?.map fun action => ⟨handlerName element.name key, action⟩

theorem actions_eq (root : Element) : root.actions = root.preorder.flatMap ownActions := rfl

theorem inOrder_ownActions (element : Element) :
    ListedInOrder (fun place use => ∃ i key event,
        element.events.entries[i]? = some (key, .action event) ∧ place = [i] ∧
          use = ⟨handlerName element.name key, event⟩)
      element.ownActions := by
  refine (ListedInOrder.filterMap _ _).congr fun place use => ⟨?_, ?_⟩
  · rintro ⟨i, ⟨key, event⟩, listed, given, rfl⟩
    cases event with
    | action event =>
      cases given
      exact ⟨i, key, event, listed, rfl, rfl⟩
    | binding prop => cases given
  · rintro ⟨i, key, event, listed, rfl, rfl⟩
    exact ⟨i, _, listed, rfl, rfl⟩

mutual

theorem inOrder_actions : (element : Element) → ListedInOrder element.ActionAt element.actions
  | ⟨name, type, properties, children, events⟩ => by
    have own := inOrder_ownActions ⟨name, type, properties, children, events⟩
    have below := ListedInOrder.flatMap 0 (inOrder_childActions children)
    rw [actions_eq, preorder, List.flatMap_cons, preorderAll_eq, List.flatMap_assoc]
    refine (ListedFrom.cons own (below.last 1)).inOrder.congr fun place use => ⟨?_, ?_⟩
    · rintro (⟨_, rfl, i, key, event, listed, rfl, rfl⟩ |
        ⟨_, rfl, i, child, place, listed, rfl, there⟩)
      · exact .event listed
      · exact .child listed there
    · intro there
      cases there with
      | event listed => exact .inl ⟨_, rfl, _, _, _, listed, rfl, rfl⟩
      | child listed there => exact .inr ⟨_, rfl, _, _, _, listed, rfl, there⟩

theorem inOrder_childActions : (children : List Element) →
    ∀ child ∈ children, ListedInOrder child.ActionAt (child.preorder.flatMap ownActions)
  | [] => fun _ member => nomatch member
  | child :: children =>
    List.forall_mem_cons.2 ⟨inOrder_actions child, inOrder_childActions children⟩

end

theorem CarriedBy.handlers {usage : Usage} {element : Element} {jsx : JsxElement}
    (carried : element.CarriedBy usage jsx) : element.eventAttributes <:+: jsx.attributes := by
  rcases carried with ⟨attributes, made, present⟩
  rcases attributes_ok made with ⟨properties, _, rfl⟩
  exact (List.suffix_append _ _).isInfix.trans present

end Element

theorem lookup_hookNames {action : Action} (other : action ≠ .mutation) :
    hookNames.lookup action.name = some action.hook.name := by
  cases action with
  | mutation => exact absurd rfl other
  | _ => rfl

theorem ActionUse.boundBy_of_toStmt {types : ElementTypes} {use : ActionUse} {stmt : Stmt}
    (made : use.event.toStmt types use.handler = .ok stmt) : use.BoundBy types stmt := by
  rcases ActionEvent.toStmt_eq_ok.1 made with ⟨mutates, mutation, value, first, given, rfl⟩ |
    ⟨action, argument, named, other, given, rfl⟩
  · exact .setter mutates (ActionEvent.mutation?_eq_some_iff.1 first) given
  · refine .hook ?_ named given
    rw [named]
    exact lookup_hookNames other

namespace ActionUse.BoundBy

variable {types : ElementTypes} {use : ActionUse} {stmt : Stmt}

/-- There is one way to call the hook of an action with its parameters. -/
theorem eq_call {hook : String} {argument : Option Expr} (action : Action)
    (bound : use.BoundBy types stmt) (calls : hookNames.lookup use.event.action = some hook)
    (named : use.event.action = action.name)
    (given : use.event.arguments types action = .ok argument) :
    stmt = .const (.ident use.handler) (.call (.ident hook) argument.toList) := by
  cases bound with
  | hook calls' named' given' =>
    obtain rfl := Action.name_injective (named.symm.trans named')
    obtain rfl := Option.some.inj (calls.symm.trans calls')
    obtain rfl := Except.ok.inj (given.symm.trans given')
    rfl
  | setter mutates _ _ =>
    rw [mutates] at calls
    cases calls

theorem exists_setter {mutation : Mutation} (bound : use.BoundBy types stmt)
    (mutates : use.event.action = "Amplify.Mutation")
    (first : use.event.mutation? = some mutation) :
    ∃ value, stmt = .const (.ident use.handler) (.arrowBlock []
      [.expr (.call (.ident (types.resolve mutation.target).setter) [value])]) := by
  cases bound with
  | hook calls _ _ =>
    rw [mutates] at calls
    cases calls
  | setter _ other _ =>
    obtain rfl :=
      Option.some.inj (first.symm.trans (ActionEvent.mutation?_eq_some_iff.2 other))
    exact ⟨_, rfl⟩

end ActionUse.BoundBy

/-- The handlers of an element name what the statements of its own actions bind. -/
theorem Element.wiredTo_of_bound {types : ElementTypes} {element : Element} {jsx : JsxElement}
    {stmts : List Stmt} (present : element.eventAttributes <:+: jsx.attributes)
    (bound : List.Forall₂ (ActionUse.BoundBy types) element.ownActions stmts) :
    element.WiredTo types jsx stmts := by
  refine ⟨element.eventAttributes, present, ?_⟩
  rw [ownActions, List.filterMap_eq_flatMap_toList] at bound
  rw [eventAttributes]
  refine dealtOut_map bound ?_
  rintro ⟨key, event⟩ own bound
  cases event with
  | action event =>
    obtain ⟨stmt, _, first, none_, rfl⟩ := List.forall₂_cons_left_iff.1 bound
    rw [List.forall₂_nil_left_iff.1 none_]
    exact .action first
  | binding prop =>
    rw [List.forall₂_nil_left_iff.1 bound]
    exact .binding

/-- The actions of a component are those of the events of its tree, in the order of the tree. In a
source file, each has one statement in its place, which binds its handler, and each element has one
attribute for each of its events, which names what the statement of that very event binds. -/
theorem action_wiring (options : SourceOptions) (component : Component) :
    ListedInOrder component.root.ActionAt component.root.actions ∧
      ∀ file, component.render options = .ok file →
        ∃ parts : BodyParts component, parts.file options = file ∧
          List.Forall₂ (ActionUse.BoundBy component.usage.types)
            component.root.actions parts.actions ∧
          DealtOut (Element.WiredTo component.usage.types)
            component.root.preorder parts.markup.preorder parts.actions := by
  refine ⟨component.root.inOrder_actions, fun file rendered => ?_⟩
  rcases Component.render_eq_ok.1 rendered with ⟨_, parts, written⟩
  have bound : List.Forall₂ (ActionUse.BoundBy component.usage.types)
      component.root.actions parts.actions :=
    parts.actions_made.imp fun _ _ made => ActionUse.boundBy_of_toStmt made
  refine ⟨parts, written, bound, ?_⟩
  have carried := Component.rootJsx_carries parts.markup_made
  exact dealtOut_of_related carried bound fun element jsx own carried bound =>
    Element.wiredTo_of_bound carried.handlers bound

/-- Cards of a collection that lead elsewhere, each with buttons that hide it, update its book and
sign the user out. -/
theorem action_wiring_cards :
    let hide : ActionEvent := ⟨"Amplify.Mutation", some ⟨[("state",
      .mutation ⟨⟨"Card", "display"⟩, .fixed ⟨.str "none", trivial⟩ none⟩)], by decide⟩⟩
    let save : ActionEvent := ⟨"Amplify.DataStoreUpdateItemAction",
      some ⟨[("model", .literal "Book")], by decide⟩⟩
    let button (name : String) (event : ActionEvent) : Element :=
      ⟨name, "Button", ∅, [], ⟨[("click", .action event)], List.nodup_singleton _⟩⟩
    let card : Element := ⟨"Card", "Flex", ∅,
      [button "Hide" hide, button "Save" save, button "Leave" (.ofName "Amplify.AuthSignOut")],
      ⟨[("mouseOver", .binding "onHover"), ("click", .action (.ofName "Amplify.Navigation"))],
        by decide⟩⟩
    let component : Component := ⟨none, ⟨"Books", "Collection", ∅, [card], ∅⟩, ∅,
      some ⟨[("items", ⟨"Book", none⟩)], by decide⟩, [], none⟩
    ∃ file, component.render {} = .ok file ∧ ∃ parts : BodyParts component, parts.file {} = file ∧
      ∃ value root item hideButton saveButton leaveButton, parts.actions =
          [.const (.ident "cardClick") (.call (.ident "useNavigateAction") []),
           .const (.ident "hideClick") (.arrowBlock []
             [.expr (.call (.ident "setCardDisplay") [value])]),
           .const (.ident "saveClick") (.call (.ident "useDataStoreUpdateAction")
             [.object [.property (.bare "model") (.ident "Book"),
               .property (.bare "schema") (.ident "schema")] false]),
           .const (.ident "leaveClick") (.call (.ident "useAuthSignOutAction") [])] ∧
        parts.markup.preorder = [root, item, hideButton, saveButton, leaveButton] ∧
        [.named "onMouseOver" (.ident "onHover"), .named "onClick" (.ident "cardClick")] <:+:
          item.attributes ∧
        [.named "onClick" (.ident "hideClick")] <:+: hideButton.attributes ∧
        [.named "onClick" (.ident "saveClick")] <:+: saveButton.attributes ∧
        [.named "onClick" (.ident "leaveClick")] <:+: leaveButton.attributes := by
  intro hide save button card component
  have valid : component.validate = .ok () := by decide
  rcases Component.exists_render {} valid ⟨_, rfl⟩ with ⟨_, rendered⟩
  obtain ⟨parts, written, _, dealt⟩ := (action_wiring {} component).2 _ rendered
  have order : component.root.preorder = component.root :: card :: card.children := by
    simp [component, card, button, Element.preorder, Element.preorderAll]
  have leading : handlerName "Card" "click" = "cardClick" := by decide
  have hidden : handlerName "Hide" "click" = "hideClick" := by decide
  have saved : handlerName "Save" "click" = "saveClick" := by decide
  have left : handlerName "Leave" "click" = "leaveClick" := by decide
  have clicks : eventAttribute "click" = "onClick" := by decide
  have hovers : eventAttribute "mouseOver" = "onMouseOver" := by decide
  have setter : (component.usage.types.resolve ⟨"Card", "display"⟩).setter = "setCardDisplay" := by
    decide
  rw [order] at dealt
  generalize actions : parts.actions = stmts, markup : parts.markup.preorder = elements at dealt
  -- The root has no events, the card has two and each of its buttons has one.
  rcases dealt with _ | ⟨⟨_, _, ⟨⟩⟩, dealt⟩
  rcases dealt with _ | ⟨⟨_, shown, _ | ⟨⟨⟩, _ | ⟨⟨leads⟩, ⟨⟩⟩⟩⟩, dealt⟩
  rcases dealt with _ | ⟨⟨_, onHide, _ | ⟨⟨hides⟩, ⟨⟩⟩⟩, dealt⟩
  rcases dealt with _ | ⟨⟨_, onSave, _ | ⟨⟨saves⟩, ⟨⟩⟩⟩, dealt⟩
  rcases dealt with _ | ⟨⟨_, onLeave, _ | ⟨⟨leaves⟩, ⟨⟩⟩⟩, ⟨⟩⟩
  obtain ⟨value, hides⟩ := hides.exists_setter rfl rfl
  have leads := leads.eq_call .navigation rfl rfl rfl
  have saves := saves.eq_call .updateItem rfl rfl rfl
  have leaves := leaves.eq_call .signOut rfl rfl rfl
  rw [hovers, clicks, leading] at shown
  rw [clicks, hidden] at onHide
  rw [clicks, saved] at onSave
  rw [clicks, left] at onLeave
  refine ⟨_, rendered, parts, written, value, _, _, _, _, _, ?_, markup, shown, onHide, onSave,
    onLeave⟩
  rw [actions, leads, hides, saves, leaves, leading, hidden, saved, left, setter]
  rfl

end JsxGen
