import JsxGen.Proofs.Outcome
import JsxGen.SourceFile

/-!
What a source file that is written consists of. `render_eq_ok` takes a file apart into the
statements of its function; `rootJsx_carries` says that each element of the markup, in the order of
the tree, has the attributes made for its element.
-/

namespace JsxGen

open Js

mutual

/-- The element and all elements below it, parents first, with what a function child returns. -/
def Js.JsxElement.preorder : JsxElement → List JsxElement
  | element@⟨_, _, children⟩ => element :: JsxChild.preorderAll children

def Js.JsxChild.preorderAll : List JsxChild → List JsxElement
  | [] => []
  | .element element :: children => element.preorder ++ JsxChild.preorderAll children
  | .expr (.arrow _ (.jsx element)) :: children =>
    element.preorder ++ JsxChild.preorderAll children
  | .expr _ :: children => JsxChild.preorderAll children

end

namespace Element

theorem preorder_eq (element : Element) :
    element.preorder = element :: preorderAll element.children := by
  cases element
  rw [preorder]

theorem preorderAll_eq (elements : List Element) :
    preorderAll elements = elements.flatMap preorder := by
  induction elements with
  | nil => rw [preorderAll, List.flatMap_nil]
  | cons element elements ih => rw [preorderAll, List.flatMap_cons, ih]

theorem mem_preorder_self (element : Element) : element ∈ element.preorder := by
  rw [preorder_eq]
  exact List.mem_cons_self

theorem mem_preorder_of_child {element child : Element} (member : child ∈ element.children) :
    child ∈ element.preorder := by
  rw [preorder_eq, preorderAll_eq]
  exact List.mem_cons_of_mem _ (List.mem_flatMap_of_mem member child.mem_preorder_self)

end Element

/-- A state with the value that it has at first. -/
structure StateHook where
  ref : StateRef
  initial : Expr

def StateHook.toStmt (hook : StateHook) : Stmt :=
  .const (.array [hook.ref.getter, hook.ref.setter])
    (.call (.ident "useStateMutationAction") [hook.initial])

theorem stateStmt_ok {types : ElementTypes} {root : Element} {ref : StateRef} {stmt : Stmt}
    (h : stateStmt types root ref = .ok stmt) :
    ∃ initial, initialState types root ref = .ok initial ∧
      stmt = StateHook.toStmt ⟨ref, initial⟩ := by
  obtain ⟨initial, given, h⟩ := bind_eq_ok.1 h
  cases h
  exact ⟨initial, given, rfl⟩

/-- The statements of the function that each depend on a step which may fail. -/
structure BodyParts (component : Component) where
  states : List Stmt
  actions : List Stmt
  markup : JsxElement
  states_made : List.Forall₂
    (fun ref stmt => stateStmt component.usage.types component.root ref = .ok stmt)
    component.usage.states states
  actions_made : List.Forall₂
    (fun use stmt => use.event.toStmt component.usage.types use.handler = .ok stmt)
    component.root.actions actions
  markup_made : component.rootJsx component.usage = .ok markup

namespace BodyParts

variable {component : Component}

/-- The statements ahead of those for state. -/
def opening (component : Component) : List Stmt :=
  component.propsStmt :: component.variantStmts propsVariable overridesVariable ++
    (if component.usage.auth then [authStmt] else [])

def stmts (options : SourceOptions) (parts : BodyParts component) : List Stmt :=
  opening component ++ parts.states ++ parts.actions ++
    component.collectionStmts options.relatedSchema ++ [.ret (.jsx parts.markup)]

def file (options : SourceOptions) (parts : BodyParts component) : SourceFile :=
  ⟨functionName component.name, moduleText options.indentWidth
    [.function (functionName component.name) [propsVariable] (parts.stmts options) true]⟩

end BodyParts

namespace Component

variable {options : SourceOptions} {component : Component}

theorem body_eq_ok {body : List Stmt} :
    component.body options = .ok body ↔
      ∃ parts : BodyParts component, parts.stmts options = body := by
  unfold Component.body
  constructor
  · intro h
    obtain ⟨states, states_made, h⟩ := bind_eq_ok.1 h
    obtain ⟨actions, actions_made, h⟩ := bind_eq_ok.1 h
    obtain ⟨markup, markup_made, h⟩ := bind_eq_ok.1 h
    cases h
    exact ⟨⟨states, actions, markup, mapM_eq_ok.1 states_made, mapM_eq_ok.1 actions_made,
      markup_made⟩, rfl⟩
  · intro known
    rcases known with ⟨⟨states, actions, markup, states_made, actions_made, markup_made⟩, rfl⟩
    exact bind_eq_ok.2 ⟨states, mapM_eq_ok.2 states_made, bind_eq_ok.2
      ⟨actions, mapM_eq_ok.2 actions_made, bind_eq_ok.2 ⟨markup, markup_made, rfl⟩⟩⟩

theorem render_eq_ok {file : SourceFile} :
    component.render options = .ok file ↔ component.validate = .ok () ∧
      ∃ parts : BodyParts component, parts.file options = file := by
  unfold Component.render
  constructor
  · intro h
    obtain ⟨_, valid, h⟩ := bind_eq_ok.1 h
    obtain ⟨body, made, h⟩ := bind_eq_ok.1 h
    rcases body_eq_ok.1 made with ⟨parts, rfl⟩
    exact ⟨valid, parts, Except.ok.inj h⟩
  · intro known
    rcases known with ⟨valid, parts, rfl⟩
    exact bind_eq_ok.2 ⟨(), valid, bind_eq_ok.2 ⟨_, body_eq_ok.2 ⟨parts, rfl⟩, rfl⟩⟩

theorem exists_render (options : SourceOptions) (valid : component.validate = .ok ())
    (made : ∃ body, component.body options = .ok body) :
    ∃ parts : BodyParts component, component.render options = .ok (parts.file options) := by
  rcases made with ⟨body, made⟩
  rcases body_eq_ok.1 made with ⟨parts, _⟩
  exact ⟨parts, render_eq_ok.2 ⟨valid, parts, rfl⟩⟩

end Component

/-- The markup has the attributes that are made for the element, one after the other. -/
def Element.CarriedBy (usage : Usage) (element : Element) (jsx : JsxElement) : Prop :=
  ∃ attributes, element.attributes usage = .ok attributes ∧ attributes <:+: jsx.attributes

/-- The attribute of a template that tells its items apart. -/
def keyAttribute : JsxAttribute := .named "key" (.member (.ident "item") "id" false)

/-- The markup has the attributes that are made for the element and then the overrides for it, and
no others but the key of a template. -/
def Element.MadeInto (usage : Usage) (element : Element) (jsx : JsxElement) : Prop :=
  ∃ key attributes, key.Sublist [keyAttribute] ∧ element.attributes usage = .ok attributes ∧
    jsx.attributes = key ++ attributes ++ [overridesSpread element.name]

theorem Element.MadeInto.carriedBy {usage : Usage} {element : Element} {jsx : JsxElement}
    (into : element.MadeInto usage jsx) : element.CarriedBy usage jsx := by
  rcases into with ⟨key, attributes, _, made, split⟩
  exact ⟨attributes, made, key, _, split.symm⟩

theorem Element.toJsx_ok {usage : Usage} {element : Element} {jsx : JsxElement}
    (h : element.toJsx usage = .ok jsx) :
    ∃ attributes inner, element.attributes usage = .ok attributes ∧
      Element.toJsxAll usage element.children = .ok inner ∧
      jsx = ⟨element.type, attributes ++ [overridesSpread element.name], inner.map .element⟩ := by
  rcases element with ⟨name, type, properties, children, events⟩
  rw [toJsx] at h
  obtain ⟨attributes, made, h⟩ := bind_eq_ok.1 h
  obtain ⟨inner, below, h⟩ := bind_eq_ok.1 h
  cases h
  exact ⟨attributes, inner, made, below, rfl⟩

theorem Element.toJsxAll_cons_ok {usage : Usage} {child : Element} {children : List Element}
    {inner : List JsxElement} (h : Element.toJsxAll usage (child :: children) = .ok inner) :
    ∃ first rest, child.toJsx usage = .ok first ∧ Element.toJsxAll usage children = .ok rest ∧
      inner = first :: rest := by
  rw [toJsxAll] at h
  obtain ⟨first, made, h⟩ := bind_eq_ok.1 h
  obtain ⟨rest, others, h⟩ := bind_eq_ok.1 h
  cases h
  exact ⟨first, rest, made, others, rfl⟩

mutual

theorem Element.toJsx_made {usage : Usage} :
    (element : Element) → {jsx : JsxElement} → element.toJsx usage = .ok jsx →
      List.Forall₂ (Element.MadeInto usage) element.preorder jsx.preorder
  | ⟨name, type, properties, children, events⟩, jsx, h => by
    obtain ⟨attributes, inner, made, below, rfl⟩ := toJsx_ok h
    rw [preorder, JsxElement.preorder]
    exact .cons ⟨[], attributes, List.nil_sublist _, made, rfl⟩ (toJsxAll_made children below)

theorem Element.toJsxAll_made {usage : Usage} :
    (children : List Element) → {inner : List JsxElement} →
      Element.toJsxAll usage children = .ok inner →
      List.Forall₂ (Element.MadeInto usage) (Element.preorderAll children)
        (JsxChild.preorderAll (inner.map .element))
  | [], inner, h => by
    cases h
    exact .nil
  | child :: children, inner, h => by
    obtain ⟨first, rest, made, others, rfl⟩ := toJsxAll_cons_ok h
    rw [preorderAll, List.map_cons, JsxChild.preorderAll]
    exact List.rel_append (toJsx_made child made) (toJsxAll_made children others)

end

theorem Component.itemChildren_ok {usage : Usage} {component : Component} {children : List JsxChild}
    (made : component.itemChildren usage = .ok children) :
    (component.root.children = [] ∧ children = []) ∨
      ∃ template item, component.root.children = [template] ∧ template.toJsx usage = .ok item ∧
        children = [.expr (.arrow ["item", "index"]
          (.jsx { item with attributes := keyAttribute :: item.attributes }))] := by
  unfold itemChildren at made
  split at made
  · rename_i empty
    cases made
    exact .inl ⟨empty, rfl⟩
  · rename_i template only
    obtain ⟨item, above, made⟩ := bind_eq_ok.1 made
    cases made
    exact .inr ⟨template, item, only, above, rfl⟩
  · cases made

theorem Component.itemChildren_made {usage : Usage} {component : Component}
    {children : List JsxChild} (h : component.itemChildren usage = .ok children) :
    List.Forall₂ (Element.MadeInto usage) (Element.preorderAll component.root.children)
      (JsxChild.preorderAll children) := by
  rcases itemChildren_ok h with ⟨empty, rfl⟩ | ⟨template, item, only, above, rfl⟩
  · rw [empty]
    exact .nil
  · obtain ⟨attributes, inner, made, below, rfl⟩ := Element.toJsx_ok above
    rw [only, Element.preorderAll, Element.preorderAll, JsxChild.preorderAll, JsxChild.preorderAll,
      List.append_nil, List.append_nil, Element.preorder_eq, JsxElement.preorder]
    exact .cons ⟨[keyAttribute], attributes, List.Sublist.refl _, made, rfl⟩
      (Element.toJsxAll_made _ below)

/-- The root has attributes of its own after those made for its element, and in a collection the
one function child for its template. -/
theorem Component.rootJsx_ok {usage : Usage} {component : Component} {markup : JsxElement}
    (h : component.rootJsx usage = .ok markup) :
    ∃ attributes children, component.root.attributes usage = .ok attributes ∧
      (((∃ collections, component.collections = some collections) ∧
          component.itemChildren usage = .ok children) ∨
        (component.collections = none ∧ ∃ elements,
          Element.toJsxAll usage component.root.children = .ok elements ∧
            children = elements.map .element)) ∧
      markup = ⟨component.root.type, attributes ++
        component.queries.map (fun query => Component.itemsAttribute query.1) ++
          [.spread (.ident restVariable), overridesSpread component.root.name], children⟩ := by
  unfold Component.rootJsx at h
  obtain ⟨attributes, made, h⟩ := bind_eq_ok.1 h
  dsimp only at h
  split at h
  · rename_i collections known
    obtain ⟨children, inner, h⟩ := bind_eq_ok.1 h
    cases h
    exact ⟨attributes, children, made, .inl ⟨⟨collections, known⟩, inner⟩, rfl⟩
  · rename_i single
    obtain ⟨children, inner, h⟩ := bind_eq_ok.1 h
    rcases map_eq_ok.1 inner with ⟨elements, all, same⟩
    cases h
    exact ⟨attributes, children, made, .inr ⟨single, elements, all, same.symm⟩, rfl⟩

theorem Component.rootJsx_carries {usage : Usage} {component : Component} {markup : JsxElement}
    (h : component.rootJsx usage = .ok markup) :
    List.Forall₂ (Element.CarriedBy usage) component.root.preorder markup.preorder := by
  rcases Component.rootJsx_ok h with ⟨attributes, children, made, inner, rfl⟩
  have below : List.Forall₂ (Element.MadeInto usage) (Element.preorderAll component.root.children)
      (JsxChild.preorderAll children) := by
    rcases inner with ⟨_, items⟩ | ⟨_, elements, all, rfl⟩
    · exact Component.itemChildren_made items
    · exact Element.toJsxAll_made component.root.children all
  rw [Element.preorder_eq, JsxElement.preorder, List.append_assoc]
  exact .cons ⟨attributes, made, (List.prefix_append _ _).isInfix⟩
    (below.imp fun _ _ into => into.carriedBy)

end JsxGen
