import JsxGen.Proofs.StateWiring

/-!
The markup of a component mirrors its tree of elements. `markup_mirrors_tree` says that both have
the same outline, and that the spreads of each element of the markup are those for its own element.
-/

namespace JsxGen

open Js

/-- Markup without its attributes; any expression but a function that returns markup is code. -/
inductive Outline where
  | element (tag : String) (children : List Outline)
  | function (params : List String) (body : Outline)
  | code

mutual

def Js.JsxElement.outline : JsxElement → Outline
  | ⟨tag, _, children⟩ => .element tag (JsxChild.outlines children)

def Js.JsxChild.outlines : List JsxChild → List Outline
  | [] => []
  | .element element :: children => element.outline :: JsxChild.outlines children
  | .expr (.arrow params (.jsx element)) :: children =>
    .function params element.outline :: JsxChild.outlines children
  | .expr _ :: children => .code :: JsxChild.outlines children

end

mutual

def Element.outline : Element → Outline
  | ⟨_, type, _, children, _⟩ => .element type (Element.outlines children)

def Element.outlines : List Element → List Outline
  | [] => []
  | child :: children => child.outline :: Element.outlines children

end

/-- The child of a collection is the template of each item. -/
def Component.outline (component : Component) : Outline :=
  match component.collections with
  | none => component.root.outline
  | some _ => .element component.root.type
    ((Element.outlines component.root.children).map (.function ["item", "index"]))

/-- The attributes of the markup that have names come first, and the others spread these values. -/
def Js.JsxElement.EndsIn (sources : List Expr) (jsx : JsxElement) : Prop :=
  ∃ named, (∀ attribute_ ∈ named, ∃ name value, attribute_ = .named name value) ∧
    jsx.attributes = named ++ sources.map .spread

/-- What the caller of a component overrides on the elements of a name. -/
def overridesFor (name : String) : Expr :=
  .call (.ident "getOverrideProps") [.ident "overrides", .str name]

namespace Element

variable {usage : Usage} {element : Element}

theorem outline_eq (element : Element) :
    element.outline = .element element.type (outlines element.children) := by
  cases element
  rw [outline]

theorem attributes_named {attributes : List JsxAttribute}
    (made : element.attributes usage = .ok attributes) :
    ∀ attribute_ ∈ attributes, ∃ name value, attribute_ = .named name value := by
  rcases attributes_ok made with ⟨properties, each, rfl⟩
  intro attribute_ member
  rcases List.mem_append.1 member with member | member
  · rcases List.mem_append.1 member with member | member
    · rcases exists_source each member with ⟨entry, _, evaluated⟩
      rcases propertyAttribute_ok evaluated with ⟨value, rfl, _⟩
      exact ⟨_, value, rfl⟩
    · rcases mem_stateAttributes.1 member with ⟨ref, _, _, _, rfl⟩
      exact ⟨_, _, rfl⟩
  · rcases List.mem_map.1 member with ⟨entry, _, rfl⟩
    exact ⟨_, _, rfl⟩

mutual

theorem toJsx_outline : (element : Element) → {jsx : JsxElement} →
    element.toJsx usage = .ok jsx → jsx.outline = element.outline
  | ⟨name, type, properties, children, events⟩, jsx, made => by
    obtain ⟨attributes, inner, _, below, rfl⟩ := toJsx_ok made
    rw [JsxElement.outline, toJsxAll_outlines children below, outline]

theorem toJsxAll_outlines : (children : List Element) → {inner : List JsxElement} →
    toJsxAll usage children = .ok inner →
      JsxChild.outlines (inner.map .element) = outlines children
  | [], inner, made => by
    cases made
    rw [List.map_nil, JsxChild.outlines, outlines]
  | child :: children, inner, made => by
    obtain ⟨first, rest, above, others, rfl⟩ := toJsxAll_cons_ok made
    rw [List.map_cons, JsxChild.outlines, toJsx_outline child above,
      toJsxAll_outlines children others, outlines]

end

/-- Besides attributes with names, the markup has the overrides for the element. -/
def Closes (element : Element) (jsx : JsxElement) : Prop :=
  jsx.EndsIn [overridesFor element.name]

/-- The key of a template has a name, so that the overrides stay the only spread. -/
theorem MadeInto.closes {jsx : JsxElement} (into : element.MadeInto usage jsx) :
    element.Closes jsx := by
  rcases into with ⟨key, attributes, template, made, split⟩
  refine ⟨key ++ attributes, List.forall_mem_append.2 ⟨?_, attributes_named made⟩, split⟩
  intro attribute_ member
  exact ⟨_, _, List.mem_singleton.1 (template.subset member)⟩

theorem toJsxAll_closes (children : List Element) {inner : List JsxElement}
    (made : toJsxAll usage children = .ok inner) :
    List.Forall₂ Closes (preorderAll children) (JsxChild.preorderAll (inner.map .element)) :=
  (toJsxAll_made children made).imp fun _ _ into => into.closes

end Element

theorem Component.itemChildren_outlines {usage : Usage} {component : Component}
    {children : List JsxChild} (made : component.itemChildren usage = .ok children) :
    JsxChild.outlines children =
      (Element.outlines component.root.children).map (.function ["item", "index"]) := by
  rcases itemChildren_ok made with ⟨empty, rfl⟩ | ⟨template, item, only, above, rfl⟩
  · rw [empty, Element.outlines, JsxChild.outlines, List.map_nil]
  · have same := Element.toJsx_outline template above
    rcases item with ⟨tag, attributes, inner⟩
    rw [JsxElement.outline] at same
    rw [only, Element.outlines, Element.outlines, JsxChild.outlines, JsxChild.outlines,
      JsxElement.outline, same, List.map_singleton]

theorem Component.itemChildren_closes {usage : Usage} {component : Component}
    {children : List JsxChild} (made : component.itemChildren usage = .ok children) :
    List.Forall₂ Element.Closes (Element.preorderAll component.root.children)
      (JsxChild.preorderAll children) :=
  (itemChildren_made made).imp fun _ _ into => into.closes

/-- The outline of the markup is that of the tree, where the one child that a collection may have
stands in a function. In the order of the tree, each element ends in the overrides for its own name;
the root alone has the rest of the props spread ahead of them. -/
theorem markup_mirrors_tree {usage : Usage} {component : Component} {markup : JsxElement}
    (made : component.rootJsx usage = .ok markup) :
    markup.outline = component.outline ∧
      markup.EndsIn [.ident "rest", overridesFor component.root.name] ∧
      List.Forall₂ Element.Closes (Element.preorderAll component.root.children)
        (JsxChild.preorderAll markup.children) ∧
      (component.collections ≠ none →
        (component.root.children = [] ∧ markup.children = []) ∨
        ∃ template item others, component.root.children = [template] ∧
          markup.children = [.expr (.arrow ["item", "index"] (.jsx item))] ∧
          item.attributes = .named "key" (.member (.ident "item") "id" false) :: others) := by
  rcases Component.rootJsx_ok made with ⟨attributes, children, own, inner, rfl⟩
  have ends : JsxElement.EndsIn [.ident "rest", overridesFor component.root.name]
      ⟨component.root.type, attributes ++
        component.queries.map (fun query => Component.itemsAttribute query.1) ++
          [.spread (.ident restVariable), overridesSpread component.root.name], children⟩ := by
    refine ⟨_, List.forall_mem_append.2 ⟨Element.attributes_named own, ?_⟩, rfl⟩
    exact List.forall_mem_map.2 fun query _ => ⟨_, _, rfl⟩
  rw [JsxElement.outline, Component.outline]
  rcases inner with ⟨⟨collections, known⟩, inner⟩ | ⟨single, elements, all, rfl⟩
  · rw [known, Component.itemChildren_outlines inner]
    refine ⟨rfl, ends, Component.itemChildren_closes inner, fun _ => ?_⟩
    rcases Component.itemChildren_ok inner with none_ | ⟨template, item, only, _, rfl⟩
    · exact .inl none_
    · exact .inr ⟨template, _, item.attributes, only, rfl, rfl⟩
  · rw [single, Element.toJsxAll_outlines _ all, Element.outline_eq]
    exact ⟨rfl, ends, Element.toJsxAll_closes _ all, fun collection => absurd rfl collection⟩

/-- A collection of cards that each show a title above a text. -/
theorem markup_mirrors_tree_cards :
    let card : Element := ⟨"Card", "Flex", ∅,
      [⟨"Title", "Heading", ⟨[("label", .collectionBound ⟨"items", some "title"⟩ none)], by decide⟩,
        [], ∅⟩, .ofName "Summary" "Text"], ∅⟩
    let component : Component := ⟨none, ⟨"Books", "Collection", ∅, [card], ∅⟩, ∅,
      some ⟨[("items", ⟨"Book", none⟩)], by decide⟩, [], none⟩
    ∃ markup, component.rootJsx component.usage = .ok markup ∧
      markup.outline = .element "Collection" [.function ["item", "index"]
        (.element "Flex" [.element "Heading" [], .element "Text" []])] ∧
      markup.EndsIn
        [.ident "rest", .call (.ident "getOverrideProps") [.ident "overrides", .str "Books"]] ∧
      ∃ item title summary others,
        markup.children = [.expr (.arrow ["item", "index"] (.jsx item))] ∧
          item.attributes = .named "key" (.member (.ident "item") "id" false) :: others ∧
          item.preorder = [item, title, summary] ∧ item.EndsIn [overridesFor "Card"] ∧
          title.EndsIn [overridesFor "Title"] ∧ summary.EndsIn [overridesFor "Summary"] := by
  intro card component
  have written : ∃ markup, component.rootJsx component.usage = .ok markup := ⟨_, rfl⟩
  rcases written with ⟨markup, made⟩
  rcases markup_mirrors_tree made with ⟨same, ends, closes, template⟩
  rcases template (by simp [component]) with ⟨empty, _⟩ | ⟨_, item, others, _, only, first⟩
  · cases empty
  · have order : Element.preorderAll component.root.children =
        card :: card.children := by
      simp [component, card, Element.ofName, Element.preorder, Element.preorderAll]
    rcases item with ⟨tag, attributes, inner⟩
    rw [only, order, JsxChild.preorderAll, JsxChild.preorderAll, List.append_nil,
      JsxElement.preorder] at closes
    rcases closes with _ | ⟨closed, closes⟩
    obtain ⟨title, _, second, more, split⟩ := List.forall₂_cons_left_iff.1 closes
    obtain ⟨summary, _, third, none_, rfl⟩ := List.forall₂_cons_left_iff.1 more
    obtain rfl := List.forall₂_nil_left_iff.1 none_
    have elements : (JsxElement.mk tag attributes inner).preorder =
        [⟨tag, attributes, inner⟩, title, summary] := by
      rw [JsxElement.preorder, split]
    exact ⟨markup, made, same, ends, _, title, summary, others, only, first, elements, closed,
      second, third⟩

end JsxGen
