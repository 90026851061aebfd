import JsxGen.Proofs.StateHooks

/-!
The values that states have at first. `initial_value_of_declares` says which properties give them:
content that an element with a key of its own for it declares as `children` is lost.
-/

namespace JsxGen

open Js

/-- The property that gives a state its first value, unless it is a state itself. -/
def Element.initialProperty? (root : Element) (ref : StateRef) : Option Property :=
  match root.find? ref.component with
  | none => none
  | some element =>
    match element.properties.get? (attributeSource element ref.property) with
    | none | some (.state _) => none
    | some property => some property

theorem initialState_eq (types : ElementTypes) (root : Element) (ref : StateRef) :
    initialState types root ref =
      match root.initialProperty? ref with
      | none => .ok undefinedExpr
      | some property => property.toExpr types := by
  unfold initialState Element.initialProperty?
  cases root.find? ref.component with
  | none => rfl
  | some element =>
    dsimp only
    cases element.properties.get? (attributeSource element ref.property) with
    | none => rfl
    | some property => cases property <;> rfl

/-- No two elements of the tree have one name. -/
abbrev Element.DistinctNames (root : Element) : Prop := (root.preorder.map Element.name).Nodup

theorem childProp?_ne_children (type : String) : childProp? type ≠ some "children" := by
  unfold childProp?
  split <;> simp

namespace Element

variable {element : Element}

/-- Content has a key of its own in some elements; there, a property `children` is not found. -/
theorem attributeSource_attributeName {key : String}
    (kept : key = "children" → childProp? element.type = none) :
    attributeSource element (attributeName element.type key) = key := by
  unfold attributeSource attributeName
  by_cases content : childProp? element.type = some key
  · rw [if_pos content, if_pos rfl, content, Option.getD_some]
  · rw [if_neg content]
    by_cases direct : key = "children"
    · rw [if_pos direct, kept direct, Option.getD_none, direct]
    · rw [if_neg direct]

theorem attributeName_attributeSource {attribute_ : String}
    (shown : childProp? element.type ≠ some attribute_) :
    attributeName element.type (attributeSource element attribute_) = attribute_ := by
  unfold attributeSource attributeName
  by_cases content : attribute_ = "children"
  · rw [if_pos content]
    cases key : childProp? element.type with
    | none => simp [content]
    | some key => simp [content]
  · rw [if_neg content, if_neg shown]

theorem name_of_find? {root : Element} {name : String} (found : root.find? name = some element) :
    element.name = name := by
  have sameName := List.find?_some found
  exact of_decide_eq_true sameName

theorem exists_find? {root : Element} (inside : element ∈ root.preorder) :
    ∃ first, root.find? element.name = some first := by
  apply Option.isSome_iff_exists.1
  rw [find?, List.find?_isSome]
  exact ⟨element, inside, decide_eq_true rfl⟩

theorem find?_of_mem {root : Element} (distinct : root.DistinctNames)
    (inside : element ∈ root.preorder) : root.find? element.name = some element := by
  rcases exists_find? inside with ⟨other, found⟩
  have same := List.inj_on_of_nodup_map distinct (List.mem_of_find?_eq_some found) inside
    (name_of_find? found)
  rw [found, same]

theorem sameTypes_of_distinct {root : Element}
    (distinct : root.DistinctNames) : root.SameTypes := by
  intro first inside second among sameName
  rw [List.inj_on_of_nodup_map distinct inside among sameName]

theorem initialProperty?_eq_some {root : Element} {ref : StateRef} {property : Property} :
    root.initialProperty? ref = some property ↔ ∃ element, root.find? ref.component = some element ∧
      element.properties.get? (attributeSource element ref.property) = some property ∧
      ∀ other, property ≠ .state other := by
  constructor
  · intro known
    unfold initialProperty? at known
    split at known
    · cases known
    · rename_i element found
      split at known
      · cases known
      · cases known
      · rename_i value other given
        cases known
        exact ⟨element, found, given, other⟩
  · intro known
    rcases known with ⟨element, found, given, value⟩
    unfold initialProperty?
    rw [found]
    dsimp only
    rw [given]
    cases property with
    | state ref => exact absurd rfl (value ref)
    | _ => rfl

/-- The attributes that show the properties of the element. -/
def attributeNames (element : Element) : List String :=
  element.properties.keys.map (attributeName element.type)

/-- The element gives the property for what it shows under the attribute, and not as a state. -/
structure Declares (element : Element) (attribute_ key : String) (property : Property) : Prop where
  declared : (key, property) ∈ element.properties.entries
  shown : attributeName element.type key = attribute_
  value : ∀ ref, property ≠ .state ref

variable {root : Element} {ref : StateRef} {key : String} {property : Property}

theorem Declares.initialProperty? (declares : element.Declares ref.property key property)
    (distinct : root.DistinctNames) (inside : element ∈ root.preorder)
    (own : element.name = ref.component)
    (kept : key = "children" → childProp? element.type = none) :
    root.initialProperty? ref = some property := by
  have source : attributeSource element ref.property = key := by
    rw [← declares.shown, attributeSource_attributeName kept]
  refine initialProperty?_eq_some.2 ⟨element, ?_, ?_, declares.value⟩
  · rw [← own, find?_of_mem distinct inside]
  · rw [source]
    exact OrderedMap.get?_of_mem declares.declared

/-- A property `children` is passed over where another key is the one for content. -/
theorem Declares.initialProperty?_children
    (declares : element.Declares ref.property "children" property)
    (distinct : root.DistinctNames) (inside : element ∈ root.preorder)
    (own : element.name = ref.component)
    (single : element.attributeNames.Nodup)
    (content : childProp? element.type ≠ none) : root.initialProperty? ref = none := by
  obtain ⟨label, content⟩ := Option.ne_none_iff_exists'.1 content
  have other : label ≠ "children" := by
    rintro rfl
    exact childProp?_ne_children _ content
  have direct : attributeName element.type "children" = "children" := by
    rw [attributeName, if_neg (childProp?_ne_children _)]
  have labelled : attributeName element.type label = "children" := by
    rw [attributeName, if_pos content]
  have source : attributeSource element ref.property = label := by
    rw [← declares.shown, direct, attributeSource, if_pos rfl, content, Option.getD_some]
  cases found : root.initialProperty? ref with
  | none => rfl
  | some value =>
    rcases initialProperty?_eq_some.1 found with ⟨known, first, given, _⟩
    rw [← own, find?_of_mem distinct inside] at first
    cases first
    rw [source] at given
    have keys : label ∈ element.properties.keys ∧ "children" ∈ element.properties.keys :=
      ⟨List.mem_map_of_mem (OrderedMap.mem_of_get? given), List.mem_map_of_mem declares.declared⟩
    have same := List.inj_on_of_nodup_map single keys.1 keys.2 (labelled.trans direct.symm)
    exact absurd same other

end Element

/-- State of the content of an element is not listed under the key of the content. -/
theorem Component.childProp?_ne_of_mem_states {component : Component} {ref : StateRef}
    {element : Element} (distinct : component.root.DistinctNames)
    (used : ref ∈ component.usage.states) (inside : element ∈ component.root.preorder)
    (own : element.name = ref.component) : childProp? element.type ≠ some ref.property := by
  have typed := Element.types_get? (Element.sameTypes_of_distinct distinct) inside
  rcases List.mem_map.1 (List.mem_eraseDups.1 used) with ⟨source, _, rfl⟩
  unfold ElementTypes.resolve at own ⊢
  split
  · exact childProp?_ne_children _
  · rename_i unchanged
    rw [if_neg unchanged] at own
    intro content
    apply unchanged
    rw [ElementTypes.childProp?, ← own, typed, Option.bind_some, content]

theorem Component.initialProperty?_eq_none {component : Component} {ref : StateRef}
    (distinct : component.root.DistinctNames)
    (used : ref ∈ component.usage.states)
    (absent : ∀ element ∈ component.root.preorder, element.name = ref.component →
      ∀ key property, ¬element.Declares ref.property key property) :
    component.root.initialProperty? ref = none := by
  cases found : component.root.initialProperty? ref with
  | none => rfl
  | some property =>
    rcases Element.initialProperty?_eq_some.1 found with ⟨element, first, given, value⟩
    have inside := List.mem_of_find?_eq_some first
    have sameName := List.find?_some first
    have own : element.name = ref.component := of_decide_eq_true sameName
    have shown := Element.attributeName_attributeSource
      (Component.childProp?_ne_of_mem_states distinct used inside own)
    exact absurd ⟨OrderedMap.mem_of_get? given, shown, value⟩ (absent element inside own _ property)

/-- What each state is at first, where no two elements have one name: the value that its element
declares for what it shows, unless the element declares `children` in place of its own key for
content. -/
theorem initial_value_of_declares {options : SourceOptions} {component : Component}
    {file : SourceFile} (distinct : component.root.DistinctNames)
    (rendered : component.render options = .ok file) :
    ∃ (parts : BodyParts component) (hooks : List StateHook), parts.file options = file ∧
      parts.states = hooks.map StateHook.toStmt ∧
      hooks.map StateHook.ref = component.usage.states ∧ ∀ hook ∈ hooks,
        (∀ element ∈ component.root.preorder, element.name = hook.ref.component →
          element.attributeNames.Nodup → ∀ key property,
            element.Declares hook.ref.property key property →
            if key = "children" ∧ childProp? element.type ≠ none then
              hook.initial = undefinedExpr
            else property.toExpr component.usage.types = .ok hook.initial) ∧
        ((∀ element ∈ component.root.preorder, element.name = hook.ref.component →
          ∀ key property, ¬element.Declares hook.ref.property key property) →
          hook.initial = undefinedExpr) := by
  rcases Component.render_eq_ok.1 rendered with ⟨_, parts, written⟩
  rcases parts.exists_hooks with ⟨hooks, same, refs, made⟩
  refine ⟨parts, hooks, written, same, refs, fun hook member => ⟨?_, ?_⟩⟩
  · intro element inside own single key property declares
    have value := made hook member
    rw [initialState_eq] at value
    split
    · rename_i direct
      obtain ⟨rfl, content⟩ := direct
      rw [declares.initialProperty?_children distinct inside own single content] at value
      exact (Except.ok.inj value).symm
    · rename_i kept
      rw [declares.initialProperty? distinct inside own (by simpa using kept)] at value
      exact value
  · intro absent
    have used : hook.ref ∈ component.usage.states := refs ▸ List.mem_map_of_mem member
    have value := made hook member
    rw [initialState_eq, Component.initialProperty?_eq_none distinct used absent] at value
    exact (Except.ok.inj value).symm

/-- A heading with a text, and a button that changes the text of the heading. -/
def titlePanel (key : String) : Component :=
  let title : Element := ⟨"Title", "Heading",
    ⟨[(key, .fixed ⟨.str "Hello", trivial⟩ none)], by simp [Entries.keys]⟩, [], ∅⟩
  let click : ActionEvent := ⟨"Amplify.Mutation",
    some ⟨[("state", .mutation ⟨⟨"Title", "label"⟩, .fixed ⟨.str "Bye", trivial⟩ none⟩)],
      by decide⟩⟩
  let toggle : Element := ⟨"Toggle", "Button", ∅, [], ⟨[("click", .action click)], by decide⟩⟩
  ⟨none, ⟨"Panel", "View", ∅, [title, toggle], ∅⟩, ∅, none, [], none⟩

theorem initial_value_of_label :
    let component := titlePanel "label"
    ∃ file, component.root.DistinctNames ∧ component.render {} = .ok file ∧
      ∃ (parts : BodyParts component) (hook : StateHook), parts.file {} = file ∧
        parts.states = [hook.toStmt] ∧ hook.ref = ⟨"Title", "children"⟩ ∧
        hook.initial = .str "Hello" := by
  intro component
  have distinct : component.root.DistinctNames := by decide
  have valid : component.validate = .ok () := by decide
  have states : component.usage.states = [⟨"Title", "children"⟩] := by decide
  rcases Component.exists_render {} valid ⟨_, rfl⟩ with ⟨_, rendered⟩
  rcases initial_value_of_declares distinct rendered with ⟨parts, hooks, written, same, refs, values⟩
  rw [states] at refs
  obtain ⟨hook, hooks, rfl, ref, refs⟩ := List.map_eq_cons_iff.1 refs
  obtain rfl := List.map_eq_nil_iff.1 refs
  refine ⟨_, distinct, rendered, parts, hook, written, same, ref, ?_⟩
  have value := (values hook List.mem_cons_self).1
  rw [ref] at value
  have kept := value component.root.children[0]
    (Element.mem_preorder_of_child (List.getElem_mem _)) rfl (by decide) "label" _
    ⟨List.mem_cons_self, by decide, by simp⟩
  rw [if_neg (by decide)] at kept
  exact (Except.ok.inj kept).symm

/-- The text is lost where it is declared as `children`. -/
theorem children_lost :
    let component := titlePanel "children"
    ∃ file, component.root.DistinctNames ∧ component.render {} = .ok file ∧
      ∃ (parts : BodyParts component) (hook : StateHook), parts.file {} = file ∧
        parts.states = [hook.toStmt] ∧ hook.ref = ⟨"Title", "children"⟩ ∧
        (∃ title ∈ component.root.preorder, title.name = "Title" ∧
          ∃ property, title.Declares "children" "children" property ∧
            property.toExpr component.usage.types = .ok (.str "Hello")) ∧
        hook.initial = undefinedExpr := by
  intro component
  have distinct : component.root.DistinctNames := by decide
  have valid : component.validate = .ok () := by decide
  have states : component.usage.states = [⟨"Title", "children"⟩] := by decide
  rcases Component.exists_render {} valid ⟨_, rfl⟩ with ⟨parts, rendered⟩
  rcases parts.exists_hooks with ⟨hooks, same, refs, made⟩
  rw [states] at refs
  obtain ⟨hook, hooks, rfl, ref, refs⟩ := List.map_eq_cons_iff.1 refs
  obtain rfl := List.map_eq_nil_iff.1 refs
  have inside : component.root.children[0] ∈ component.root.preorder :=
    Element.mem_preorder_of_child (List.getElem_mem _)
  have declares : component.root.children[0].Declares "children" "children"
      (.fixed ⟨.str "Hello", trivial⟩ none) := ⟨List.mem_cons_self, by decide, by simp⟩
  have value := made hook List.mem_cons_self
  rw [initialState_eq, ref, Element.Declares.initialProperty?_children declares distinct inside rfl
    (by decide) (by decide)] at value
  exact ⟨_, distinct, rendered, parts, hook, rfl, same, ref,
    ⟨_, inside, rfl, _, declares, rfl⟩, (Except.ok.inj value).symm⟩

end JsxGen
