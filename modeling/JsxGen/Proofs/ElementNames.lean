import JsxGen.Proofs.InitialState

/-!
Elements looked up by their name. A tree may have several elements of one name: `Element.find?`
gives the first of them, and the type recorded for the name is that of the last. `lookups_agree_iff`
says when the two go together; where they do not, a state may start with a value that is shown under
another property.
-/

namespace JsxGen

open Js

namespace Element

variable {root element : Element}

/-- No element ahead of it in the tree, parents first, has its name. -/
def FirstOfName (root element : Element) : Prop :=
  ∃ before after, root.preorder = before ++ element :: after ∧
    ∀ other ∈ before, other.name ≠ element.name

/-- No element behind it in the tree, parents first, has its name. -/
def LastOfName (root element : Element) : Prop :=
  ∃ before after, root.preorder = before ++ element :: after ∧
    ∀ other ∈ after, other.name ≠ element.name

theorem find?_name_iff : root.find? element.name = some element ↔ root.FirstOfName element := by
  rw [find?, List.find?_eq_some_iff_append, and_iff_right (decide_eq_true rfl)]
  simp only [FirstOfName, Bool.not_eq_true', decide_eq_false_iff_not, ne_eq]

theorem FirstOfName.mem_preorder (first : root.FirstOfName element) : element ∈ root.preorder := by
  rcases first with ⟨before, after, split, _⟩
  rw [split]
  exact List.mem_append_right _ List.mem_cons_self

theorem exists_firstOfName (inside : element ∈ root.preorder) :
    ∃ first, root.FirstOfName first ∧ first.name = element.name := by
  rcases exists_find? inside with ⟨first, found⟩
  have sameName := name_of_find? found
  rw [← sameName] at found
  exact ⟨first, find?_name_iff.1 found, sameName⟩

theorem exists_lastOfName (inside : element ∈ root.preorder) :
    ∃ last, root.LastOfName last ∧ last.name = element.name := by
  -- The last one is the first in the reversed list.
  have known : (root.preorder.reverse.find? (·.name = element.name)).isSome := by
    rw [List.find?_isSome]
    exact ⟨element, List.mem_reverse.2 inside, decide_eq_true rfl⟩
  rcases Option.isSome_iff_exists.1 known with ⟨last, found⟩
  rcases List.find?_eq_some_iff_append.1 found with ⟨sameName, after, before, split, others⟩
  have sameName : last.name = element.name := of_decide_eq_true sameName
  refine ⟨last, ⟨before.reverse, after.reverse, ?_, ?_⟩, sameName⟩
  · calc root.preorder
        = (after ++ last :: before).reverse := by rw [← split, List.reverse_reverse]
      _ = before.reverse ++ last :: after.reverse := by simp
  · intro other behind
    rw [sameName]
    simpa using others other (List.mem_reverse.1 behind)

theorem LastOfName.types_get? (last : root.LastOfName element) :
    root.types.get? element.name = some element.type := by
  rcases last with ⟨before, after, split, others⟩
  rw [types, split, List.map_append, List.map_cons]
  apply OrderedMap.get?_ofList
  intro known
  rw [Entries.keys, List.map_map] at known
  rcases List.mem_map.1 known with ⟨other, behind, sameName⟩
  exact others other behind sameName

end Element

/-- The look-ups agree on all names if the first and the last element of each name have one type. -/
theorem lookups_agree_iff (component : Component) :
    (∀ element ∈ component.root.preorder, component.usage.types.get? element.name =
        (component.root.find? element.name).map Element.type) ↔
      ∀ first last, component.root.FirstOfName first → component.root.LastOfName last →
        first.name = last.name → first.type = last.type := by
  constructor
  · intro agree first last isFirst isLast sameName
    have found := Element.find?_name_iff.2 isFirst
    have recorded := isLast.types_get?
    have same := agree first isFirst.mem_preorder
    rw [found, sameName] at same
    exact (Option.some.inj (recorded.symm.trans same)).symm
  · intro sameTypes element inside
    rcases Element.exists_firstOfName inside with ⟨first, isFirst, firstName⟩
    rcases Element.exists_lastOfName inside with ⟨last, isLast, lastName⟩
    calc component.usage.types.get? element.name
        = some last.type := by
          rw [← lastName]
          exact isLast.types_get?
      _ = some first.type := by
          rw [sameTypes first last isFirst isLast (firstName.trans lastName.symm)]
      _ = (component.root.find? element.name).map Element.type := by
          rw [← firstName, Element.find?_name_iff.2 isFirst]
          rfl

/-- The panel whose button changes the text of a heading, with a box of the same name behind it. -/
def titledPanel : Component :=
  let panel := titlePanel "label"
  let children := panel.root.children.insertIdx 1 (.ofName "Title" "View")
  { panel with root := { panel.root with children } }

/-- The text of the heading starts a state `label`, which the heading shows under `children`. -/
theorem title_typed_as_box :
    let component := titledPanel
    ∃ heading ∈ component.root.preorder, heading.name = "Title" ∧
      component.root.find? "Title" = some heading ∧ heading.type = "Heading" ∧
      component.usage.types.get? "Title" = some "View" ∧
      Element.attributeName heading.type "label" = "children" ∧
      ∃ file, component.render {} = .ok file ∧
        ∃ (parts : BodyParts component) (hook : StateHook), parts.file {} = file ∧
          parts.states = [hook.toStmt] ∧ hook.ref = ⟨"Title", "label"⟩ ∧
          hook.initial = .str "Hello" := by
  intro component
  have valid : component.validate = .ok () := by decide
  have states : component.usage.states = [⟨"Title", "label"⟩] := by decide
  have found : component.root.find? "Title" = some component.root.children[0] := rfl
  rcases Component.exists_render {} valid ⟨_, rfl⟩ with ⟨parts, rendered⟩
  rcases parts.exists_hooks with ⟨hooks, same, refs, made⟩
  rw [states] at refs
  rcases List.map_eq_cons_iff.1 refs with ⟨hook, hooks, rfl, ref, refs⟩
  rcases List.map_eq_nil_iff.1 refs with rfl
  have value := made hook List.mem_cons_self
  rw [ref] at value
  refine ⟨_, Element.mem_preorder_of_child (List.getElem_mem _), rfl, found, rfl, by decide,
    by decide, _, rendered, parts, hook, rfl, same, ref, ?_⟩
  exact (Except.ok.inj value).symm

end JsxGen
