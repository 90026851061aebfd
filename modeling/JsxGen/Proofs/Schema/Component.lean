import JsxGen.Proofs.Schema.Binding
import JsxGen.Proofs.Schema.Element
import JsxGen.Schema.Component
import Mathlib.Data.List.Permutation

/-!
Components written as JSON and decoded again. All parts come back but the fields of a parameter whose
names are keys of properties (`Component.redecode_iff`).
-/

namespace JsxGen

open Document Fields

namespace Variant

theorem encode_distinct (variant : Variant) : variant.encode.Distinct := by
  have values : (variant.values.encode .str).Distinct :=
    OrderedMap.encode_distinct fun _ _ => trivial
  have overrides : (variant.overrides.encode (·.json)).Distinct :=
    OrderedMap.encode_distinct fun value _ => value.distinct
  simp [encode, Json.Distinct, Json.FieldsDistinct, values, overrides]

theorem decode_ofJson_encode (reading : Reading) (variant : Variant) :
    decode reading (ofJson variant.encode) = .ok variant := by
  have distinct := variant.encode_distinct
  have values : (ofJson (variant.values.encode .str)).map (fun value => value.1.string) =
      .ok variant.values :=
    OrderedMap.map_encode_self fun _ _ => rfl
  have overrides : (ofJson (variant.overrides.encode (·.json))).map
      (fun value => value.1.literal) = .ok variant.overrides :=
    OrderedMap.map_encode_self fun value _ => literal_ofJson value
  rw [encode] at distinct ⊢
  rw [← toOption_eq_some, ofJson_obj, decode, record_ofJson]
  simp only [read_seq, read_map,
    read_required distinct.1 "variantValues"
      fun document => document.map fun value => value.1.string,
    read_defaulted distinct.1 "overrides" ∅
      fun document => document.map fun value => value.1.literal]
  simp [List.lookup_cons, values, overrides]

end Variant

namespace Component

theorem encode_distinct (component : Component) : component.encode.Distinct := by
  have properties : (component.root.properties.encode Property.encode).Distinct :=
    OrderedMap.encode_distinct fun property _ => property.encode_distinct
  have bindings : (component.bindings.encode Binding.encode).Distinct :=
    OrderedMap.encode_distinct fun binding _ => binding.encode_distinct
  have queries : ∀ queries ∈ component.collections, (queries.encode Query.encode).Distinct :=
    fun queries _ => OrderedMap.encode_distinct fun query _ => query.encode_distinct
  have children := Element.encodeAll_distinct component.root.children
  have events : (component.root.events.encode Event.encode).Distinct :=
    OrderedMap.encode_distinct fun event _ => event.encode_distinct
  have variants : Json.AllDistinct (component.variants.map Variant.encode) :=
    Json.allDistinct_iff.2 (List.forall_mem_map.2 fun variant _ => variant.encode_distinct)
  unfold encode
  cases component.id <;> cases collections : component.collections <;>
    cases component.schemaVersion <;>
    simp_all [Json.Distinct, Json.FieldsDistinct, Json.field?]

/-- The component as it comes back from its JSON. -/
def settled (component : Component) : Component :=
  { component with
    root := component.root.settled
    bindings := component.bindings.map Binding.settled
    collections := component.collections.map (·.map Query.settled) }

theorem decode_ofJson_encode (reading : Reading) (component : Component) :
    decode reading (ofJson component.encode) = .ok component.settled := by
  have distinct := component.encode_distinct
  have properties : (ofJson (component.root.properties.encode Property.encode)).map
      (fun value => Property.decode value.1) = .ok component.root.properties :=
    OrderedMap.map_encode_self fun property _ => property.decode_ofJson_encode
  have bindings : (ofJson (component.bindings.encode Binding.encode)).map
      (fun value => Binding.decode value.1) = .ok (component.bindings.map Binding.settled) :=
    OrderedMap.map_encode fun binding _ => binding.decode_ofJson_encode
  have queries := orAbsent_map_encode component.collections fun _ _ query _ =>
    query.decode_ofJson_encode reading
  have children : (ofJson (.arr (Element.encodeAll component.root.children))).list
      (fun child => Element.decode reading child.1) =
        .ok (Element.settledAll component.root.children) := by
    rw [list_ofJson (Element.decode reading), Element.encodeAll_eq_map, List.mapM_map]
    exact Element.mapM_decode_encode reading component.root.children
  have events : (ofJson (component.root.events.encode Event.encode)).map
      (fun value => Event.decode value.1) = .ok (component.root.events.map Event.settled) :=
    OrderedMap.map_encode fun event _ => event.decode_ofJson_encode
  have variants : (ofJson (.arr (component.variants.map Variant.encode))).list
      (fun value => Variant.decode reading value.1) = .ok component.variants :=
    list_map_ofJson fun variant _ => variant.decode_ofJson_encode reading
  rw [encode] at distinct ⊢
  rw [← toOption_eq_some, ofJson_obj, decode, record_ofJson]
  simp only [read_seq, read_map, read_string distinct.1, read_string? distinct.1,
    read_defaulted distinct.1 "properties" ∅
      fun document => document.map fun value => Property.decode value.1,
    read_defaulted distinct.1 "bindingProperties" ∅
      fun document => document.map fun value => Binding.decode value.1,
    read_optional distinct.1 "collectionProperties"
      fun document => document.map fun value => Query.decode reading value.1,
    read_defaulted distinct.1 "children" []
      fun document => document.list fun child => Element.decode reading child.1,
    read_defaulted distinct.1 "events" ∅
      fun document => document.map fun value => Event.decode value.1,
    read_defaulted distinct.1 "variants" []
      fun document => document.list fun value => Variant.decode reading value.1]
  simp [List.lookup_append, List.lookup_cons, Json.text?, properties, bindings, queries, children,
    events, variants, settled, Element.settled_eq, Component.ofFields]

variable {reading : Reading} {document : Document} {component : Component}

/-- The queries of a decoded component have no predicate that is lost. -/
theorem queries_settled_of_decode (decoded : decode reading document = .ok component) :
    component.bindings.map Binding.settled = component.bindings ∧
      component.collections.map (·.map Query.settled) = component.collections := by
  obtain ⟨_, version, given₁, _, rfl⟩ := (record_gives decoded).seq
  obtain ⟨_, variants, given₂, _, rfl⟩ := given₁.seq
  obtain ⟨_, events, given₃, _, rfl⟩ := given₂.seq
  obtain ⟨_, children, given₄, _, rfl⟩ := given₃.seq
  obtain ⟨_, collections, given₅, foundQueries, rfl⟩ := given₄.seq
  obtain ⟨_, bindings, given₆, foundBindings, rfl⟩ := given₅.seq
  obtain ⟨_, properties, given₇, _, rfl⟩ := given₆.seq
  obtain ⟨_, type, given₈, _, rfl⟩ := given₇.seq
  obtain ⟨_, name, given₉, _, rfl⟩ := given₈.seq
  obtain ⟨id, _, rfl⟩ := given₉.map
  constructor
  · refine OrderedMap.map_eq_self_iff.2 fun binding member => ?_
    obtain absent | ⟨part, read⟩ := foundBindings.field
    · cases absent
      cases member
    · obtain ⟨value, read⟩ := exists_of_map read member
      exact Binding.settled_of_decode read
  · cases collections with
    | none => rfl
    | some queries =>
      obtain ⟨part, _, read⟩ := foundQueries.optional
      refine congrArg some (OrderedMap.map_eq_self_iff.2 fun query member => ?_)
      obtain ⟨value, read⟩ := exists_of_map read member
      exact Query.settled_of_decode read

/-- All fields of parameters in the tree are told apart from properties. -/
def FieldsApart (component : Component) : Prop :=
  ∀ element ∈ component.root.preorder, ∀ event ∈ element.events.values, event.FieldsApart

/-- A decoded component that is written is decoded again, and it comes back as it was if and only if
the fields of its parameters are told apart from properties. -/
theorem redecode_iff {again : Reading} (decoded : decode reading document = .ok component) :
    (∃ other, decode again (ofJson component.encode) = .ok other) ∧
      (decode again (ofJson component.encode) = .ok component ↔ component.FieldsApart) := by
  have back := component.decode_ofJson_encode again
  obtain ⟨bindings, queries⟩ := queries_settled_of_decode decoded
  refine ⟨⟨_, back⟩, ?_⟩
  rw [back, FieldsApart, ← Element.settled_eq_self_iff, settled, bindings, queries]
  constructor
  · intro same
    exact congrArg root (Except.ok.inj same)
  · intro same
    rw [same]

/-- A view that creates an item from a parameter when it is clicked. -/
def creating (parameter : Parameter) : Component where
  id := none
  root := ⟨"Form", "View", ∅, [], .ofList [("click",
    .action ⟨"Amplify.DataStoreCreateItemAction", some (.ofList [("fields", parameter)])⟩)]⟩
  bindings := ∅
  collections := none
  variants := []
  schemaVersion := none

/-- A document for such a view, with the parameter as it is written in it. -/
def creatingJson (parameter : Json) : Json :=
  .obj [("name", .str "Form"), ("componentType", .str "View"),
    ("events", .obj [("click", .obj [("action", .str "Amplify.DataStoreCreateItemAction"),
      ("parameters", .obj [("fields", parameter)])])])]

/-- The parameter that sets the one field `name` to what an input holds. -/
def fromInput (name : String) : Parameter :=
  .fields (.ofList [(name, .state ⟨"Input", "value"⟩)])

/-- A reference to state; the member `field` is of no use to it and is skipped. -/
def inputJson : Json :=
  .obj [("componentName", .str "Input"), ("property", .str "value"), ("field", .bool true)]

theorem redecode_title :
    decode .held (ofJson (creatingJson (.obj [("title", inputJson)]))) =
        .ok (creating (fromInput "title")) ∧
      decode .held (ofJson (creating (fromInput "title")).encode) =
        .ok (creating (fromInput "title")) := by
  have decoded : decode .held (ofJson (creatingJson (.obj [("title", inputJson)]))) =
      .ok (creating (fromInput "title")) := by cbv
  have apart : (creating (fromInput "title")).FieldsApart := by
    intro element inside event known action acting entry listed
    rw [creating, Element.preorder, Element.preorderAll, List.mem_singleton] at inside
    subst inside
    cases List.mem_singleton.1 known
    cases acting
    cases List.mem_singleton.1 listed
    exact OrderedMap.fieldsApart_of_not_mem _ (by decide)
  exact ⟨decoded, (redecode_iff decoded).2.2 apart⟩

/-- Without the member that was skipped, the field is taken for a prop. -/
theorem redecode_bindingProperties :
    decode .held (ofJson (creatingJson (.obj [("bindingProperties", inputJson)]))) =
        .ok (creating (fromInput "bindingProperties")) ∧
      decode .held (ofJson (creating (fromInput "bindingProperties")).encode) ≠
        .ok (creating (fromInput "bindingProperties")) := by
  constructor
  · cbv
  · have back : decode .held (ofJson (creating (fromInput "bindingProperties")).encode) =
        .ok (creating (.property (.bound ⟨"value", none⟩ none))) :=
      decode_ofJson_encode .held _
    rw [back]
    intro same
    cases same

end Component

end JsxGen
