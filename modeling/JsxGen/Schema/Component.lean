import JsxGen.Schema.Binding
import JsxGen.Schema.Breakpoint
import JsxGen.Schema.Element

/-! Components: a tree of elements with the props, queries and variants declared for it. -/

namespace JsxGen

/-- Overrides that apply where the props have the given values. -/
structure Variant where
  values : OrderedMap String
  overrides : OrderedMap Literal

structure Component where
  id : Option String
  root : Element
  bindings : OrderedMap Binding
  collections : Option (OrderedMap Query)
  variants : List Variant
  schemaVersion : Option String

namespace Variant

open Fields

def decode (reading : Reading) (document : Document) : Decoded Variant :=
  document.record reading (Variant.mk <$>
    required "variantValues" (fun part => part.1.map fun value => value.1.string) <*>
    defaulted "overrides" ∅ (fun part => part.1.map fun value => value.1.literal))

def encode (variant : Variant) : Json :=
  .obj [("variantValues", variant.values.encode .str),
    ("overrides", variant.overrides.encode (·.json))]

end Variant

namespace Component

def name (component : Component) : String := component.root.name

/-- The queries of a collection; none if the component is not a collection. -/
def queries (component : Component) : List (String × Query) :=
  match component.collections with
  | some collections => collections.entries
  | none => []

/-- The sizes that some variant is meant for, smallest first. -/
def breakpoints (component : Component) : List Breakpoint :=
  Breakpoint.all.filter fun size =>
    component.variants.any fun variant => variant.values.get? "breakpoint" = some size.name

open Fields

def ofFields (id : Option String) (name type : String) (properties : OrderedMap Property)
    (bindings : OrderedMap Binding) (collections : Option (OrderedMap Query))
    (children : List Element) (events : OrderedMap Event) (variants : List Variant)
    (schemaVersion : Option String) : Component :=
  ⟨id, ⟨name, type, properties, children, events⟩, bindings, collections, variants, schemaVersion⟩

def decode (reading : Reading) (document : Document) : Decoded Component :=
  document.record reading (ofFields <$> string? "id" <*> string "name" <*>
    string "componentType" <*>
    defaulted "properties" ∅ (fun part => part.1.map fun value => Property.decode value.1) <*>
    defaulted "bindingProperties" ∅ (fun part => part.1.map fun value => Binding.decode value.1) <*>
    optional "collectionProperties"
      (fun part => part.1.map fun value => Query.decode reading value.1) <*>
    defaulted "children" [] (fun part => part.1.list fun child => Element.decode reading child.1) <*>
    defaulted "events" ∅ (fun part => part.1.map fun value => Event.decode value.1) <*>
    defaulted "variants" []
      (fun part => part.1.list fun value => Variant.decode reading value.1) <*>
    string? "schemaVersion")

def encode (component : Component) : Json :=
  let root := component.root
  .obj (Json.field? "id" (component.id.map .str) ++
    [("name", .str root.name), ("componentType", .str root.type),
     ("properties", root.properties.encode Property.encode),
     ("bindingProperties", component.bindings.encode Binding.encode)] ++
    Json.field? "collectionProperties" (component.collections.map (·.encode Query.encode)) ++
    [("children", .arr (Element.encodeAll root.children)),
     ("events", root.events.encode Event.encode),
     ("variants", .arr (component.variants.map Variant.encode))] ++
    Json.field? "schemaVersion" (component.schemaVersion.map .str))

end Component

end JsxGen
