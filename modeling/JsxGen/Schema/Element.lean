import JsxGen.Schema.Event

/-! The tree of elements that a component consists of. -/

namespace JsxGen

structure Element where
  name : String
  type : String
  properties : OrderedMap Property
  children : List Element
  events : OrderedMap Event

namespace Element

def ofName (name type : String) : Element := ⟨name, type, ∅, [], ∅⟩

mutual

/-- The element and all elements below it, parents first. -/
def preorder : Element → List Element
  | element@⟨_, _, _, children, _⟩ => element :: preorderAll children

def preorderAll : List Element → List Element
  | [] => []
  | child :: children => child.preorder ++ preorderAll children

end

/-- The first element of the tree, in preorder, that is called `name`. -/
def find? (root : Element) (name : String) : Option Element :=
  root.preorder.find? (·.name = name)

open Fields

def decode (reading : Reading) (document : Document) : Decoded Element :=
  document.record reading (Element.mk <$> string "name" <*> string "componentType" <*>
    defaulted "properties" ∅ (fun part => part.1.map fun value => Property.decode value.1) <*>
    defaulted "children" [] (fun part => part.1.list fun child => decode reading child.1) <*>
    defaulted "events" ∅ (fun part => part.1.map fun value => Event.decode value.1))
termination_by sizeOf document
decreasing_by grind

mutual

def encode : Element → Json
  | ⟨name, type, properties, children, events⟩ =>
    .obj [("name", .str name), ("componentType", .str type),
      ("properties", properties.encode Property.encode), ("children", .arr (encodeAll children)),
      ("events", events.encode Event.encode)]

def encodeAll : List Element → List Json
  | [] => []
  | child :: children => child.encode :: encodeAll children

end

end Element

end JsxGen
