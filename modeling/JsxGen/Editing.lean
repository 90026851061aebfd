import JsxGen.Schema.Component

/-! Changes to the elements and declarations of a component. -/

namespace JsxGen

namespace Element

/-- The element at the end of a path of child numbers. -/
def at? (element : Element) : List Nat → Option Element
  | [] => some element
  | index :: path =>
    match element.children[index]? with
    | some child => child.at? path
    | none => none

/-- Changes the element at the end of a path, if there is one. -/
def modifyAt (change : Element → Element) (element : Element) : List Nat → Element
  | [] => change element
  | index :: path =>
    match element.children[index]? with
    | some child =>
      { element with children := element.children.set index (child.modifyAt change path) }
    | none => element

def setProperty (key : String) (property : Property) (element : Element) : Element :=
  { element with properties := element.properties.insert key property }

def dropProperty (key : String) (element : Element) : Element :=
  { element with properties := element.properties.erase key }

def setEvent (key : String) (event : Event) (element : Element) : Element :=
  { element with events := element.events.insert key event }

def dropEvent (key : String) (element : Element) : Element :=
  { element with events := element.events.erase key }

def setType (type : String) (element : Element) : Element :=
  { element with type := type }

def addChild (child : Element) (element : Element) : Element :=
  { element with children := element.children ++ [child] }

def dropChild (element : Element) : Element :=
  { element with children := element.children.dropLast }

def rename (name : String) (element : Element) : Element :=
  { element with name := name }

end Element

namespace Component

def modifyAt (path : List Nat) (change : Element → Element) (component : Component) : Component :=
  { component with root := component.root.modifyAt change path }

def setBinding (key : String) (binding : Binding) (component : Component) : Component :=
  { component with bindings := component.bindings.insert key binding }

/-- A component with a query is a collection from then on. -/
def setQuery (key : String) (query : Query) (component : Component) : Component :=
  { component with collections := some ((component.collections.getD ∅).insert key query) }

def clearCollections (component : Component) : Component :=
  { component with collections := none }

def addVariant (variant : Variant) (component : Component) : Component :=
  { component with variants := component.variants ++ [variant] }

def dropVariant (component : Component) : Component :=
  { component with variants := component.variants.dropLast }

end Component

end JsxGen
