import JsxGen.Schema.Component

/-! What a component uses, gathered from its whole tree before any source is written. -/

namespace JsxGen

/-- The types of the elements by their names; of several elements of one name, the last counts. -/
abbrev ElementTypes := OrderedMap String

/-- The property that elements of a type show as their content. -/
def childProp? (type : String) : Option String :=
  if type ∈ ["Text", "Heading", "Button", "Badge", "Link", "MenuButton", "ToggleButton"] then
    some "label"
  else none

namespace ElementTypes

def childProp? (types : ElementTypes) (element : String) : Option String :=
  (types.get? element).bind JsxGen.childProp?

/-- State of the content of an element is kept under `children`. -/
def resolve (types : ElementTypes) (ref : StateRef) : StateRef :=
  if types.childProp? ref.component = some ref.property then ⟨ref.component, "children"⟩ else ref

end ElementTypes

namespace Property

mutual

def usesAuth : Property → Bool
  | .auth _ => true
  | .concat parts => anyUsesAuth parts
  | .conditional _ yes no => yes.usesAuth || no.usesAuth
  | _ => false

def anyUsesAuth : List Property → Bool
  | [] => false
  | part :: parts => part.usesAuth || anyUsesAuth parts

end

mutual

/-- The states that a property reads, in order. -/
def stateRefs : Property → List StateRef
  | .state ref => [ref]
  | .concat parts => allStateRefs parts
  | .conditional _ yes no => yes.stateRefs ++ no.stateRefs
  | _ => []

def allStateRefs : List Property → List StateRef
  | [] => []
  | part :: parts => part.stateRefs ++ allStateRefs parts

end

end Property

namespace Parameter

def properties : Parameter → List Property
  | .literal _ => []
  | .mutation m => [m.value]
  | .property p => [p]
  | .fields ps => ps.values

/-- The state that a mutation sets comes before the states that its value reads. -/
def stateRefs (parameter : Parameter) : List StateRef :=
  let read := parameter.properties.flatMap Property.stateRefs
  match parameter with
  | .mutation m => m.target :: read
  | _ => read

end Parameter

namespace Element

def parameters (element : Element) : List Parameter :=
  (element.events.values.filterMap Event.action?).flatMap fun event =>
    event.parameterEntries.map Prod.snd

def usesAuth (element : Element) : Bool :=
  element.properties.values.any Property.usesAuth ||
    element.parameters.any fun parameter => parameter.properties.any Property.usesAuth

def stateRefs (element : Element) : List StateRef :=
  element.properties.values.flatMap Property.stateRefs ++
    element.parameters.flatMap Parameter.stateRefs

def types (root : Element) : ElementTypes :=
  .ofList (root.preorder.map fun element => (element.name, element.type))

end Element

/-- Each state, resolved, and each model is listed once, in the order of first use. -/
structure Usage where
  auth : Bool
  models : List String
  states : List StateRef
  types : ElementTypes

def Binding.model? : Binding → Option String
  | .data query => some query.model
  | _ => none

def Component.usage (component : Component) : Usage :=
  let elements := component.root.preorder
  let types := component.root.types
  { auth := elements.any Element.usesAuth
    models := (component.bindings.values.filterMap Binding.model? ++
      component.queries.map (·.2.model)).eraseDups
    states := ((elements.flatMap Element.stateRefs).map types.resolve).eraseDups
    types := types }

end JsxGen
