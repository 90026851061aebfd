import JsxGen.InputError
import JsxGen.Schema.Component
import JsxGen.Text.Blank
import JsxGen.Text.Identifier

/-! What a component must have for a source to be written. The first fault found is reported. -/

namespace JsxGen

abbrev Checked := Except InputError

def reject (faulty : Bool) (location : String) (fault : SchemaFault) : Checked Unit :=
  if faulty then .error (.schema location fault) else .ok ()

/-- Faults are located by the names of the elements from the root down, joined by dots. -/
def locate (location part : String) : String := location ++ "." ++ part

def Event.validate (location : String) : String × Event → Checked Unit
  | (name, .action event) =>
    reject (event.action = "") (locate (locate location "events") name) .eventWithoutAction
  | (_, .binding _) => .ok ()

mutual

def Element.validate (location : String) : Element → Checked Unit
  | ⟨_, type, _, children, events⟩ => do
    reject (type = "") location .elementWithoutType
    events.entries.forM (Event.validate location)
    Element.validateAll location children

def Element.validateAll (location : String) : List Element → Checked Unit
  | [] => .ok ()
  | child :: children => do
    child.validate (locate location child.name)
    Element.validateAll location children

end

namespace Component

def validateBinding (component : String) : String × Binding → Checked Unit
  | (prop, .data query) =>
    reject (query.model = "") (locate (locate component "bindingProperties") prop)
      .bindingWithoutModel
  | _ => .ok ()

def validateQuery (component : String) : String × Query → Checked Unit
  | (key, query) =>
    reject (query.model = "") (locate (locate component "collectionProperties") key)
      .collectionWithoutModel

def validate (component : Component) : Checked Unit := do
  let name := component.name
  reject (Text.trim name = "") "component" .emptyName
  reject (Text.sanitize name = "") name .unnameable
  component.bindings.entries.forM (validateBinding name)
  component.queries.forM (validateQuery name)
  component.root.validate name

end Component

end JsxGen
