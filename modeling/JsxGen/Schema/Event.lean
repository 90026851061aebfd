import JsxGen.Schema.Property

/-! Events of elements: an action with parameters, or a prop the event is passed on to. -/

namespace JsxGen

structure Mutation where
  target : StateRef
  value : Property

inductive Parameter where
  | literal (text : String)
  | mutation (mutation : Mutation)
  | property (property : Property)
  | fields (fields : OrderedMap Property)

structure ActionEvent where
  action : String
  parameters : Option (OrderedMap Parameter)

inductive Event where
  | action (event : ActionEvent)
  | binding (prop : String)

namespace ActionEvent

def ofName (action : String) : ActionEvent := ⟨action, none⟩

def parameterEntries (event : ActionEvent) : List (String × Parameter) :=
  match event.parameters with
  | some parameters => parameters.entries
  | none => []

/-- The first parameter that is a mutation. -/
def mutation? (event : ActionEvent) : Option Mutation :=
  event.parameterEntries.findSome? fun
    | (_, .mutation mutation) => some mutation
    | _ => none

end ActionEvent

def Event.action? : Event → Option ActionEvent
  | .action event => some event
  | .binding _ => none

open Fields

def Mutation.fields {whole : Document} : Fields whole Mutation :=
  Mutation.mk <$> StateRef.fields <*> required "set" fun part => Property.decode part.1

def Mutation.encode (mutation : Mutation) : Json :=
  .obj (mutation.target.encode ++ [("set", mutation.value.encode)])

namespace Parameter

/-- A mutation is tried ahead of a property, which would take it for a plain state reference. -/
def decode (document : Document) : Decoded Parameter := do
  document.readThrough
  let forms :=
    document.string.map .literal
    <|> document.record .held (.mutation <$> Mutation.fields)
    <|> (Property.decode document).map .property
    <|> (document.map fun part => Property.decode part.1).map .fields
  forms.mapError fun _ => .shape (.noVariant "ActionParameter")

def encode : Parameter → Json
  | .literal text => .str text
  | .mutation m => m.encode
  | .property p => p.encode
  | .fields ps => ps.encode Property.encode

end Parameter

namespace ActionEvent

def decode (reading : Reading) (document : Document) : Decoded ActionEvent :=
  document.record reading (ActionEvent.mk <$> string "action" <*>
    optional "parameters" fun part => part.1.map fun value => Parameter.decode value.1)

def encode (event : ActionEvent) : Json :=
  .obj (("action", .str event.action) ::
    Json.field? "parameters" (event.parameters.map (·.encode Parameter.encode)))

end ActionEvent

namespace Event

def decode (document : Document) : Decoded Event := do
  document.readThrough
  let forms :=
    (ActionEvent.decode .held document).map .action
    <|> document.record .held (.binding <$> string "bindingEvent")
  forms.mapError fun _ => .shape (.noVariant "StudioComponentEvent")

def encode : Event → Json
  | .action event => event.encode
  | .binding prop => .obj [("bindingEvent", .str prop)]

end Event

end JsxGen
