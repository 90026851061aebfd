import JsxGen.Json.Fields

/-! Props that a component declares, and the queries behind its data. -/

namespace JsxGen

/-- The items of a model that a predicate selects. -/
structure Query where
  model : String
  predicate : Option Literal

inductive ScalarType where
  | boolean | number | string | date
  deriving DecidableEq

inductive Binding where
  | data (query : Query)
  | scalar (type : ScalarType) (fallback : Option String)
  | event
  | slot

namespace Query

open Fields

def fields {whole : Document} : Fields whole Query :=
  Query.mk <$> string "model" <*> optional "predicate" fun part => part.1.literal

def decode (reading : Reading) (document : Document) : Decoded Query :=
  document.record reading fields

def encode (query : Query) : Json :=
  .obj (("model", .str query.model) :: Json.field? "predicate" (query.predicate.map (·.json)))

end Query

namespace ScalarType

def name : ScalarType → String
  | .boolean => "Boolean"
  | .number => "Number"
  | .string => "String"
  | .date => "Date"

end ScalarType

namespace Binding

inductive Tag where
  | data | scalar (type : ScalarType) | event | slot

def tags : List (String × Tag) :=
  [("Data", .data), ("Boolean", .scalar .boolean), ("Number", .scalar .number),
   ("String", .scalar .string), ("Date", .scalar .date), ("Event", .event), ("Amplify.Slot", .slot)]

/-- A variant without fields takes any members, but no items. -/
def withoutFields (binding : Binding) : Document → Decoded Binding
  | .arr (_ :: _) _ => wrongShape .invalidLength
  | _ => .ok binding

def decode (document : Document) : Decoded Binding := do
  let (tag, rest) ← document.tagged tags
  match tag with
  | .data =>
    rest.record .held
      (.data <$> Fields.required "bindingProperties" fun part => Query.decode .held part.1)
  | .scalar type => rest.record .held (.scalar type <$> Fields.string? "defaultValue")
  | .event => withoutFields .event rest
  | .slot => withoutFields .slot rest

def encode : Binding → Json
  | .data query => .obj [("type", .str "Data"), ("bindingProperties", query.encode)]
  | .scalar type fallback =>
    .obj (("type", .str type.name) :: Json.field? "defaultValue" (fallback.map .str))
  | .event => .obj [("type", .str "Event")]
  | .slot => .obj [("type", .str "Amplify.Slot")]

end Binding

end JsxGen
