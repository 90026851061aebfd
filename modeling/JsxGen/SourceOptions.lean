import JsxGen.Schema.DataSchema

/-! Options for the source that is written. -/

namespace JsxGen

structure SourceOptions where
  indentWidth : Nat := 2
  relatedItems : Bool := true
  dataSchema : Option DataSchema := none

namespace SourceOptions

open Fields

def decode (reading : Reading) (document : Document) : Decoded SourceOptions :=
  document.record reading (SourceOptions.mk <$>
    defaulted "indentWidth" 2 (fun part => part.1.natural) <*> boolean "nestedQueries" true <*>
    optional "dataSchema" fun part => DataSchema.decode reading part.1)

def encode (options : SourceOptions) : Json :=
  .obj ([("indentWidth", .num (.int options.indentWidth)),
    ("nestedQueries", .bool options.relatedItems)] ++
    Json.field? "dataSchema" (options.dataSchema.map DataSchema.encode))

/-- The schema to find related items by, if they are wanted. -/
def relatedSchema (options : SourceOptions) : Option DataSchema :=
  if options.relatedItems then options.dataSchema else none

end SourceOptions

end JsxGen
