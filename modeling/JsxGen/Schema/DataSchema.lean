import JsxGen.Json.Fields

/-! The data models that components are bound to. -/

namespace JsxGen

inductive DataType where
  | scalar (name : String)
  | model (name : String)
  | nonModel (name : String)
  | enum (name : String)
  deriving DecidableEq

/-- Related items are found through fields of their model, if there are many. -/
inductive Relationship where
  | hasOne (model : String)
  | hasMany (model : String) (fields : List String)
  | belongsTo (model : String)
  deriving DecidableEq

structure DataField where
  type : DataType
  required : Bool
  readOnly : Bool
  isArray : Bool
  relationship : Option Relationship
  deriving DecidableEq

structure DataModel where
  fields : OrderedMap DataField

structure DataSchema where
  source : Option String
  models : OrderedMap DataModel
  enums : OrderedMap (List String)
  nonModels : OrderedMap DataModel

/-- A relationship of a field with many items of another model. -/
structure HasMany where
  field : String
  model : String
  keys : List String
  deriving DecidableEq

namespace DataField

def scalar (type : String) : DataField := ⟨.scalar type, false, false, false, none⟩

/-- Fields of a composite type and relationships have no input in a form. -/
def hasInput (field : DataField) : Bool :=
  match field.type, field.relationship with
  | .nonModel _, _ | _, some _ => false
  | _, none => true

end DataField

namespace DataModel

def empty : DataModel := ⟨∅⟩

def insertField (model : DataModel) (name : String) (field : DataField) : DataModel :=
  ⟨model.fields.insert name field⟩

def manyRelations (model : DataModel) : List HasMany :=
  model.fields.entries.filterMap fun (name, field) =>
    match field.relationship with
    | some (.hasMany related keys) => some ⟨name, related, keys⟩
    | _ => none

/-- A form needs an input, and an input for every required field. -/
def supportsForm (model : DataModel) : Bool :=
  model.fields.values.any DataField.hasInput &&
    model.fields.values.all fun field => field.hasInput || !field.required

end DataModel

open Fields

namespace DataType

def decode (document : Document) : Decoded DataType := do
  document.readThrough
  let forms :=
    document.string.map .scalar
    <|> document.keyedRecord (.model <$> string "model")
    <|> document.keyedRecord (.nonModel <$> string "nonModel")
    <|> document.keyedRecord (.enum <$> string "enum")
  forms.mapError fun _ => .shape (.noVariant "DataFieldDataType")

def encode : DataType → Json
  | .scalar name => .str name
  | .model name => .obj [("model", .str name)]
  | .nonModel name => .obj [("nonModel", .str name)]
  | .enum name => .obj [("enum", .str name)]

end DataType

def strings (document : Document) : Decoded (List String) :=
  document.list fun item => item.1.string

namespace Relationship

inductive Tag where
  | hasOne | hasMany | belongsTo

def tags : List (String × Tag) :=
  [("HAS_ONE", .hasOne), ("HAS_MANY", .hasMany), ("BELONGS_TO", .belongsTo)]

def decode (document : Document) : Decoded Relationship := do
  let (tag, rest) ← document.tagged tags
  match tag with
  | .hasOne => rest.record .held (.hasOne <$> string "relatedModelName")
  | .hasMany =>
    rest.record .held (.hasMany <$> string "relatedModelName" <*>
      defaulted "relatedModelFields" [] fun part => strings part.1)
  | .belongsTo => rest.record .held (.belongsTo <$> string "relatedModelName")

def encode : Relationship → Json
  | .hasOne model => .obj [("type", .str "HAS_ONE"), ("relatedModelName", .str model)]
  | .hasMany model fields =>
    .obj [("type", .str "HAS_MANY"), ("relatedModelName", .str model),
      ("relatedModelFields", .arr (fields.map .str))]
  | .belongsTo model => .obj [("type", .str "BELONGS_TO"), ("relatedModelName", .str model)]

end Relationship

namespace DataField

def decode (reading : Reading) (document : Document) : Decoded DataField :=
  document.record reading (DataField.mk <$>
    Fields.required "dataType" (fun part => DataType.decode part.1) <*> boolean "required" false <*>
    boolean "readOnly" false <*> boolean "isArray" false <*>
    optional "relationship" fun part => Relationship.decode part.1)

def encode (field : DataField) : Json :=
  .obj ([("dataType", field.type.encode), ("required", .bool field.required),
    ("readOnly", .bool field.readOnly), ("isArray", .bool field.isArray)] ++
    Json.field? "relationship" (field.relationship.map Relationship.encode))

end DataField

namespace DataModel

def decode (reading : Reading) (document : Document) : Decoded DataModel :=
  document.record reading (DataModel.mk <$>
    defaulted "fields" ∅ fun part => part.1.map fun field => DataField.decode reading field.1)

def encode (model : DataModel) : Json :=
  .obj [("fields", model.fields.encode DataField.encode)]

end DataModel

namespace DataSchema

def decodeModels {whole : Document} (reading : Reading) (key : String) :
    Fields whole (OrderedMap DataModel) :=
  defaulted key ∅ fun part => part.1.map fun model => DataModel.decode reading model.1

def decodeEnum (reading : Reading) (document : Document) : Decoded (List String) :=
  document.record reading (defaulted "values" [] fun part => strings part.1)

def decode (reading : Reading) (document : Document) : Decoded DataSchema :=
  document.record reading (DataSchema.mk <$> string? "dataSourceType" <*>
    decodeModels reading "models" <*>
    defaulted "enums" ∅ (fun part => part.1.map fun value => decodeEnum reading value.1) <*>
    decodeModels reading "nonModels")

def encodeEnum (values : List String) : Json :=
  .obj [("values", .arr (values.map .str))]

def encode (schema : DataSchema) : Json :=
  .obj [("dataSourceType", (schema.source.map .str).getD .null),
    ("models", schema.models.encode DataModel.encode),
    ("enums", schema.enums.encode encodeEnum),
    ("nonModels", schema.nonModels.encode DataModel.encode)]

end DataSchema

end JsxGen
