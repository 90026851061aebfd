import JsxGen.Proofs.Json.Written
import JsxGen.SourceOptions

/-!
Data schemas and options written as JSON and decoded again. The forms of a data type are told by a key
of their own, those of a relationship by its tag; what may be absent is either left out or `null`. So
schemas and options come back as they were (`schema_and_options_decode_encode`).
-/

namespace JsxGen

open Document Fields

@[simp] theorem boolean_ofJson (value : Bool) : (ofJson (.bool value)).boolean = .ok value := by
  rw [ofJson, Document.boolean]

theorem Fields.read_boolean {fields : List (String × Json)} (once : (Entries.keys fields).Nodup)
    (name : String) (absent : Bool) :
    (boolean name absent : Fields (holding fields) Bool).read =
      ((fields.lookup name).map fun json => (ofJson json).boolean.toOption).getD (some absent) :=
  read_defaulted once name absent Document.boolean

theorem strings_ofJson (texts : List String) :
    strings (ofJson (.arr (texts.map .str))) = .ok texts :=
  list_map_ofJson fun _ _ => rfl

namespace DataType

theorem encode_distinct (type : DataType) : type.encode.Distinct := by
  cases type <;> simp [encode, Json.Distinct, Json.FieldsDistinct]

/-- A form that is told by a key takes an object with just this key. -/
theorem keyedRecord_holding (key name other : String) (make : String → DataType) :
    ((holding [(key, .str name)]).keyedRecord (make <$> string other)).toOption =
      if other = key then some (make name) else none := by
  have once : (Entries.keys [(key, Json.str name)]).Nodup := by simp
  change ((holding _).record .held _).toOption = _
  rw [record_ofJson, read_map, read_string once, List.lookup_cons]
  by_cases same : other = key
  · simp [same, Json.text?]
  · simp [same, beq_eq_false_iff_ne.2 same]

theorem decode_ofJson_encode (type : DataType) : decode (ofJson type.encode) = .ok type := by
  have whole := readThrough_ofJson type.encode_distinct
  rw [decode, whole, ← toOption_eq_some]
  change (Except.mapError _ _).toOption = _
  rw [toOption_mapError]
  cases type with
  | scalar name => rfl
  | model name | nonModel name | enum name =>
    rw [encode, ofJson_obj]
    simp only [toOption_orElse, keyedRecord_holding]
    rfl

end DataType

namespace Relationship

theorem encode_distinct (relationship : Relationship) : relationship.encode.Distinct := by
  cases relationship <;>
    simp [encode, Json.Distinct, Json.FieldsDistinct, Json.allDistinct_iff]

/-- A relationship that has only a model besides its tag. -/
theorem record_model (make : String → Relationship) (model : String) :
    (holding [("relatedModelName", .str model)]).record .held (make <$> string "relatedModelName") =
      .ok (make model) := by
  rw [← toOption_eq_some, record_ofJson, read_map, read_string (by simp)]
  rfl

theorem decode_ofJson_encode (relationship : Relationship) :
    decode (ofJson relationship.encode) = .ok relationship := by
  have distinct := relationship.encode_distinct
  cases relationship with
  | hasOne model =>
    rw [encode] at distinct ⊢
    rw [ofJson_obj, decode, tagged_holding rfl distinct.2.2 (by simp)]
    exact record_model .hasOne model
  | hasMany model fields =>
    rw [encode] at distinct ⊢
    have once := (List.nodup_cons.1 distinct.1).2
    rw [ofJson_obj, decode, tagged_holding rfl distinct.2.2 (by simp), ← toOption_eq_some]
    change ((holding _).record .held _).toOption = _
    rw [record_ofJson, read_seq, read_map, read_string once,
      read_defaulted once "relatedModelFields" [] strings]
    simp [List.lookup_cons, Json.text?, strings_ofJson]
  | belongsTo model =>
    rw [encode] at distinct ⊢
    rw [ofJson_obj, decode, tagged_holding rfl distinct.2.2 (by simp)]
    exact record_model .belongsTo model

end Relationship

namespace DataField

theorem encode_distinct (field : DataField) : field.encode.Distinct := by
  rcases field with ⟨type, required, readOnly, isArray, relationship⟩
  have inner := type.encode_distinct
  cases relationship with
  | none => simpa [encode, Json.Distinct, Json.FieldsDistinct, Json.field?] using inner
  | some relationship =>
    have related := relationship.encode_distinct
    simp [encode, Json.Distinct, Json.FieldsDistinct, Json.field?, inner, related]

theorem decode_ofJson_encode (reading : Reading) (field : DataField) :
    decode reading (ofJson field.encode) = .ok field := by
  have distinct := field.encode_distinct
  have relationship : orAbsent (fun json => (Relationship.decode (ofJson json)).toOption)
      (field.relationship.map Relationship.encode) = some (field.relationship.map id) := by
    apply orAbsent_map_some
    intro relationship _
    refine ⟨?_, congrArg Except.toOption relationship.decode_ofJson_encode⟩
    cases relationship <;> exact Json.noConfusion
  rw [encode] at distinct ⊢
  rw [← toOption_eq_some, ofJson_obj, decode, record_ofJson]
  simp only [read_seq, read_map, read_boolean distinct.1,
    read_required distinct.1 "dataType" DataType.decode,
    read_optional distinct.1 "relationship" Relationship.decode]
  simp [List.lookup_cons, field.type.decode_ofJson_encode, relationship]

end DataField

namespace DataModel

theorem encode_distinct (model : DataModel) : model.encode.Distinct := by
  have fields : (model.fields.encode DataField.encode).Distinct :=
    OrderedMap.encode_distinct fun field _ => field.encode_distinct
  simpa [encode, Json.Distinct, Json.FieldsDistinct] using fields

theorem decode_ofJson_encode (reading : Reading) (model : DataModel) :
    decode reading (ofJson model.encode) = .ok model := by
  have distinct := model.encode_distinct
  have fields : (ofJson (model.fields.encode DataField.encode)).map
      (fun field => DataField.decode reading field.1) = .ok model.fields :=
    OrderedMap.map_encode_self fun field _ => field.decode_ofJson_encode reading
  rw [encode] at distinct ⊢
  rw [← toOption_eq_some, ofJson_obj, decode, record_ofJson, read_map,
    read_defaulted distinct.1 "fields" ∅
      fun document => document.map fun field => DataField.decode reading field.1]
  simp [fields]

end DataModel

namespace DataSchema

theorem encodeEnum_distinct (values : List String) : (encodeEnum values).Distinct := by
  simp [encodeEnum, Json.Distinct, Json.FieldsDistinct, Json.allDistinct_iff]

theorem decodeEnum_ofJson_encodeEnum (reading : Reading) (values : List String) :
    decodeEnum reading (ofJson (encodeEnum values)) = .ok values := by
  have distinct := encodeEnum_distinct values
  rw [encodeEnum] at distinct ⊢
  rw [← toOption_eq_some, ofJson_obj, decodeEnum, record_ofJson,
    read_defaulted distinct.1 "values" [] strings]
  simp [strings_ofJson]

theorem encode_distinct (schema : DataSchema) : schema.encode.Distinct := by
  have models (models : OrderedMap DataModel) : (models.encode DataModel.encode).Distinct :=
    OrderedMap.encode_distinct fun model _ => model.encode_distinct
  have enums : (schema.enums.encode encodeEnum).Distinct :=
    OrderedMap.encode_distinct fun values _ => encodeEnum_distinct values
  have source : ((schema.source.map .str).getD .null : Json).Distinct := by
    cases schema.source <;> trivial
  simp [encode, Json.Distinct, Json.FieldsDistinct, models, enums, source]

theorem read_decodeModels {fields : List (String × Json)} (once : (Entries.keys fields).Nodup)
    (reading : Reading) (key : String) :
    (decodeModels reading key : Fields (holding fields) (OrderedMap DataModel)).read =
      ((fields.lookup key).map fun json => ((ofJson json).map fun model =>
        DataModel.decode reading model.1).toOption).getD (some ∅) :=
  read_defaulted once key ∅ fun document => document.map fun model => DataModel.decode reading model.1

/-- No source is written as `null`, which is read as no source. -/
theorem orAbsent_source (source : Option String) :
    orAbsent Json.text? (some ((source.map .str).getD .null)) = some source := by
  cases source <;> rfl

theorem decode_ofJson_encode (reading : Reading) (schema : DataSchema) :
    decode reading (ofJson schema.encode) = .ok schema := by
  have distinct := schema.encode_distinct
  have models (models : OrderedMap DataModel) : (ofJson (models.encode DataModel.encode)).map
      (fun model => DataModel.decode reading model.1) = .ok models :=
    OrderedMap.map_encode_self fun model _ => model.decode_ofJson_encode reading
  have enums : (ofJson (schema.enums.encode encodeEnum)).map
      (fun values => decodeEnum reading values.1) = .ok schema.enums :=
    OrderedMap.map_encode_self fun values _ => decodeEnum_ofJson_encodeEnum reading values
  rw [encode] at distinct ⊢
  rw [← toOption_eq_some, ofJson_obj, decode, record_ofJson]
  simp only [read_seq, read_map, read_string? distinct.1, read_decodeModels distinct.1,
    read_defaulted distinct.1 "enums" ∅
      fun document => document.map fun values => decodeEnum reading values.1]
  simp [List.lookup_cons, orAbsent_source, models, enums]

end DataSchema

namespace SourceOptions

theorem encode_distinct (options : SourceOptions) : options.encode.Distinct := by
  rcases options with ⟨indentWidth, relatedItems, dataSchema⟩
  cases dataSchema with
  | none => simp [encode, Json.Distinct, Json.FieldsDistinct, Json.field?]
  | some schema =>
    have inner := schema.encode_distinct
    simp [encode, Json.Distinct, Json.FieldsDistinct, Json.field?, inner]

theorem natural_ofJson (n : Nat) : (ofJson (.num (.int n))).natural = .ok n := by
  rw [ofJson, natural, if_pos (Int.natCast_nonneg n), Int.toNat_natCast]

theorem decode_ofJson_encode (reading : Reading) (options : SourceOptions) :
    decode reading (ofJson options.encode) = .ok options := by
  have distinct := options.encode_distinct
  have schema : orAbsent (fun json => (DataSchema.decode reading (ofJson json)).toOption)
      (options.dataSchema.map DataSchema.encode) = some (options.dataSchema.map id) := by
    apply orAbsent_map_some
    intro schema _
    exact ⟨Json.noConfusion, congrArg Except.toOption (schema.decode_ofJson_encode reading)⟩
  rw [encode] at distinct ⊢
  rw [← toOption_eq_some, ofJson_obj, decode, record_ofJson]
  simp only [read_seq, read_map, read_boolean distinct.1,
    read_defaulted distinct.1 "indentWidth" 2 natural,
    read_optional distinct.1 "dataSchema" (DataSchema.decode reading)]
  simp [List.lookup_cons, natural_ofJson, schema]

end SourceOptions

/-- Every data schema and all options come back from their JSON as they were. -/
theorem schema_and_options_decode_encode :
    (∀ schema : DataSchema, Json.decode DataSchema.decode schema.encode = .ok schema) ∧
      ∀ options : SourceOptions, Json.decode SourceOptions.decode options.encode = .ok options :=
  ⟨fun schema => schema.decode_ofJson_encode .held,
    fun options => options.decode_ofJson_encode .held⟩

end JsxGen
