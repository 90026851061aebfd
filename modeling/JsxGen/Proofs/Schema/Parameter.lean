import JsxGen.Proofs.Schema.Property
import JsxGen.Schema.Event

/-!
Parameters of actions written as JSON and decoded again. The fields of a form are told by no key of
their own, so that some of them are taken for a property. `Parameter.decode_fields_eq_ok_iff` says
which.
-/

namespace JsxGen

open Document Fields

/-- The property is the state itself, so that its JSON has a key `property`. -/
def Property.stateRef? : Property → Option StateRef
  | .state ref => some ref
  | _ => none

namespace OrderedMap

variable (properties : OrderedMap Property)

/-- The prop that the field of the name seems to be, if it holds state. -/
def seemingProp? (name : String) : Option PropRef :=
  if "defaultValue" ∈ properties.keys then none
  else ((properties.get? name).bind Property.stateRef?).map fun ref => ⟨ref.property, none⟩

/-- The literal that the field `value` seems to be. -/
def seemingLiteral? : Option Literal :=
  if "type" ∈ properties.keys then none
  else (properties.get? "value").map fun property => ⟨property.encode, property.encode_distinct⟩

/-- The property that the object of the fields is taken for, if for one. -/
def takenFor? : Option Property :=
  ((properties.seemingProp? "bindingProperties").map (.bound · none)).or
    (((properties.seemingProp? "collectionBindingProperties").map (.collectionBound · none)).or
      (properties.seemingLiteral?.map (.fixed · none)))

/-- No field is called as a key of a property and holds what that key may hold there. -/
structure FieldsApart : Prop where
  props : "defaultValue" ∈ properties.keys ∨
    ∀ name ∈ ["bindingProperties", "collectionBindingProperties"],
      (properties.get? name).bind Property.stateRef? = none
  literal : "value" ∈ properties.keys → "type" ∈ properties.keys

theorem takenFor?_eq_none_iff : properties.takenFor? = none ↔ properties.FieldsApart := by
  have seeming (name : String) : properties.seemingProp? name = none ↔
      "defaultValue" ∈ properties.keys ∨ (properties.get? name).bind Property.stateRef? = none := by
    rw [seemingProp?]
    split <;> simp [*]
  have literal : properties.seemingLiteral? = none ↔
      ("value" ∈ properties.keys → "type" ∈ properties.keys) := by
    rw [seemingLiteral?]
    split
    · simp [*]
    · rename_i untyped
      rw [Option.map_eq_none_iff, get?_eq_none]
      exact ⟨fun absent known => absurd known absent, fun typed known => untyped (typed known)⟩
  rw [takenFor?, Option.or_eq_none_iff, Option.or_eq_none_iff, Option.map_eq_none_iff,
    Option.map_eq_none_iff, Option.map_eq_none_iff, seeming, seeming, literal, ← and_assoc,
    ← or_and_left]
  constructor
  · intro ⟨props, literal⟩
    exact ⟨by simpa using props, literal⟩
  · intro apart
    exact ⟨by simpa using apart.props, apart.literal⟩

/-- Fields that are not called as a key of a property are apart. -/
theorem fieldsApart_of_not_mem (free : ∀ name ∈
    ["bindingProperties", "collectionBindingProperties", "value"], name ∉ properties.keys) :
    properties.FieldsApart where
  props := .inr fun name key => by
    have absent : properties.get? name = none :=
      get?_eq_none.2 (free name (List.mem_append_left ["value"] key))
    rw [absent]
    rfl
  literal := fun value => absurd value (free "value" (by simp))

end OrderedMap

namespace Property

variable (property : Property)

/-- The JSON of a property is an object that no record of another kind is read from, but a prop. -/
theorem exists_members : ∃ members, property.encode = .obj members ∧
    members.lookup "set" = none ∧ members.lookup "operator" = none ∧
    members.lookup "field" = none ∧
    (members.lookup "property").bind Json.text? = property.stateRef?.map StateRef.property := by
  cases property with
  | bound ref fallback | collectionBound ref fallback =>
    refine ⟨_, by rw [encode, encodeBound], ?_⟩
    simp [List.lookup_cons, stateRef?]
  | state ref =>
    refine ⟨_, by rw [encode], ?_⟩
    simp [List.lookup_cons, stateRef?, StateRef.encode, Json.text?]
  | _ =>
    refine ⟨_, by rw [encode], ?_⟩
    simp [List.lookup_cons, stateRef?]

theorem record_propRef_encode :
    ((ofJson property.encode).record .held PropRef.fields).toOption =
      property.stateRef?.map fun ref => ⟨ref.property, none⟩ := by
  obtain ⟨members, written, _, _, field, name⟩ := property.exists_members
  have distinct := property.encode_distinct
  rw [written] at distinct ⊢
  rw [ofJson_obj, record_ofJson, PropRef.read_fields distinct.1, field, name]
  cases property.stateRef? <;> rfl

theorem record_condition_encode :
    ((ofJson property.encode).record .held conditionFields).toOption = none := by
  obtain ⟨members, written, _, operator, _⟩ := property.exists_members
  have distinct := property.encode_distinct
  rw [written] at distinct ⊢
  rw [ofJson_obj, record_ofJson, conditionFields]
  simp only [read_seq, read_map, read_string distinct.1, operator, Option.bind_none,
    Option.map_none, Option.bind_fun_none]

theorem list_encode {α : Type} (item : Part (ofJson property.encode) → Decoded α) :
    ((ofJson property.encode).list item).toOption = none := by
  obtain ⟨members, written, _⟩ := property.exists_members
  revert item
  rw [written, ofJson_obj]
  exact fun item => rfl

theorem text?_encode : property.encode.text? = none := by
  obtain ⟨members, written, _⟩ := property.exists_members
  rw [written]
  rfl

end Property

namespace OrderedMap

variable (properties : OrderedMap Property)

/-- The members of the JSON of the fields. -/
abbrev members : List (String × Json) :=
  properties.entries.map fun entry => (entry.1, entry.2.encode)

theorem members_distinct : (Json.obj properties.members).Distinct :=
  encode_distinct fun property _ => property.encode_distinct

theorem lookup_members (name : String) :
    properties.members.lookup name = (properties.get? name).map Property.encode :=
  lookup_encode properties Property.encode name

/-- No field is a text, since the JSON of a property is an object. -/
theorem text?_members (name : String) : (properties.members.lookup name).bind Json.text? = none := by
  rw [lookup_members]
  cases properties.get? name with
  | none => rfl
  | some property => exact property.text?_encode

/-- A field that must be a text or absent is absent. -/
theorem orAbsent_members (name : String) :
    orAbsent Json.text? (properties.members.lookup name) =
      if name ∈ properties.keys then none else some none := by
  rw [lookup_members]
  cases found : properties.get? name with
  | none =>
    rw [if_neg (get?_eq_none.1 found)]
    rfl
  | some property =>
    have known : name ∈ properties.keys := List.mem_map_of_mem (mem_of_get? found)
    obtain ⟨members, written, _⟩ := property.exists_members
    rw [if_pos known, Option.map_some, written]
    rfl

theorem read_seemingProp (name : String) (make : PropRef → Option String → Property) :
    (Property.boundFields name make : Fields (holding properties.members) Property).read =
      (properties.seemingProp? name).map (make · none) := by
  rw [Property.read_boundFields properties.members_distinct.1, orAbsent_members, lookup_members,
    seemingProp?, Option.bind_map]
  have ref : ((fun json => ((ofJson json).record .held PropRef.fields).toOption) ∘
      Property.encode) = fun property => property.stateRef?.map fun ref => ⟨ref.property, none⟩ :=
    funext Property.record_propRef_encode
  rw [ref]
  split
  · simp
  · cases properties.get? name with
    | none => rfl
    | some property => cases h : property.stateRef? <;> simp [h]

theorem read_seemingLiteral :
    (.fixed <$> literal "value" <*> string? "type" :
      Fields (holding properties.members) Property).read =
      properties.seemingLiteral?.map (.fixed · none) := by
  have once := properties.members_distinct.1
  rw [read_seq, read_map, read_literal once, read_string? once, orAbsent_members, lookup_members,
    seemingLiteral?]
  split
  · simp
  · cases properties.get? "value" with
    | none => rfl
    | some property =>
      have kept := literal_ofJson ⟨property.encode, property.encode_distinct⟩
      dsimp only at kept
      simp [kept]

/-- The fields are taken for a prop or for a literal, or for no property. -/
theorem decode_members :
    (Property.decode (holding properties.members)).toOption = properties.takenFor? := by
  have once := properties.members_distinct.1
  have concat : (required "concat" fun part => part.1.list fun item => Property.decode item.1 :
      Fields (holding properties.members) (List Property)).read = none := by
    rw [read_required once "concat" fun document => document.list fun item => Property.decode item.1,
      lookup_members]
    cases properties.get? "concat" with
    | none => rfl
    | some property => exact property.list_encode _
  have condition : (required "condition" fun part => part.1.record .held Property.conditionFields :
      Fields (holding properties.members) Property).read = none := by
    rw [read_required once "condition" fun document => document.record .held Property.conditionFields,
      lookup_members]
    cases properties.get? "condition" with
    | none => rfl
    | some property => exact property.record_condition_encode
  rw [Property.decode_holding properties.members_distinct, Property.forms, takenFor?]
  simp only [List.findSome?_cons, read_seemingProp, read_map, concat, condition, read_string once,
    text?_members, StateRef.read_fields once, Option.map_none, Option.bind_none, read_seemingLiteral,
    List.findSome?_nil]
  cases properties.seemingProp? "bindingProperties" <;>
    cases properties.seemingProp? "collectionBindingProperties" <;>
    cases properties.seemingLiteral? <;> rfl

end OrderedMap

theorem Mutation.encode_distinct (mutation : Mutation) : mutation.encode.Distinct := by
  have value := mutation.value.encode_distinct
  simpa [encode, StateRef.encode, Json.Distinct, Json.FieldsDistinct] using value

theorem Mutation.read_fields {fields : List (String × Json)} (once : (Entries.keys fields).Nodup) :
    (Mutation.fields : Fields (holding fields) Mutation).read =
      (StateRef.fields : Fields (holding fields) StateRef).read.bind fun target =>
        ((fields.lookup "set").bind fun json => (Property.decode (ofJson json)).toOption).map
          (Mutation.mk target) := by
  rw [Mutation.fields, read_seq, read_map, read_required once "set" Property.decode, Option.bind_map]
  rfl

namespace Parameter

theorem encode_distinct (parameter : Parameter) : parameter.encode.Distinct := by
  cases parameter with
  | literal text => trivial
  | mutation m => exact m.encode_distinct
  | property p => exact p.encode_distinct
  | fields ps => exact ps.members_distinct

/-- The parameter as it comes back: fields that are not apart come back as a property. -/
def settled : Parameter → Parameter
  | .fields properties => (properties.takenFor?.map .property).getD (.fields properties)
  | parameter => parameter

def FieldsApart : Parameter → Prop
  | .fields properties => properties.FieldsApart
  | _ => True

theorem settled_eq_self_iff (parameter : Parameter) :
    parameter.settled = parameter ↔ parameter.FieldsApart := by
  cases parameter with
  | fields properties =>
    rw [FieldsApart, ← OrderedMap.takenFor?_eq_none_iff, settled]
    cases properties.takenFor? with
    | none => simp
    | some property => simp
  | _ => exact iff_of_true rfl trivial

theorem decode_holding {fields : List (String × Json)} (distinct : (Json.obj fields).Distinct) :
    (decode (holding fields)).toOption =
      ((Mutation.fields : Fields (holding fields) Mutation).read.map .mutation).or
        (((Property.decode (holding fields)).toOption.map .property).or
          (((holding fields).map fun part => Property.decode part.1).toOption.map .fields)) := by
  rw [decode, readThrough_holding distinct]
  change (Except.mapError _ _).toOption = _
  simp only [toOption_mapError, toOption_orElse, toOption_map, record_ofJson, read_map]
  rfl

theorem decode_mutation (m : Mutation) : decode (ofJson m.encode) = .ok (.mutation m) := by
  have distinct := m.encode_distinct
  rw [Mutation.encode] at distinct ⊢
  rw [← toOption_eq_some, ofJson_obj, decode_holding distinct, Mutation.read_fields distinct.1,
    StateRef.read_fields distinct.1]
  simp [StateRef.encode, List.lookup_cons, Json.text?, Property.decode_ofJson_encode]

theorem decode_property (p : Property) : decode (ofJson p.encode) = .ok (.property p) := by
  obtain ⟨members, written, set, _⟩ := p.exists_members
  have distinct := p.encode_distinct
  have back := p.decode_ofJson_encode
  rw [written] at distinct back ⊢
  rw [ofJson_obj] at back ⊢
  rw [← toOption_eq_some, decode_holding distinct, Mutation.read_fields distinct.1, set, back]
  simp

theorem decode_fields (properties : OrderedMap Property) :
    decode (ofJson (properties.encode Property.encode)) = .ok (settled (.fields properties)) := by
  have kept : (holding properties.members).map (fun part => Property.decode part.1) =
      .ok properties := by
    rw [← ofJson_obj]
    exact OrderedMap.map_encode_self fun property _ => property.decode_ofJson_encode
  rw [OrderedMap.encode, ← toOption_eq_some, ofJson_obj,
    decode_holding properties.members_distinct, Mutation.read_fields properties.members_distinct.1,
    StateRef.read_fields properties.members_distinct.1, properties.text?_members,
    properties.decode_members, kept, settled]
  cases properties.takenFor? <;> rfl

/-- A parameter comes back as it was, apart from fields that are taken for a property. -/
theorem decode_ofJson_encode (parameter : Parameter) :
    decode (ofJson parameter.encode) = .ok parameter.settled := by
  cases parameter with
  | literal text => rfl
  | mutation m => exact decode_mutation m
  | property p => exact decode_property p
  | fields properties => exact decode_fields properties

/-- The fields of a form come back as they were if and only if they are apart. Otherwise they come
back as the property that they are taken for. -/
theorem decode_fields_eq_ok_iff (properties : OrderedMap Property) :
    (decode (ofJson (properties.encode Property.encode)) = .ok (.fields properties) ↔
      properties.FieldsApart) ∧
    (properties.FieldsApart ∨ ∃ property, properties.takenFor? = some property ∧
      decode (ofJson (properties.encode Property.encode)) = .ok (.property property)) := by
  rw [decode_fields, Except.ok.injEq, settled_eq_self_iff, FieldsApart, settled,
    ← OrderedMap.takenFor?_eq_none_iff]
  refine ⟨Iff.rfl, ?_⟩
  cases properties.takenFor? with
  | none => exact .inl rfl
  | some property => exact .inr ⟨property, rfl, rfl⟩

/-- A form with a field `value` is taken for a literal, so that all its fields are lost. -/
theorem fields_taken_for_literal :
    let properties : OrderedMap Property := .ofList
      [("title", .fixed ⟨.str "Hi", trivial⟩ none), ("value", .fixed ⟨.str "5", trivial⟩ none)]
    let literal : Literal :=
      ⟨.obj [("value", .str "5")], by simp [Json.Distinct, Json.FieldsDistinct]⟩
    decode (ofJson (properties.encode Property.encode)) = .ok (.property (.fixed literal none)) ∧
      decode (ofJson (properties.encode Property.encode)) ≠ .ok (.fields properties) := by
  intro properties literal
  have taken : decode (ofJson (properties.encode Property.encode)) =
      .ok (.property (.fixed literal none)) := decode_fields properties
  refine ⟨taken, ?_⟩
  rw [taken]
  intro same
  cases same

end Parameter

end JsxGen
