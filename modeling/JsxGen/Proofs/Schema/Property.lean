import JsxGen.Proofs.Json.Written
import JsxGen.Schema.Property

/-!
Properties written as JSON and decoded again. The forms are told apart by keys that no later form
has, so that every property comes back as it was (`decode_encode`).
-/

namespace JsxGen

open Document Fields

theorem PropRef.encode_distinct (ref : PropRef) : (Json.obj ref.encode).Distinct := by
  obtain ⟨property, field⟩ := ref
  cases field <;> simp [Json.Distinct, Json.FieldsDistinct, encode, Json.field?]

theorem StateRef.encode_distinct (ref : StateRef) : (Json.obj ref.encode).Distinct := by
  simp [Json.Distinct, Json.FieldsDistinct, encode]

namespace Property

theorem encodeBound_distinct {key : String} (other : key ≠ "defaultValue") (ref : PropRef)
    (fallback : Option String) : (encodeBound key ref fallback).Distinct := by
  have inner := ref.encode_distinct
  cases fallback <;>
    simp [encodeBound, Json.Distinct, Json.FieldsDistinct, Json.field?, other] at inner ⊢ <;>
    exact inner

mutual

theorem encode_distinct : (property : Property) → property.encode.Distinct
  | .bound ref fallback => by
    rw [encode]
    exact encodeBound_distinct (by decide) ref fallback
  | .collectionBound ref fallback => by
    rw [encode]
    exact encodeBound_distinct (by decide) ref fallback
  | .concat parts => by
    have inner := encodeAll_distinct parts
    simpa [encode, Json.Distinct, Json.FieldsDistinct] using inner
  | .conditional test yes no => by
    have first := encode_distinct yes
    have second := encode_distinct no
    have operand := test.operand.distinct
    obtain ⟨⟨property, field⟩, operator, operand, type⟩ := test
    cases field <;> cases type <;>
      simp_all [encode, PropRef.encode, Json.Distinct, Json.FieldsDistinct, Json.field?]
  | .auth name => by simp [encode, Json.Distinct, Json.FieldsDistinct]
  | .state ref => by
    rw [encode]
    exact ref.encode_distinct
  | .fixed value type => by
    have inner := value.distinct
    cases type <;> simpa [encode, Json.Distinct, Json.FieldsDistinct, Json.field?] using inner

theorem encodeAll_distinct : (parts : List Property) → Json.AllDistinct (encodeAll parts)
  | [] => trivial
  | part :: parts => by
    rw [encodeAll]
    exact ⟨encode_distinct part, encodeAll_distinct parts⟩

end

theorem encodeAll_eq_map (parts : List Property) : encodeAll parts = parts.map encode := by
  induction parts with
  | nil => rw [encodeAll, List.map_nil]
  | cons part parts ih => rw [encodeAll, List.map_cons, ih]

variable {fields : List (String × Json)}

def conditionFields {whole : Document} : Fields whole Property :=
  ofCondition <$> string "property" <*> string? "field" <*> string "operator" <*>
    literal "operand" <*> string? "operandType" <*>
    required "then" (fun branch => decode branch.1) <*>
    required "else" (fun branch => decode branch.1)

/-- The forms of a property, in the order they are tried. -/
def forms (fields : List (String × Json)) : List (Fields (holding fields) Property) :=
  [boundFields "bindingProperties" .bound,
   boundFields "collectionBindingProperties" .collectionBound,
   .concat <$> required "concat" fun part => part.1.list fun item => decode item.1,
   required "condition" fun part => part.1.record .held conditionFields,
   .auth <$> string "userAttribute",
   .state <$> StateRef.fields,
   .fixed <$> literal "value" <*> string? "type"]

theorem decode_holding (distinct : (Json.obj fields).Distinct) :
    (decode (holding fields)).toOption = (forms fields).findSome? Fields.read := by
  have first_or {a : Fields (holding fields) Property} {others : List (Fields (holding fields) Property)} :
      (a :: others).findSome? Fields.read = a.read.or (others.findSome? Fields.read) := by
    rw [List.findSome?_cons]
    cases a.read <;> rfl
  rw [decode, readThrough_holding distinct]
  change (Except.mapError _ _).toOption = _
  simp only [toOption_mapError, toOption_orElse, record_ofJson, forms, first_or,
    List.findSome?_nil, Option.or_none]
  rfl

end Property

section reading

variable {fields : List (String × Json)}

theorem PropRef.read_fields (once : (Entries.keys fields).Nodup) :
    (PropRef.fields : Fields (holding fields) PropRef).read =
      ((fields.lookup "property").bind Json.text?).bind fun property =>
        (orAbsent Json.text? (fields.lookup "field")).map (PropRef.mk property) := by
  rw [PropRef.fields, read_seq, read_map, read_string once, read_string? once, Option.bind_map]
  rfl

theorem StateRef.read_fields (once : (Entries.keys fields).Nodup) :
    (StateRef.fields : Fields (holding fields) StateRef).read =
      ((fields.lookup "componentName").bind Json.text?).bind fun component =>
        ((fields.lookup "property").bind Json.text?).map (StateRef.mk component) := by
  rw [StateRef.fields, read_seq, read_map, read_string once, read_string once, Option.bind_map]
  rfl

theorem PropRef.record_encode (ref : PropRef) :
    ((ofJson (.obj ref.encode)).record .held PropRef.fields).toOption = some ref := by
  rw [ofJson_obj, record_ofJson, read_fields ref.encode_distinct.1]
  simp [encode, List.lookup_cons, Json.text?]

namespace Property

theorem read_boundFields (once : (Entries.keys fields).Nodup) (key : String)
    (make : PropRef → Option String → Property) :
    (boundFields key make : Fields (holding fields) Property).read =
      ((fields.lookup key).bind fun json =>
        ((ofJson json).record .held PropRef.fields).toOption).bind fun ref =>
          (orAbsent Json.text? (fields.lookup "defaultValue")).map (make ref) := by
  rw [boundFields, read_seq, read_map,
    read_required once key fun document => document.record .held PropRef.fields,
    read_string? once, Option.bind_map]
  rfl

/-- The key that each form is told by. -/
def tellingKeys : List String :=
  ["bindingProperties", "collectionBindingProperties", "concat", "condition", "userAttribute",
    "componentName", "value"]

/-- Without the key that tells it, a form is not there. -/
theorem read_form_of_absent (once : (Entries.keys fields).Nodup) :
    List.Forall₂ (fun key form => fields.lookup key = none → Fields.read form = none)
      tellingKeys (forms fields) := by
  have bound (key : String) (make : PropRef → Option String → Property)
      (absent : fields.lookup key = none) :
      (boundFields key make : Fields (holding fields) Property).read = none := by
    rw [read_boundFields once, absent]
    rfl
  refine .cons (bound _ _) (.cons (bound _ _) (.cons ?_ (.cons ?_ (.cons ?_ (.cons ?_
    (.cons ?_ .nil))))))
  · intro absent
    rw [read_map, read_required_absent once absent, Option.map_none]
  · exact fun absent => read_required_absent once absent _
  · intro absent
    rw [read_map, read_string once, absent]
    rfl
  · intro absent
    rw [read_map, StateRef.read_fields once, absent]
    rfl
  · intro absent
    rw [read_seq, read_map, read_literal once, absent]
    rfl

/-- Forms whose telling keys are absent are passed over. -/
theorem findSome?_forms (once : (Entries.keys fields).Nodup) (passed : Nat)
    (absent : ∀ key ∈ tellingKeys.take passed, fields.lookup key = none) :
    (forms fields).findSome? Fields.read = ((forms fields).drop passed).findSome? Fields.read := by
  have each := read_form_of_absent once
  generalize forms fields = forms, tellingKeys = keys at each absent ⊢
  induction each generalizing passed with
  | nil => rw [List.drop_nil]
  | cons first _ ih =>
    cases passed with
    | zero => rfl
    | succ passed =>
      rw [List.take_succ_cons, List.forall_mem_cons] at absent
      rw [List.findSome?_cons, first absent.1, List.drop_succ_cons]
      exact ih passed absent.2

theorem decode_bound (ref : PropRef) (fallback : Option String) :
    decode (ofJson (bound ref fallback).encode) = .ok (bound ref fallback) := by
  have distinct := encode_distinct (bound ref fallback)
  rw [encode, encodeBound] at distinct ⊢
  rw [← toOption_eq_some, ofJson_obj, decode_holding distinct, forms, List.findSome?_cons,
    read_boundFields distinct.1]
  simp only [List.lookup_cons_self, Option.bind_some, ref.record_encode]
  simp [List.lookup_cons]

theorem decode_collectionBound (ref : PropRef) (fallback : Option String) :
    decode (ofJson (collectionBound ref fallback).encode) = .ok (collectionBound ref fallback) := by
  have distinct := encode_distinct (collectionBound ref fallback)
  rw [encode, encodeBound] at distinct ⊢
  rw [← toOption_eq_some, ofJson_obj, decode_holding distinct,
    findSome?_forms distinct.1 1 (by simp [tellingKeys, List.lookup_cons]), forms,
    List.drop_succ_cons, List.drop_zero, List.findSome?_cons, read_boundFields distinct.1]
  simp only [List.lookup_cons_self, Option.bind_some, ref.record_encode]
  simp [List.lookup_cons]

theorem decode_auth (name : String) : decode (ofJson (auth name).encode) = .ok (auth name) := by
  have distinct := encode_distinct (auth name)
  rw [encode] at distinct ⊢
  rw [← toOption_eq_some, ofJson_obj, decode_holding distinct,
    findSome?_forms distinct.1 4 (by simp [tellingKeys, List.lookup_cons]), forms]
  simp [read_string distinct.1, Json.text?]

theorem decode_state (ref : StateRef) : decode (ofJson (state ref).encode) = .ok (state ref) := by
  have distinct := encode_distinct (state ref)
  rw [encode] at distinct ⊢
  rw [← toOption_eq_some, ofJson_obj, decode_holding distinct,
    findSome?_forms distinct.1 5 (by simp [tellingKeys, StateRef.encode, List.lookup_cons]), forms]
  simp only [List.drop_succ_cons, List.drop_zero, List.findSome?_cons, read_map,
    StateRef.read_fields distinct.1]
  simp [StateRef.encode, List.lookup_cons, Json.text?]

theorem decode_fixed (value : Literal) (type : Option String) :
    decode (ofJson (fixed value type).encode) = .ok (fixed value type) := by
  have distinct := encode_distinct (fixed value type)
  rw [encode] at distinct ⊢
  rw [← toOption_eq_some, ofJson_obj, decode_holding distinct,
    findSome?_forms distinct.1 6 (by simp [tellingKeys, List.lookup_cons]), forms]
  simp only [List.drop_succ_cons, List.drop_zero, List.findSome?_cons, read_seq, read_map,
    read_literal distinct.1, read_string? distinct.1, List.lookup_cons_self, Option.bind_some,
    literal_ofJson]
  simp [List.lookup_cons]

theorem decode_concat {parts : List Property}
    (each : parts.mapM (fun part => decode (ofJson part.encode)) = .ok parts) :
    decode (ofJson (concat parts).encode) = .ok (concat parts) := by
  have distinct := encode_distinct (concat parts)
  rw [encode, encodeAll_eq_map] at distinct ⊢
  have listed : (ofJson (.arr (parts.map encode))).list (fun item => decode item.1) = .ok parts := by
    rw [list_ofJson decode, List.mapM_map]
    exact each
  rw [← toOption_eq_some, ofJson_obj, decode_holding distinct,
    findSome?_forms distinct.1 2 (by simp [tellingKeys, List.lookup_cons]), forms]
  simp only [List.drop_succ_cons, List.drop_zero, List.findSome?_cons, read_map,
    read_required distinct.1 "concat" fun document => document.list fun item => decode item.1,
    List.lookup_cons_self, Option.bind_some, listed, toOption_ok, Option.map_some]

/-- The members of the condition in the JSON of a conditional property. -/
def conditionMembers (test : Comparison) (yes no : Property) : List (String × Json) :=
  test.subject.encode ++ [("operator", .str test.operator), ("operand", test.operand.json)] ++
    Json.field? "operandType" (test.operandType.map .str) ++
    [("then", yes.encode), ("else", no.encode)]

theorem record_conditionMembers {test : Comparison} {yes no : Property}
    (distinct : (Json.obj (conditionMembers test yes no)).Distinct)
    (first : decode (ofJson yes.encode) = .ok yes) (second : decode (ofJson no.encode) = .ok no) :
    ((ofJson (.obj (conditionMembers test yes no))).record .held conditionFields).toOption =
      some (conditional test yes no) := by
  rw [ofJson_obj, record_ofJson, conditionFields]
  simp only [read_seq, read_map, read_string distinct.1, read_string? distinct.1,
    read_literal distinct.1, read_required distinct.1 "then" decode,
    read_required distinct.1 "else" decode]
  simp [conditionMembers, PropRef.encode, List.lookup_cons, List.lookup_append, Json.text?,
    literal_ofJson, first, second, ofCondition]

theorem decode_conditional (test : Comparison) {yes no : Property}
    (first : decode (ofJson yes.encode) = .ok yes) (second : decode (ofJson no.encode) = .ok no) :
    decode (ofJson (conditional test yes no).encode) = .ok (conditional test yes no) := by
  have distinct := encode_distinct (conditional test yes no)
  have written : (conditional test yes no).encode =
      .obj [("condition", .obj (conditionMembers test yes no))] := by
    rw [encode, conditionMembers]
  rw [written] at distinct ⊢
  rw [← toOption_eq_some, ofJson_obj, decode_holding distinct,
    findSome?_forms distinct.1 3 (by simp [tellingKeys, List.lookup_cons]), forms]
  simp only [List.drop_succ_cons, List.drop_zero, List.findSome?_cons,
    read_required distinct.1 "condition" fun document => document.record .held conditionFields,
    List.lookup_cons_self, Option.bind_some,
    record_conditionMembers distinct.2.1 first second]

mutual

/-- Every property comes back from its JSON as it was. -/
theorem decode_ofJson_encode : (property : Property) →
    decode (ofJson property.encode) = .ok property
  | .bound ref fallback => decode_bound ref fallback
  | .collectionBound ref fallback => decode_collectionBound ref fallback
  | .concat parts => decode_concat (mapM_decode_encode parts)
  | .conditional test yes no =>
    decode_conditional test (decode_ofJson_encode yes) (decode_ofJson_encode no)
  | .auth name => decode_auth name
  | .state ref => decode_state ref
  | .fixed value type => decode_fixed value type

theorem mapM_decode_encode : (parts : List Property) →
    parts.mapM (fun part => decode (ofJson part.encode)) = .ok parts
  | [] => rfl
  | part :: parts => by
    rw [List.mapM_cons, decode_ofJson_encode part, mapM_decode_encode parts]
    rfl

end

theorem decode_encode (property : Property) :
    Json.decode (fun _ => decode) property.encode = .ok property :=
  decode_ofJson_encode property

end Property

end reading

end JsxGen
