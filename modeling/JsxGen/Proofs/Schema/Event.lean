import JsxGen.Proofs.Schema.Parameter

/-! Events written as JSON and decoded again: they come back with their parameters settled. -/

namespace JsxGen

open Document Fields

namespace ActionEvent

theorem encode_distinct (event : ActionEvent) : event.encode.Distinct := by
  obtain ⟨action, parameters⟩ := event
  cases parameters with
  | none => simp [encode, Json.Distinct, Json.FieldsDistinct, Json.field?]
  | some parameters =>
    have inner : (parameters.encode Parameter.encode).Distinct :=
      OrderedMap.encode_distinct fun parameter _ => parameter.encode_distinct
    simpa [encode, Json.Distinct, Json.FieldsDistinct, Json.field?] using inner

def settled (event : ActionEvent) : ActionEvent :=
  ⟨event.action, event.parameters.map (·.map Parameter.settled)⟩

theorem settled_eq_self_iff (event : ActionEvent) :
    event.settled = event ↔ ∀ entry ∈ event.parameterEntries, entry.2.FieldsApart := by
  obtain ⟨action, parameters⟩ := event
  cases parameters with
  | none => simp [settled, parameterEntries]
  | some parameters =>
    have each := OrderedMap.map_eq_self_iff (f := Parameter.settled) (m := parameters)
    simp only [Parameter.settled_eq_self_iff, OrderedMap.values, List.forall_mem_map] at each
    simp [settled, parameterEntries, each]

theorem decode_ofJson_encode (reading : Reading) (event : ActionEvent) :
    decode reading (ofJson event.encode) = .ok event.settled := by
  have distinct := event.encode_distinct
  have parameters := orAbsent_map_encode event.parameters fun _ _ parameter _ =>
    parameter.decode_ofJson_encode
  rw [encode] at distinct ⊢
  rw [← toOption_eq_some, ofJson_obj, decode, record_ofJson, read_seq, read_map,
    read_string distinct.1, read_optional distinct.1 "parameters"
      fun document => document.map fun value => Parameter.decode value.1]
  simp [List.lookup_cons, Json.text?, settled, parameters]

end ActionEvent

namespace Event

theorem encode_distinct (event : Event) : event.encode.Distinct := by
  cases event with
  | action event => exact event.encode_distinct
  | binding prop => simp [encode, Json.Distinct, Json.FieldsDistinct]

def settled : Event → Event
  | .action event => .action event.settled
  | .binding prop => .binding prop

/-- The fields of every parameter of the event are told apart from properties. -/
def FieldsApart (event : Event) : Prop :=
  ∀ action ∈ event.action?, ∀ entry ∈ action.parameterEntries, entry.2.FieldsApart

theorem settled_eq_self_iff (event : Event) : event.settled = event ↔ event.FieldsApart := by
  cases event with
  | action event => simp [FieldsApart, settled, action?, event.settled_eq_self_iff]
  | binding prop => simp [FieldsApart, settled, action?]

theorem decode_ofJson_encode (event : Event) :
    decode (ofJson event.encode) = .ok event.settled := by
  have whole := readThrough_ofJson event.encode_distinct
  rw [decode, whole, ← toOption_eq_some]
  change (Except.mapError _ _).toOption = _
  rw [toOption_mapError, toOption_orElse, toOption_map]
  cases event with
  | action event =>
    rw [encode, event.decode_ofJson_encode]
    rfl
  | binding prop =>
    have distinct := encode_distinct (.binding prop)
    rw [encode] at distinct ⊢
    rw [ActionEvent.decode, ofJson_obj, record_ofJson, record_ofJson, read_seq, read_map,
      read_map, read_string distinct.1, read_string distinct.1]
    simp [List.lookup_cons, Json.text?, settled]

end Event

end JsxGen
