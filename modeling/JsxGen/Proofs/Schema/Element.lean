import JsxGen.Proofs.Schema.Event
import JsxGen.Schema.Element

/-! Trees of elements written as JSON and decoded again: they come back with their events settled. -/

namespace JsxGen

open Document Fields

namespace Element

theorem encodeAll_eq_map (children : List Element) : encodeAll children = children.map encode := by
  induction children with
  | nil => rw [encodeAll, List.map_nil]
  | cons child children ih => rw [encodeAll, List.map_cons, ih]

mutual

theorem encode_distinct : (element : Element) → element.encode.Distinct
  | ⟨name, type, properties, children, events⟩ => by
    have first : (properties.encode Property.encode).Distinct :=
      OrderedMap.encode_distinct fun property _ => property.encode_distinct
    have second := encodeAll_distinct children
    have third : (events.encode Event.encode).Distinct :=
      OrderedMap.encode_distinct fun event _ => event.encode_distinct
    simp [encode, Json.Distinct, Json.FieldsDistinct, first, second, third]

theorem encodeAll_distinct : (children : List Element) → Json.AllDistinct (encodeAll children)
  | [] => trivial
  | child :: children => by
    rw [encodeAll]
    exact ⟨encode_distinct child, encodeAll_distinct children⟩

end

mutual

def settled : Element → Element
  | ⟨name, type, properties, children, events⟩ =>
    ⟨name, type, properties, settledAll children, events.map Event.settled⟩

def settledAll : List Element → List Element
  | [] => []
  | child :: children => child.settled :: settledAll children

end

theorem settled_eq (element : Element) : element.settled =
    ⟨element.name, element.type, element.properties, settledAll element.children,
      element.events.map Event.settled⟩ := by
  obtain ⟨name, type, properties, children, events⟩ := element
  rw [settled]

variable (reading : Reading)

mutual

theorem decode_ofJson_encode : (element : Element) →
    decode reading (ofJson element.encode) = .ok element.settled
  | ⟨name, type, properties, children, events⟩ => by
    have distinct := encode_distinct ⟨name, type, properties, children, events⟩
    have first : (ofJson (properties.encode Property.encode)).map
        (fun part => Property.decode part.1) = .ok properties :=
      OrderedMap.map_encode_self fun property _ => property.decode_ofJson_encode
    have second : (ofJson (.arr (encodeAll children))).list (fun part => decode reading part.1) =
        .ok (settledAll children) := by
      rw [list_ofJson (decode reading), encodeAll_eq_map, List.mapM_map]
      exact mapM_decode_encode children
    have third : (ofJson (events.encode Event.encode)).map (fun part => Event.decode part.1) =
        .ok (events.map Event.settled) :=
      OrderedMap.map_encode fun event _ => event.decode_ofJson_encode
    rw [encode] at distinct ⊢
    rw [← toOption_eq_some, ofJson_obj, decode, record_ofJson]
    simp only [read_seq, read_map, read_string distinct.1,
      read_defaulted distinct.1 "properties" ∅
        fun document => document.map fun value => Property.decode value.1,
      read_defaulted distinct.1 "children" []
        fun document => document.list fun child => decode reading child.1,
      read_defaulted distinct.1 "events" ∅
        fun document => document.map fun value => Event.decode value.1]
    simp [List.lookup_cons, Json.text?, first, second, third, settled]

theorem mapM_decode_encode : (children : List Element) →
    children.mapM (fun child => decode reading (ofJson child.encode)) = .ok (settledAll children)
  | [] => rfl
  | child :: children => by
    rw [List.mapM_cons, decode_ofJson_encode child, mapM_decode_encode children]
    rfl

end

mutual

/-- A tree comes back as it was if all its events do. -/
theorem settled_eq_self_iff : (element : Element) →
    (element.settled = element ↔
      ∀ inner ∈ element.preorder, ∀ event ∈ inner.events.values, event.FieldsApart)
  | ⟨name, type, properties, children, events⟩ => by
    have own : events.map Event.settled = events ↔ ∀ event ∈ events.values, event.FieldsApart := by
      simp only [OrderedMap.map_eq_self_iff, Event.settled_eq_self_iff]
    rw [settled, preorder, List.forall_mem_cons, ← settledAll_eq_self_iff children, ← own]
    simp [and_comm]

theorem settledAll_eq_self_iff : (children : List Element) →
    (settledAll children = children ↔
      ∀ inner ∈ preorderAll children, ∀ event ∈ inner.events.values, event.FieldsApart)
  | [] => by simp [settledAll, preorderAll]
  | child :: children => by
    rw [settledAll, preorderAll, List.forall_mem_append, ← settled_eq_self_iff child,
      ← settledAll_eq_self_iff children, List.cons.injEq]

end

end Element

end JsxGen
