import JsxGen.Proofs.Json.Gives
import JsxGen.Proofs.Json.Written
import JsxGen.Schema.Binding

/-!
Props and queries written as JSON and decoded again. Only a predicate that is `null` is lost, and no
such predicate is ever decoded.
-/

namespace JsxGen

open Document Fields

def Json.isNull : Json → Bool
  | .null => true
  | _ => false

namespace Query

theorem encode_distinct (query : Query) : query.encode.Distinct := by
  obtain ⟨model, predicate⟩ := query
  cases predicate with
  | none => simp [encode, Json.Distinct, Json.FieldsDistinct, Json.field?]
  | some predicate =>
    have inner := predicate.distinct
    simpa [encode, Json.Distinct, Json.FieldsDistinct, Json.field?] using inner

/-- The query as it comes back: a predicate `null` is no predicate. -/
def settled (query : Query) : Query :=
  ⟨query.model, query.predicate.filter fun predicate => !predicate.json.isNull⟩

theorem decode_ofJson_encode (reading : Reading) (query : Query) :
    decode reading (ofJson query.encode) = .ok query.settled := by
  have distinct := query.encode_distinct
  rw [encode] at distinct ⊢
  rw [← toOption_eq_some, ofJson_obj, decode, record_ofJson, Query.fields, read_seq, read_map,
    read_string distinct.1, read_optional distinct.1 "predicate" Document.literal]
  obtain ⟨model, predicate⟩ := query
  cases predicate with
  | none => simp [List.lookup_cons, Json.text?, orAbsent, settled]
  | some predicate =>
    have kept := literal_ofJson predicate
    obtain ⟨json, inner⟩ := predicate
    cases json with
    | null =>
      simp [List.lookup_cons, Json.text?, orAbsent, settled]
      rfl
    | _ =>
      dsimp only at kept
      simp [List.lookup_cons, Json.text?, orAbsent, settled, kept]
      rfl

end Query

theorem Document.isNull_literal {document : Document} {value : Literal}
    (decoded : document.literal = .ok value) (other : document ≠ .null) :
    value.json.isNull = false := by
  have read : document.toJson = .ok value.json := by
    unfold literal toLiteral at decoded
    split at decoded
    · cases decoded
      assumption
    · cases decoded
  cases document with
  | null => exact absurd rfl other
  | bool _ | num _ | str _ =>
    rw [toJson] at read
    cases value with
    | mk json _ => cases read; rfl
  | arr items close =>
    rw [toJson] at read
    obtain ⟨_, _, read⟩ := bind_eq_ok.1 read
    obtain ⟨_, _, read⟩ := bind_eq_ok.1 read
    rw [← Except.ok.inj read]
    rfl
  | obj members close =>
    rw [toJson] at read
    obtain ⟨_, _, read⟩ := bind_eq_ok.1 read
    obtain ⟨_, _, read⟩ := bind_eq_ok.1 read
    rw [← Except.ok.inj read]
    rfl
  | deep _ | broken _ => simp [toJson] at read

theorem Query.settled_of_decode {reading : Reading} {document : Document} {query : Query}
    (decoded : decode reading document = .ok query) : query.settled = query := by
  obtain ⟨make, predicate, rest, found, rfl⟩ := (record_gives decoded).seq
  obtain ⟨model, _, rfl⟩ := rest.map
  cases predicate with
  | none => rfl
  | some predicate =>
    obtain ⟨part, other, read⟩ := found.optional
    simp [settled, isNull_literal read other]

namespace Binding

theorem encode_distinct (binding : Binding) : binding.encode.Distinct := by
  cases binding with
  | data query =>
    have inner := query.encode_distinct
    simpa [encode, Json.Distinct, Json.FieldsDistinct] using inner
  | scalar type fallback =>
    cases fallback <;> simp [encode, Json.Distinct, Json.FieldsDistinct, Json.field?]
  | event => simp [encode, Json.Distinct, Json.FieldsDistinct]
  | slot => simp [encode, Json.Distinct, Json.FieldsDistinct]

def settled : Binding → Binding
  | .data query => .data query.settled
  | binding => binding

theorem lookup_tags (type : ScalarType) : tags.lookup type.name = some (.scalar type) := by
  cases type <;> rfl

theorem decode_ofJson_encode (binding : Binding) :
    decode (ofJson binding.encode) = .ok binding.settled := by
  have distinct := binding.encode_distinct
  cases binding with
  | data query =>
    rw [encode] at distinct ⊢
    have rest : (Json.obj [("bindingProperties", query.encode)]).Distinct :=
      ⟨by simp, distinct.2.2⟩
    rw [ofJson_obj, decode, tagged_holding rfl distinct.2.2 (by simp), ← toOption_eq_some]
    change ((holding _).record .held _).toOption = _
    rw [record_ofJson, read_map, read_required rest.1 "bindingProperties" (Query.decode .held)]
    simp [query.decode_ofJson_encode, settled]
  | scalar type fallback =>
    rw [encode] at distinct ⊢
    have rest : (Json.obj (Json.field? "defaultValue" (fallback.map .str))).Distinct :=
      ⟨(List.nodup_cons.1 distinct.1).2, distinct.2.2⟩
    rw [ofJson_obj, decode, tagged_holding (lookup_tags type) distinct.2.2
      (List.nodup_cons.1 distinct.1).1, ← toOption_eq_some]
    change ((holding _).record .held _).toOption = _
    rw [record_ofJson, read_map, read_string? rest.1]
    cases fallback <;> simp [orAbsent, Json.text?, settled]
  | event =>
    have split : (holding [("type", .str "Event")]).tagged tags = .ok (.event, holding []) :=
      tagged_holding rfl trivial List.not_mem_nil
    rw [encode, ofJson_obj, decode, split]
    rfl
  | slot =>
    have split : (holding [("type", .str "Amplify.Slot")]).tagged tags = .ok (.slot, holding []) :=
      tagged_holding rfl trivial List.not_mem_nil
    rw [encode, ofJson_obj, decode, split]
    rfl

theorem settled_of_decode {document : Document} {binding : Binding}
    (decoded : decode document = .ok binding) : binding.settled = binding := by
  cases binding with
  | data query =>
    obtain ⟨⟨tag, rest⟩, _, decoded⟩ := bind_eq_ok.1 decoded
    cases tag with
    | data =>
      obtain ⟨found, given, same⟩ := (record_gives decoded).map
      cases same
      obtain absent | ⟨part, read⟩ := given.field
      · cases absent
      · rw [settled, Query.settled_of_decode read]
    | scalar type =>
      obtain ⟨_, _, same⟩ := (record_gives decoded).map
      cases same
    | event | slot =>
      dsimp only [withoutFields] at decoded
      split at decoded <;> cases decoded
  | _ => rfl

end Binding

end JsxGen
