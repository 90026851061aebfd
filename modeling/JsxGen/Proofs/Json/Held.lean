import JsxGen.Json.Fields
import JsxGen.Proofs.OrderedMap
import JsxGen.Proofs.Outcome

/-!
Values that are held while they are decoded. A record is read from an object by looking up its
fields (`record_ofJson`, `read_field`); lists and maps are decoded item by item.
-/

namespace JsxGen

section outcomes

variable {ε ε' α β : Type}

@[simp] theorem toOption_ok (a : α) : (Except.ok a : Except ε α).toOption = some a := rfl

@[simp] theorem toOption_error (e : ε) : (Except.error e : Except ε α).toOption = none := rfl

theorem toOption_eq_some {x : Except ε α} {a : α} : x.toOption = some a ↔ x = .ok a := by
  cases x with
  | error e => simp
  | ok b => simp

@[simp] theorem toOption_map (f : α → β) (x : Except ε α) :
    (x.map f).toOption = x.toOption.map f := by
  cases x <;> rfl

@[simp] theorem toOption_mapError (f : ε → ε') (x : Except ε α) :
    (x.mapError f).toOption = x.toOption := by
  cases x <;> rfl

/-- The first of the two that succeeds counts. -/
@[simp] theorem toOption_orElse (x y : Except ε α) :
    (x <|> y).toOption = x.toOption.or y.toOption := by
  cases x <;> rfl

end outcomes

def Json.text? : Json → Option String
  | .str text => some text
  | _ => none

namespace Document

theorem ofItems_eq_map (items : List Json) : ofItems items = items.map ofJson := by
  induction items with
  | nil => rw [ofItems, List.map_nil]
  | cons item items ih => rw [ofItems, List.map_cons, ih]

theorem ofFields_eq_map (fields : List (String × Json)) :
    ofFields fields = fields.map fun field => (some field.1, ofJson field.2) := by
  induction fields with
  | nil => rw [ofFields, List.map_nil]
  | cons field fields ih => rw [ofFields, List.map_cons, ih]

theorem exists_field {fields : List (String × Json)} {key : Option String} {value : Document}
    (listed : (key, value) ∈ ofFields fields) :
    ∃ field ∈ fields, key = some field.1 ∧ value = ofJson field.2 := by
  rw [ofFields_eq_map] at listed
  obtain ⟨field, member, same⟩ := List.mem_map.1 listed
  cases same
  exact ⟨field, member, rfl, rfl⟩

/-- The object with the fields, as it is held. -/
abbrev holding (fields : List (String × Json)) : Document := .obj (ofFields fields) none

theorem ofJson_obj (fields : List (String × Json)) : ofJson (.obj fields) = holding fields := by
  rw [ofJson]

mutual

theorem toJson_ofJson : (json : Json) → json.Distinct → (ofJson json).toJson = .ok json
  | .null, _ | .bool _, _ | .num _, _ | .str _, _ => by rw [ofJson, toJson]
  | .arr items, distinct => by
    rw [ofJson, toJson, itemsToJson_ofItems items distinct]
    rfl
  | .obj fields, distinct => by
    rw [ofJson, toJson, membersToJson_ofFields fields distinct.2]
    exact congrArg (Except.ok ∘ Json.obj) (Entries.merge_of_nodup distinct.1)

theorem itemsToJson_ofItems : (items : List Json) → Json.AllDistinct items →
    itemsToJson (ofItems items) = .ok items
  | [], _ => by rw [ofItems, itemsToJson]
  | item :: items, distinct => by
    rw [ofItems, itemsToJson, toJson_ofJson item distinct.1, itemsToJson_ofItems items distinct.2]
    rfl

theorem membersToJson_ofFields : (fields : List (String × Json)) → Json.FieldsDistinct fields →
    membersToJson (ofFields fields) = .ok fields
  | [], _ => by rw [ofFields, membersToJson]
  | (key, json) :: fields, distinct => by
    rw [ofFields, membersToJson, toJson_ofJson json distinct.1,
      membersToJson_ofFields fields distinct.2]
    rfl

end

mutual

theorem skip_ofJson : (json : Json) → (ofJson json).skip = .ok ()
  | .null | .bool _ | .num _ | .str _ => by simp only [ofJson, skip]
  | .arr items => by
    rw [ofJson, skip, skipItems_ofItems items]
    rfl
  | .obj fields => by
    rw [ofJson, skip, skipMembers_ofFields fields]
    rfl

theorem skipItems_ofItems : (items : List Json) → skipItems (ofItems items) = .ok ()
  | [] => by rw [ofItems, skipItems]
  | item :: items => by
    rw [ofItems, skipItems, skip_ofJson item, skipItems_ofItems items]
    rfl

theorem skipMembers_ofFields : (fields : List (String × Json)) →
    skipMembers (ofFields fields) = .ok ()
  | [] => by rw [ofFields, skipMembers]
  | (key, json) :: fields => by
    rw [ofFields, skipMembers, skip_ofJson json, skipMembers_ofFields fields]
    rfl

end

theorem readThrough_ofJson {json : Json} (distinct : json.Distinct) :
    (ofJson json).readThrough = .ok () := by
  rw [readThrough, toJson_ofJson json distinct]
  rfl

theorem readThrough_holding {fields : List (String × Json)} (distinct : (Json.obj fields).Distinct) :
    (holding fields).readThrough = .ok () := by
  rw [← ofJson_obj]
  exact readThrough_ofJson distinct

theorem literal_ofJson (value : Literal) : (ofJson value.json).literal = .ok value := by
  have whole := toJson_ofJson value.json value.distinct
  unfold literal toLiteral
  split
  · rename_i json read
    rw [whole] at read
    cases read
    rfl
  · rename_i fault read
    rw [whole] at read
    cases read

section parts

variable {α : Type}

theorem mapM_itemParts (g : Document → Decoded α) (items : List Document) (close : Option Flaw) :
    (itemParts items close).mapM (fun part => g part.1) = items.mapM g := by
  rw [itemParts, List.mapM_map]
  calc
    _ = (items.attach.map Subtype.val).mapM g := List.mapM_map.symm
    _ = items.mapM g := by rw [List.attach_map_subtype_val]

theorem list_ofJson (g : Document → Decoded α) (items : List Json) :
    (ofJson (.arr items)).list (fun part => g part.1) = items.mapM fun item => g (ofJson item) := by
  rw [ofJson, list, mapM_itemParts, ofItems_eq_map, List.mapM_map]
  exact bind_pure _

theorem memberParts_eq (members : List (Option String × Document)) (close : Option Flaw) :
    (memberParts members close).map (fun member => (member.1, member.2.1)) = members := by
  rw [memberParts, List.map_map]
  exact List.attach_map_subtype_val members

/-- A member is read under its key. -/
def readKeyed (g : Document → Decoded α) : Option String × Document → Decoded (String × α)
  | (none, _) => .error (.text .malformed)
  | (some key, value) => (g value).map (key, ·)

theorem mapM_memberParts (g : Document → Decoded α) (members : List (Option String × Document))
    (close : Option Flaw) :
    (memberParts members close).mapM (readMember fun part => g part.1) =
      members.mapM (readKeyed g) := by
  have keyed : (readMember (fun part => g part.1) ∘ fun member => (member.1.1,
      ⟨member.1.2, sizeOf_member close member.2⟩)) =
      (readKeyed g ∘ Subtype.val : { member // member ∈ members } → Decoded (String × α)) := by
    funext member
    obtain ⟨⟨key, value⟩, _⟩ := member
    cases key <;> rfl
  rw [memberParts, List.mapM_map, keyed]
  calc
    _ = (members.attach.map Subtype.val).mapM (readKeyed g) := List.mapM_map.symm
    _ = members.mapM (readKeyed g) := by rw [List.attach_map_subtype_val]

theorem map_ofJson (g : Document → Decoded α) (fields : List (String × Json)) :
    (holding fields).map (fun part => g part.1) =
      (fields.mapM fun field => (g (ofJson field.2)).map (field.1, ·)).map .ofList := by
  rw [map, mapM_memberParts, ofFields_eq_map, List.mapM_map]
  exact bind_pure_comp _ _

end parts

end Document

namespace Fields

open Document

variable {fields : List (String × Json)} {α β : Type}

/-- The members of an object that is held. -/
def heldMembers (fields : List (String × Json)) : List (PlacedMember (holding fields)) :=
  known (memberParts (ofFields fields) none).zipIdx

def named? : Option String × Document → Option (String × Document)
  | (some key, value) => some (key, value)
  | (none, _) => none

theorem heldMembers_eq (fields : List (String × Json)) :
    (heldMembers fields).map (fun member => (member.key, member.value.1)) =
      fields.map fun field => (field.1, ofJson field.2) := by
  have unplaced : ∀ members : List ((Option String × Part (holding fields)) × Nat),
      (known members).map (fun member => (member.key, member.value.1)) =
        ((members.map Prod.fst).map fun member => (member.1, member.2.1)).filterMap named? := by
    intro members
    rw [known, List.map_filterMap, List.filterMap_map, List.filterMap_map]
    refine congrArg (List.filterMap · members) (funext fun member => ?_)
    obtain ⟨⟨key, value⟩, place⟩ := member
    cases key <;> rfl
  calc
    _ = (ofFields fields).filterMap named? := by
      rw [heldMembers, unplaced, List.zipIdx_map_fst, memberParts_eq]
    _ = fields.map fun field => (field.1, ofJson field.2) := by
      rw [ofFields_eq_map, List.filterMap_map, ← List.filterMap_eq_map]
      rfl

theorem outerFault_held (names : List String) (fields : List (String × Json)) (total : Nat) :
    outerFault names (memberParts (ofFields fields) none).zipIdx total none = none := by
  rw [outerFault, Option.map_none, Option.or_none, List.findSome?_eq_none_iff]
  intro placed inside
  obtain ⟨⟨key, value⟩, place⟩ := placed
  have member : (key, value) ∈ memberParts (ofFields fields) none :=
    List.mem_of_getElem? (List.mem_zipIdx_iff_getElem?.1 inside)
  have listed : (key, value.1) ∈ ofFields fields := by
    have mapped := List.mem_map_of_mem (f := fun member => (member.1, member.2.1)) member
    rwa [memberParts_eq] at mapped
  obtain ⟨field, _, rfl, held⟩ := exists_field listed
  have skipped : value.1.skip = .ok () := by rw [held, skip_ofJson]
  simp [skipped]

/-- What the fields give for an object that is held, if they are all there and of the right shape. -/
def read (record : Fields (holding fields) α) : Option α :=
  (record.ofMembers (heldMembers fields) (ofFields fields).length).toOption

theorem record_ofJson (reading : Reading) (record : Fields (holding fields) α) :
    ((holding fields).record reading record).toOption = record.read := by
  rw [read, heldMembers, Document.record, outerFault_held]
  cases record.ofMembers (known (memberParts (ofFields fields) none).zipIdx)
    (ofFields fields).length <;> rfl

@[simp] theorem read_map (f : α → β) (record : Fields (holding fields) α) :
    (f <$> record).read = record.read.map f := by
  change (both (.ok f) (record.ofMembers _ _)).toOption = _
  rw [read]
  cases record.ofMembers (heldMembers fields) (ofFields fields).length <;> rfl

@[simp] theorem read_seq (f : Fields (holding fields) (α → β))
    (record : Fields (holding fields) α) :
    (f <*> record).read = f.read.bind fun f => record.read.map f := by
  change (both (f.ofMembers _ _) (record.ofMembers _ _)).toOption = _
  rw [read, read]
  cases f.ofMembers (heldMembers fields) (ofFields fields).length <;>
    cases record.ofMembers (heldMembers fields) (ofFields fields).length <;> rfl

/-- At most one member is called `name`; it holds what the object has there. -/
theorem filter_key {whole : Document} {members : List (PlacedMember whole)} (name : String)
    (same : members.map (fun member => (member.key, member.value.1)) =
      fields.map fun field => (field.1, ofJson field.2))
    (once : (Entries.keys fields).Nodup) :
    match fields.lookup name with
    | none => members.filter (·.key = name) = []
    | some json => ∃ member, members.filter (·.key = name) = [member] ∧
        member.value.1 = ofJson json := by
  induction members generalizing fields with
  | nil =>
    obtain rfl := List.map_eq_nil_iff.1 same.symm
    rfl
  | cons member members ih =>
    obtain ⟨field, fields, rfl, first, others⟩ := List.map_eq_cons_iff.1 same.symm
    obtain ⟨key, json⟩ := field
    obtain ⟨absent, once⟩ := List.nodup_cons.1 once
    have rest := ih others.symm once
    have key_eq : key = member.key := (Prod.mk.inj first).1
    by_cases found : key = name
    · subst found
      have gone : fields.lookup key = none := by
        refine List.lookup_eq_none_iff.2 fun other inside => bne_iff_ne.2 fun same => ?_
        have listed : other.1 ∈ Entries.keys fields := List.mem_map_of_mem inside
        exact absent (same ▸ listed)
      rw [gone] at rest
      simp only [List.lookup_cons_self]
      exact ⟨member, by simp [← key_eq, rest], (Prod.mk.inj first).2.symm⟩
    · have other : (name == key) = false := beq_eq_false_iff_ne.2 (Ne.symm found)
      have passed : (member :: members).filter (·.key = name) = members.filter (·.key = name) := by
        simp [← key_eq, found]
      rw [passed, List.lookup_cons, other]
      exact rest

theorem read_field (once : (Entries.keys fields).Nodup) (name : String) (absent : Option α)
    (g : Document → Decoded α) :
    (field name absent fun part => g part.1 : Fields (holding fields) α).read =
      match fields.lookup name with
      | none => absent
      | some json => (g (ofJson json)).toOption := by
  have named := filter_key name (heldMembers_eq fields) once
  unfold read field
  cases found : fields.lookup name with
  | none =>
    rw [found] at named
    simp only [named]
    cases absent <;> rfl
  | some json =>
    rw [found] at named
    obtain ⟨member, only, held⟩ := named
    simp only [only, held]
    cases g (ofJson json) <;> rfl

theorem read_required (once : (Entries.keys fields).Nodup) (name : String)
    (g : Document → Decoded α) :
    (required name fun part => g part.1 : Fields (holding fields) α).read =
      (fields.lookup name).bind fun json => (g (ofJson json)).toOption := by
  rw [required, read_field once]
  cases fields.lookup name <;> rfl

theorem read_required_absent (once : (Entries.keys fields).Nodup) {name : String}
    (absent : fields.lookup name = none) (value : Part (holding fields) → Decoded α) :
    (required name value).read = none := by
  have named := filter_key name (heldMembers_eq fields) once
  rw [absent] at named
  unfold read required field
  simp only [named, toOption_error]

theorem read_defaulted (once : (Entries.keys fields).Nodup) (name : String) (absent : α)
    (g : Document → Decoded α) :
    (defaulted name absent fun part => g part.1 : Fields (holding fields) α).read =
      ((fields.lookup name).map fun json => (g (ofJson json)).toOption).getD (some absent) := by
  rw [defaulted, read_field once]
  cases fields.lookup name <;> rfl

/-- A value with `null` for its absence. -/
def readOption (g : Document → Decoded α) : Document → Decoded (Option α)
  | .null => .ok none
  | document => (g document).map some

/-- The value of a field that may be absent, also as `null`. -/
def orAbsent (value : Json → Option α) : Option Json → Option (Option α)
  | none | some .null => some none
  | some json => (value json).map some

theorem read_optional (once : (Entries.keys fields).Nodup) (name : String)
    (g : Document → Decoded α) :
    (optional name fun part => g part.1 : Fields (holding fields) (Option α)).read =
      orAbsent (fun json => (g (ofJson json)).toOption) (fields.lookup name) := by
  have same : (Document.option fun part => g part.1 : Part (holding fields) → _) =
      fun part => readOption g part.1 := by
    funext part
    obtain ⟨document, smaller⟩ := part
    cases document <;> rfl
  rw [optional, same, read_field once]
  cases fields.lookup name with
  | none => rfl
  | some json =>
    cases json with
    | null => rfl
    | _ => exact toOption_map _ _

theorem toOption_string (json : Json) : (ofJson json).string.toOption = json.text? := by
  cases json <;> rfl

theorem read_string (once : (Entries.keys fields).Nodup) (name : String) :
    (string name : Fields (holding fields) String).read = (fields.lookup name).bind Json.text? := by
  rw [string, read_required once]
  simp only [toOption_string]

theorem read_string? (once : (Entries.keys fields).Nodup) (name : String) :
    (string? name : Fields (holding fields) (Option String)).read =
      orAbsent Json.text? (fields.lookup name) := by
  rw [string?, read_optional once]
  simp only [toOption_string]

theorem read_literal (once : (Entries.keys fields).Nodup) (name : String) :
    (literal name : Fields (holding fields) Literal).read =
      (fields.lookup name).bind fun json => (ofJson json).literal.toOption :=
  read_required once name Document.literal

end Fields

end JsxGen
