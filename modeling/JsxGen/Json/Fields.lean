import JsxGen.Json.Decode

/-!
Records in a document: an object with the fields under their names, or an array with the fields in
order.
-/

namespace JsxGen

/-- An error, and the place among the members where it comes up. -/
structure PlacedError where
  place : Nat
  error : DecodeError

def PlacedError.first (a b : PlacedError) : PlacedError :=
  if b.place < a.place then b else a

/-- A member of an object, numbered by its place. -/
structure PlacedMember (whole : Document) where
  place : Nat
  key : String
  value : Part whole

/-- How the fields of a record are read, from members of which there are `total`, or from items. -/
structure Fields (whole : Document) (α : Type) where
  names : List String
  ofMembers : List (PlacedMember whole) → (total : Nat) → Except PlacedError α
  ofItems : List (Part whole) → Option Flaw → Decoded (α × List (Part whole))

namespace Fields

variable {whole : Document} {α β : Type}

/-- Both values, or the error that comes first. -/
def both (f : Except PlacedError (α → β)) (x : Except PlacedError α) : Except PlacedError β :=
  match f, x with
  | .ok f, .ok a => .ok (f a)
  | .error e, .ok _ | .ok _, .error e => .error e
  | .error e, .error e' => .error (e.first e')

instance : Applicative (Fields whole) where
  pure a := ⟨[], fun _ _ => .ok a, fun items _ => .ok (a, items)⟩
  seq f x :=
    { names := f.names ++ (x ()).names
      ofMembers := fun members total => both (f.ofMembers members total) ((x ()).ofMembers members total)
      ofItems := fun items close => do
        let (g, items) ← f.ofItems items close
        let (a, items) ← (x ()).ofItems items close
        return (g a, items) }

/-- A field with its value where it is absent, if it may be absent. -/
def field (name : String) (absent : Option α) (value : Part whole → Decoded α) : Fields whole α where
  names := [name]
  ofMembers members total :=
    match members.filter (·.key = name) with
    | [] =>
      match absent with
      | some a => .ok a
      | none => .error ⟨total + 1, .shape (.missingField name)⟩
    | member :: more =>
      match value member.value with
      | .error e => .error ⟨member.place, e⟩
      | .ok a =>
        match more with
        | [] => .ok a
        | again :: _ => .error ⟨again.place, .shape (.duplicateField name)⟩
  ofItems
    | item :: items, _ => (value item).map (·, items)
    | [], some flaw => .error (.text flaw.read)
    | [], none =>
      match absent with
      | some a => .ok (a, [])
      | none => wrongShape .invalidLength

def required (name : String) (value : Part whole → Decoded α) : Fields whole α :=
  field name none value

def defaulted (name : String) (absent : α) (value : Part whole → Decoded α) : Fields whole α :=
  field name (some absent) value

def optional (name : String) (value : Part whole → Decoded α) : Fields whole (Option α) :=
  field name (some none) (Document.option value)

def string (name : String) : Fields whole String :=
  required name fun part => part.1.string

def string? (name : String) : Fields whole (Option String) :=
  optional name fun part => part.1.string

def literal (name : String) : Fields whole Literal :=
  required name fun part => part.1.literal

def boolean (name : String) (absent : Bool) : Fields whole Bool :=
  defaulted name absent fun part => part.1.boolean

/-- The first fault outside the known fields: in a key, in a value that is skipped, or at the end. -/
def outerFault (names : List String) (members : List ((Option String × Part whole) × Nat))
    (total : Nat) (close : Option Flaw) : Option PlacedError :=
  let fault? : (Option String × Part whole) × Nat → Option PlacedError
    | ((none, _), place) => some ⟨place, .text .malformed⟩
    | ((some key, value), place) =>
      if key ∈ names then none
      else
        match value.1.skip with
        | .ok () => none
        | .error fault => some ⟨place, .text fault⟩
  (members.findSome? fault?).or (close.map fun flaw => ⟨total, .text flaw.read⟩)

def known (members : List ((Option String × Part whole) × Nat)) : List (PlacedMember whole) :=
  members.filterMap fun
    | ((some key, value), place) => some ⟨place, key, value⟩
    | ((none, _), _) => none

end Fields

/-- A record with more items than fields has no valid length; while text is read it is malformed. -/
def Document.record {α : Type} (document : Document) (reading : Reading)
    (fields : Fields document α) : Decoded α :=
  match document, fields with
  | .obj members close, fields =>
    let placed := (memberParts members close).zipIdx
    let outer := Fields.outerFault fields.names placed members.length close
    match outer, fields.ofMembers (Fields.known placed) members.length with
    | none, .ok value => .ok value
    | none, .error e => .error e.error
    | some e, .ok _ => .error e.error
    | some e, .error e' => .error (e.first e').error
  | .arr items close, fields => do
    let (value, more) ← fields.ofItems (itemParts items close) close
    if more.isEmpty then
      closedText close
      return value
    else
      match reading with
      | .streamed => .error (.text .malformed)
      | .held => wrongShape .invalidLength
  | .deep _, _ => .error (.text .malformed)
  | document, _ => document.mismatch

/-- A record told by its keys: it has to be an object. -/
def Document.keyedRecord {α : Type} (document : Document) (fields : Fields document α) :
    Decoded α :=
  match document, fields with
  | .arr _ _, _ => wrongShape .invalidType
  | document, fields => document.record .held fields

end JsxGen
