import JsxGen.Json.Text

/-!
Reading a value out of a document. Of several errors the one that comes first in the text is
reported.
-/

namespace JsxGen

/-- A value of the wrong shape. -/
inductive ShapeError where
  | missingField (name : String)
  | duplicateField (name : String)
  | unknownVariant (name : String) (expected : List String)
  | noVariant (type : String)
  | invalidType
  | invalidValue
  | invalidLength
  deriving DecidableEq

def ShapeError.message : ShapeError → String
  | .missingField name => "missing field `" ++ name ++ "`"
  | .duplicateField name => "duplicate field `" ++ name ++ "`"
  | .unknownVariant name expected =>
    "unknown variant `" ++ name ++ "`, expected one of " ++
      ", ".intercalate (expected.map fun variant => "`" ++ variant ++ "`")
  | .noVariant type => "data did not match any variant of untagged enum " ++ type
  | .invalidType => "invalid type"
  | .invalidValue => "invalid value"
  | .invalidLength => "invalid length"

inductive DecodeError where
  | text (fault : TextFault)
  | shape (error : ShapeError)
  deriving DecidableEq

abbrev Decoded := Except DecodeError

def wrongShape {α : Type} (error : ShapeError) : Decoded α :=
  .error (.shape error)

/-- Whether values are decoded while the text is read, or after all of it has been read. -/
inductive Reading where
  | streamed
  | held
  deriving DecidableEq

/-- A document that is smaller than `whole`, such as each of its parts. -/
abbrev Part (whole : Document) := { part : Document // sizeOf part < sizeOf whole }

namespace Document

theorem sizeOf_item {item : Document} {items : List Document} (close : Option Flaw)
    (h : item ∈ items) : sizeOf item < sizeOf (Document.arr items close) := by
  have := List.sizeOf_lt_of_mem h
  simp only [Document.arr.sizeOf_spec]
  omega

theorem sizeOf_member {member : Option String × Document}
    {members : List (Option String × Document)} (close : Option Flaw) (h : member ∈ members) :
    sizeOf member.2 < sizeOf (Document.obj members close) := by
  have := List.sizeOf_lt_of_mem h
  obtain ⟨key, value⟩ := member
  simp only [Document.obj.sizeOf_spec, Prod.mk.sizeOf_spec] at *
  omega

def itemParts (items : List Document) (close : Option Flaw) :
    List (Part (.arr items close)) :=
  items.attach.map fun item => ⟨item.1, sizeOf_item close item.2⟩

def memberParts (members : List (Option String × Document)) (close : Option Flaw) :
    List (Option String × Part (.obj members close)) :=
  members.attach.map fun member => (member.1.1, ⟨member.1.2, sizeOf_member close member.2⟩)

def closedText (close : Option Flaw) : Decoded Unit :=
  (closed close).mapError .text

/-- What a document is that does not have the form looked for. -/
def mismatch {α : Type} : Document → Decoded α
  | .broken flaw => .error (.text flaw.read)
  | _ => wrongShape .invalidType

def string : Document → Decoded String
  | .str value => .ok value
  | document => document.mismatch

def boolean : Document → Decoded Bool
  | .bool value => .ok value
  | document => document.mismatch

def natural : Document → Decoded Nat
  | .num (.int value) => if 0 ≤ value then .ok value.toNat else wrongShape .invalidValue
  | document => document.mismatch

def literal (document : Document) : Decoded Literal :=
  document.toLiteral.mapError .text

/-- Reads the document to its end before its value is looked at. -/
def readThrough (document : Document) : Decoded Unit :=
  (document.toJson.mapError .text).map fun _ => ()

def list {α : Type} (document : Document) (item : Part document → Decoded α) :
    Decoded (List α) :=
  match document, item with
  | .arr items close, item => do
    let values ← (itemParts items close).mapM item
    closedText close
    return values
  | .deep (.arr _ _), _ => .error (.text .malformed)
  | document, _ => document.mismatch

def readMember {α : Type} {whole : Document} (value : Part whole → Decoded α)
    (member : Option String × Part whole) : Decoded (String × α) :=
  match member with
  | (none, _) => .error (.text .malformed)
  | (some key, part) => (value part).map (key, ·)

def map {α : Type} (document : Document) (value : Part document → Decoded α) :
    Decoded (OrderedMap α) :=
  match document, value with
  | .obj members close, value => do
    let entries ← (memberParts members close).mapM (readMember value)
    closedText close
    return .ofList entries
  | .deep (.obj _ _), _ => .error (.text .malformed)
  | document, _ => document.mismatch

/-- A value with `null` for its absence. -/
def option {α : Type} {whole : Document} (value : Part whole → Decoded α) (part : Part whole) :
    Decoded (Option α) :=
  match part.1 with
  | .null => .ok none
  | _ => (value part).map some

/-- The name of a variant, and what it stands for. -/
def variant {τ : Type} (variants : List (String × τ)) (document : Document) : Decoded τ := do
  let name ← document.string
  match variants.lookup name with
  | some variant => return variant
  | none => wrongShape (.unknownVariant name (Entries.keys variants))

/-- Members are read in order: `type` at once, the others to their end, to be looked at later. -/
def taggedMembers {τ : Type} (variants : List (String × τ)) (tag : Option τ) :
    List (Option String × Document) → Decoded (Option τ × List (Option String × Document))
  | [] => .ok (tag, [])
  | (none, _) :: _ => .error (.text .malformed)
  | (some key, value) :: members =>
    if key = "type" then
      match tag with
      | some _ => wrongShape (.duplicateField "type")
      | none => do
        let tag ← value.variant variants
        taggedMembers variants (some tag) members
    else do
      value.readThrough
      let (tag, rest) ← taggedMembers variants tag members
      return (tag, (some key, value) :: rest)

/-- Splits a document into the variant that its tag names and the rest of its parts. -/
def tagged {τ : Type} (variants : List (String × τ)) : Document → Decoded (τ × Document)
  | .obj members close => do
    let (tag, rest) ← taggedMembers variants none members
    closedText close
    match tag with
    | some tag => return (tag, .obj rest none)
    | none => wrongShape (.missingField "type")
  | .arr (first :: rest) close => do
    let tag ← first.variant variants
    (Document.arr rest close).readThrough
    return (tag, .arr rest none)
  | .arr [] close => do
    closedText close
    wrongShape (.missingField "type")
  | .deep _ => .error (.text .malformed)
  | document => document.mismatch

end Document

/-- Decodes a value that has been read before. -/
def Json.decode {α : Type} (decode : Reading → Document → Decoded α) (value : Json) : Decoded α :=
  decode .held (.ofJson value)

/-- Decodes a text while it is read; more than one value in it is noticed last. -/
def JsonText.decode {α : Type} (decode : Reading → Document → Decoded α) (text : String) :
    Decoded α := do
  let parsed := JsonText.ofString text
  let value ← decode .streamed parsed.root
  if parsed.trailing then .error (.text .malformed) else return value

end JsxGen
