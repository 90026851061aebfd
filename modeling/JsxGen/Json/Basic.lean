import JsxGen.Number.Binary64
import JsxGen.OrderedMap

/-! JSON values, and those without repeated keys. -/

namespace JsxGen

inductive JsonNumber where
  | int (value : Int)
  | float (value : Binary64)
  deriving DecidableEq

def JsonNumber.toBinary64 : JsonNumber → Binary64
  | .int value => .ofInt value
  | .float value => value

inductive Json where
  | null
  | bool (value : Bool)
  | num (value : JsonNumber)
  | str (value : String)
  | arr (items : List Json)
  | obj (fields : List (String × Json))
  deriving Inhabited

namespace Json

mutual

/-- No object in the value has a key twice. -/
def Distinct : Json → Prop
  | .null | .bool _ | .num _ | .str _ => True
  | .arr items => AllDistinct items
  | .obj fields => (Entries.keys fields).Nodup ∧ FieldsDistinct fields

def AllDistinct : List Json → Prop
  | [] => True
  | item :: items => item.Distinct ∧ AllDistinct items

def FieldsDistinct : List (String × Json) → Prop
  | [] => True
  | (_, value) :: fields => value.Distinct ∧ FieldsDistinct fields

end

theorem fieldsDistinct_iff {fields : List (String × Json)} :
    FieldsDistinct fields ↔ ∀ field ∈ fields, field.2.Distinct := by
  induction fields with
  | nil => simp [FieldsDistinct]
  | cons field fields ih => simp [FieldsDistinct, ih]

theorem fieldsDistinct_merge {fields : List (String × Json)} (h : FieldsDistinct fields) :
    FieldsDistinct (Entries.merge fields) :=
  fieldsDistinct_iff.2 fun _ m => fieldsDistinct_iff.1 h _ (Entries.mem_of_mem_merge m)

end Json

/-- The field of an object, if it has a value. -/
def Json.field? (key : String) (value : Option Json) : List (String × Json) :=
  (value.map fun value => (key, value)).toList

/-- A JSON value kept in a schema: its objects have distinct keys. -/
structure Literal where
  json : Json
  distinct : json.Distinct

/-- The object of a map. -/
def OrderedMap.encode {α : Type} (value : α → Json) (m : OrderedMap α) : Json :=
  .obj (m.entries.map fun entry => (entry.1, value entry.2))

end JsxGen
