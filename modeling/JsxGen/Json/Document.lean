import JsxGen.Json.Basic

/-!
JSON text as a tree, faults included: where the text stops being JSON, the tree says how. A reader of
the tree meets the faults in the order of the text. Main statement: a value taken from a document
has distinct keys (`distinct_of_toJson`).
-/

namespace JsxGen

/-- How text fails to be JSON: something else stands there, or the text ends. -/
inductive TextFault where
  | malformed
  | cutShort
  deriving DecidableEq

/-- A place where the text cannot be read on; a value that is skipped may be less well formed. -/
structure Flaw where
  read : TextFault
  skipped : Option TextFault
  deriving DecidableEq

def Flaw.of (fault : TextFault) : Flaw := ⟨fault, some fault⟩

/-- A key is `none` if it holds half of a surrogate pair. A container ends in a flaw if the text
does not close it, and is `deep` if it is nested too far to be read. -/
inductive Document where
  | null
  | bool (value : Bool)
  | num (value : JsonNumber)
  | str (value : String)
  | arr (items : List Document) (close : Option Flaw)
  | obj (members : List (Option String × Document)) (close : Option Flaw)
  | deep (container : Document)
  | broken (flaw : Flaw)
  deriving Inhabited

namespace Document

def closed : Option Flaw → Except TextFault Unit
  | none => .ok ()
  | some flaw => .error flaw.read

mutual

/-- The value of the document; of a repeated key, the last value at the first place. -/
def toJson : Document → Except TextFault Json
  | .null => .ok .null
  | .bool value => .ok (.bool value)
  | .num value => .ok (.num value)
  | .str value => .ok (.str value)
  | .arr items close => do
    let values ← itemsToJson items
    closed close
    .ok (.arr values)
  | .obj members close => do
    let fields ← membersToJson members
    closed close
    .ok (.obj (Entries.merge fields))
  | .deep _ => .error .malformed
  | .broken flaw => .error flaw.read

def itemsToJson : List Document → Except TextFault (List Json)
  | [] => .ok []
  | item :: items => do
    let value ← item.toJson
    let values ← itemsToJson items
    .ok (value :: values)

def membersToJson : List (Option String × Document) → Except TextFault (List (String × Json))
  | [] => .ok []
  | (none, _) :: _ => .error .malformed
  | (some key, member) :: members => do
    let value ← member.toJson
    let fields ← membersToJson members
    .ok ((key, value) :: fields)

end

mutual

/-- Reads past the document without looking at its value. -/
def skip : Document → Except TextFault Unit
  | .arr items close => do
    skipItems items
    skipClose close
  | .obj members close => do
    skipMembers members
    skipClose close
  | .deep container => container.skip
  | .broken flaw => skipClose (some flaw)
  | _ => .ok ()

def skipItems : List Document → Except TextFault Unit
  | [] => .ok ()
  | item :: items => do
    item.skip
    skipItems items

def skipMembers : List (Option String × Document) → Except TextFault Unit
  | [] => .ok ()
  | (_, member) :: members => do
    member.skip
    skipMembers members

def skipClose : Option Flaw → Except TextFault Unit
  | none => .ok ()
  | some flaw =>
    match flaw.skipped with
    | none => .ok ()
    | some fault => .error fault

end

mutual

/-- The document that holds a value. -/
def ofJson : Json → Document
  | .null => .null
  | .bool value => .bool value
  | .num value => .num value
  | .str value => .str value
  | .arr items => .arr (ofItems items) none
  | .obj fields => .obj (ofFields fields) none

def ofItems : List Json → List Document
  | [] => []
  | item :: items => ofJson item :: ofItems items

def ofFields : List (String × Json) → List (Option String × Document)
  | [] => []
  | (key, value) :: fields => (some key, ofJson value) :: ofFields fields

end

private theorem bind_ok {ε α β : Type} {x : Except ε α} {f : α → Except ε β} {b : β}
    (h : (x >>= f) = .ok b) : ∃ a, x = .ok a ∧ f a = .ok b := by
  cases x with
  | error e => cases h
  | ok a => exact ⟨a, rfl, h⟩

mutual

theorem distinct_of_toJson {value : Json} : (document : Document) →
    document.toJson = .ok value → value.Distinct
  | .null, h | .bool _, h | .num _, h | .str _, h => by
    simp only [toJson, Except.ok.injEq] at h
    subst h
    trivial
  | .arr items close, h => by
    rw [toJson] at h
    obtain ⟨values, hv, h⟩ := bind_ok h
    obtain ⟨_, _, h⟩ := bind_ok h
    cases h
    exact allDistinct_of_itemsToJson items hv
  | .obj members close, h => by
    rw [toJson] at h
    obtain ⟨fields, hf, h⟩ := bind_ok h
    obtain ⟨_, _, h⟩ := bind_ok h
    cases h
    exact ⟨Entries.nodup_merge fields,
      Json.fieldsDistinct_merge (fieldsDistinct_of_membersToJson members hf)⟩
  | .deep _, h | .broken _, h => by simp [toJson] at h

theorem allDistinct_of_itemsToJson {values : List Json} : (items : List Document) →
    itemsToJson items = .ok values → Json.AllDistinct values
  | [], h => by
    cases h
    trivial
  | item :: items, h => by
    rw [itemsToJson] at h
    obtain ⟨value, hv, h⟩ := bind_ok h
    obtain ⟨values, hvs, h⟩ := bind_ok h
    cases h
    exact ⟨distinct_of_toJson item hv, allDistinct_of_itemsToJson items hvs⟩

theorem fieldsDistinct_of_membersToJson {fields : List (String × Json)} :
    (members : List (Option String × Document)) →
    membersToJson members = .ok fields → Json.FieldsDistinct fields
  | [], h => by
    cases h
    trivial
  | (none, _) :: _, h => by simp [membersToJson] at h
  | (some key, member) :: members, h => by
    rw [membersToJson] at h
    obtain ⟨value, hv, h⟩ := bind_ok h
    obtain ⟨fields, hf, h⟩ := bind_ok h
    cases h
    exact ⟨distinct_of_toJson member hv, fieldsDistinct_of_membersToJson members hf⟩

end

def toLiteral (document : Document) : Except TextFault Literal :=
  match h : document.toJson with
  | .ok value => .ok ⟨value, distinct_of_toJson document h⟩
  | .error fault => .error fault

end Document

end JsxGen
