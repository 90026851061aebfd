import JsxGen.Json.Token

/-! JSON text as a document: lexemes are taken one by one into the containers that are open. -/

namespace JsxGen

/-- The document a text starts with, and whether more than that follows. -/
structure JsonText where
  root : Document
  trailing : Bool

namespace JsonText

/-- A place for a value in an open container, whose parts are held latest first. -/
inductive Place where
  | item (before : List Document)
  | member (before : List (Option String × Document)) (key : Option String)

/-- What may come next, and the places that are open around it, innermost first. -/
inductive State where
  | value (places : List Place)
  | firstItem (places : List Place)
  | afterItem (items : List Document) (places : List Place)
  | firstKey (places : List Place)
  | key (members : List (Option String × Document)) (places : List Place)
  | colon (members : List (Option String × Document)) (key : Option String) (places : List Place)
  | afterMember (members : List (Option String × Document)) (places : List Place)
  | done (root : Document)

/-- At most 127 containers may be nested. -/
def nested (places : List Place) (container : Document) : Document :=
  if 127 ≤ places.length then .deep container else container

def array (items : List Document) (close : Option Flaw) (places : List Place) : Document :=
  nested places (.arr items.reverse close)

def object (members : List (Option String × Document)) (close : Option Flaw)
    (places : List Place) : Document :=
  nested places (.obj members.reverse close)

/-- Puts a finished value into the innermost place. -/
def put (value : Document) : List Place → State
  | [] => .done value
  | .item before :: places => .afterItem (value :: before) places
  | .member before key :: places => .afterMember ((key, value) :: before) places

def stepValue (places : List Place) : JsonToken → Except Flaw State
  | .openArray => .ok (.firstItem places)
  | .openObject => .ok (.firstKey places)
  | .scalar leaf => .ok (put leaf places)
  | .string (some text) => .ok (put (.str text) places)
  | .string none => .ok (put (.broken ⟨.malformed, none⟩) places)
  | .flawedString flaw | .flawedScalar flaw => .error flaw
  | _ => .error (.of .malformed)

def stepKey (members : List (Option String × Document)) (places : List Place) :
    JsonToken → Except Flaw State
  | .string text => .ok (.colon members text places)
  | .flawedString flaw => .error flaw
  | _ => .error (.of .malformed)

def step : State → JsonToken → Except Flaw State
  | .value places, token => stepValue places token
  | .firstItem places, .closeArray => .ok (put (array [] none places) places)
  | .firstItem places, token => stepValue (.item [] :: places) token
  | .afterItem items places, .comma => .ok (.value (.item items :: places))
  | .afterItem items places, .closeArray => .ok (put (array items none places) places)
  | .firstKey places, .closeObject => .ok (put (object [] none places) places)
  | .firstKey places, token => stepKey [] places token
  | .key members places, token => stepKey members places token
  | .colon members key places, .colon => .ok (.value (.member members key :: places))
  | .afterMember members places, .comma => .ok (.key members places)
  | .afterMember members places, .closeObject => .ok (put (object members none places) places)
  | _, _ => .error (.of .malformed)

/-- Leaves every open container around `value` at a flaw. -/
def leave (flaw : Flaw) (value : Document) : List Place → Document
  | [] => value
  | .item before :: places => leave flaw (array (value :: before) (some flaw) places) places
  | .member before key :: places =>
    leave flaw (object ((key, value) :: before) (some flaw) places) places

/-- The document of a text that cannot be read on. -/
def stopped (flaw : Flaw) : State → Document
  | .value places => leave flaw (.broken flaw) places
  | .firstItem places => leave flaw (array [] (some flaw) places) places
  | .afterItem items places => leave flaw (array items (some flaw) places) places
  | .firstKey places => leave flaw (object [] (some flaw) places) places
  | .key members places | .afterMember members places =>
    leave flaw (object members (some flaw) places) places
  | .colon members key places => leave flaw (.broken flaw) (.member members key :: places)
  | .done root => root

def ofTokens : State → List JsonToken → JsonText
  | .done root, tokens => ⟨root, !tokens.isEmpty⟩
  | state, [] => ⟨stopped (.of .cutShort) state, false⟩
  | state, token :: tokens =>
    match step state token with
    | .ok next => ofTokens next tokens
    | .error flaw => ⟨stopped flaw state, false⟩

def ofString (text : String) : JsonText :=
  ofTokens (.value []) (JsonToken.ofChars text.toList)

/-- The value of a text that holds one and nothing else. -/
def toJson (text : JsonText) : Except TextFault Json := do
  let value ← text.root.toJson
  if text.trailing then .error .malformed else .ok value

end JsonText

def Json.ofString (text : String) : Except TextFault Json :=
  (JsonText.ofString text).toJson

end JsxGen
