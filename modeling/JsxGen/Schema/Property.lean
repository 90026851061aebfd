import JsxGen.Json.Fields

/-! Properties of elements: literals, and values that are read when the component runs. -/

namespace JsxGen

/-- A piece of component state: a property of the element of some name. -/
structure StateRef where
  component : String
  property : String
  deriving DecidableEq

/-- A prop, or one field of it. -/
structure PropRef where
  property : String
  field : Option String
  deriving DecidableEq

/-- A prop compared with a literal; the operator is kept as it is spelled. -/
structure Comparison where
  subject : PropRef
  operator : String
  operand : Literal
  operandType : Option String

inductive Property where
  | bound (ref : PropRef) (fallback : Option String)
  | collectionBound (ref : PropRef) (fallback : Option String)
  | concat (parts : List Property)
  | conditional (test : Comparison) (yes no : Property)
  | auth (name : String)
  | state (ref : StateRef)
  | fixed (value : Literal) (type : Option String)

def PropRef.fields {whole : Document} : Fields whole PropRef :=
  PropRef.mk <$> .string "property" <*> .string? "field"

def StateRef.fields {whole : Document} : Fields whole StateRef :=
  StateRef.mk <$> .string "componentName" <*> .string "property"

namespace Property

open Fields

def boundFields {whole : Document} (key : String)
    (make : PropRef → Option String → Property) : Fields whole Property :=
  make <$> required key (fun part => part.1.record .held PropRef.fields) <*>
    string? "defaultValue"

def ofCondition (property : String) (field : Option String) (operator : String)
    (operand : Literal) (operandType : Option String) (yes no : Property) : Property :=
  .conditional ⟨⟨property, field⟩, operator, operand, operandType⟩ yes no

/-- The forms are tried in turn; a literal comes last, since it is told by the common key `value`. -/
def decode (document : Document) : Decoded Property := do
  document.readThrough
  let forms :=
    document.record .held (boundFields "bindingProperties" .bound)
    <|> document.record .held (boundFields "collectionBindingProperties" .collectionBound)
    <|> document.record .held
      (.concat <$> required "concat" fun part => part.1.list fun item => decode item.1)
    <|> document.record .held
      (required "condition" fun part => part.1.record .held
        (ofCondition <$> string "property" <*> string? "field" <*> string "operator" <*>
          literal "operand" <*> string? "operandType" <*>
          required "then" (fun branch => decode branch.1) <*>
          required "else" (fun branch => decode branch.1)))
    <|> document.record .held (.auth <$> string "userAttribute")
    <|> document.record .held (.state <$> StateRef.fields)
    <|> document.record .held (.fixed <$> literal "value" <*> string? "type")
  forms.mapError fun _ => .shape (.noVariant "StudioComponentProperty")
termination_by sizeOf document
decreasing_by all_goals grind

end Property

def PropRef.encode (ref : PropRef) : List (String × Json) :=
  ("property", .str ref.property) :: Json.field? "field" (ref.field.map .str)

def StateRef.encode (ref : StateRef) : List (String × Json) :=
  [("componentName", .str ref.component), ("property", .str ref.property)]

namespace Property

def encodeBound (key : String) (ref : PropRef) (fallback : Option String) : Json :=
  .obj ((key, .obj ref.encode) :: Json.field? "defaultValue" (fallback.map .str))

mutual

def encode : Property → Json
  | .bound ref fallback => encodeBound "bindingProperties" ref fallback
  | .collectionBound ref fallback => encodeBound "collectionBindingProperties" ref fallback
  | .concat parts => .obj [("concat", .arr (encodeAll parts))]
  | .conditional test yes no =>
    .obj [("condition", .obj (test.subject.encode ++
      [("operator", .str test.operator), ("operand", test.operand.json)] ++
      Json.field? "operandType" (test.operandType.map .str) ++
      [("then", yes.encode), ("else", no.encode)]))]
  | .auth name => .obj [("userAttribute", .str name)]
  | .state ref => .obj ref.encode
  | .fixed value type => .obj (("value", value.json) :: Json.field? "type" (type.map .str))

def encodeAll : List Property → List Json
  | [] => []
  | part :: parts => part.encode :: encodeAll parts

end

end Property

end JsxGen
