import JsxGen.InputError
import JsxGen.Js.Tree
import JsxGen.Json.Text
import JsxGen.Names
import JsxGen.Usage

/-! The expression that a property has as its value when the component runs. -/

namespace JsxGen

open Js

/-- The variable that holds the attributes of the signed-in user. -/
def authVariable : String := "authAttributes"

/-- The variable that holds the current item of a collection. -/
def itemVariable : String := "item"

def PropRef.access (base : String) (field : Option String) : Expr :=
  match field with
  | some field => .member (.ident base) field true
  | none => .ident base

def withFallback (value : Expr) (fallback : Option String) : Expr :=
  match fallback with
  | some text => .binary value .nullish (.str text)
  | none => value

/-- The expression of a text, or its string literal if it has none. -/
def orText (text : String) (e : Option Expr) : Expr := e.getD (.str text)

def numberExpr? (text : String) : Option Expr := (Number.read? text).map .num

def booleanExpr? (text : String) : Option Expr :=
  if text = "true" then some (.bool true)
  else if text = "false" then some (.bool false)
  else none

def jsonExpr? (text : String) : Option Expr := (Json.ofString text).toOption.map .ofJson

/-- Beside a string may stand the type that is meant. -/
def fixedExpr (value : Json) (type : Option String) : Expr :=
  match value, type with
  | .str text, some "Number" => orText text (numberExpr? text)
  | .str text, some "Boolean" => orText text (booleanExpr? text)
  | .str text, some "Object" | .str text, some "Array" => orText text (jsonExpr? text)
  | value, _ => .ofJson value

def operandExpr (operand : Json) (type : Option String) : Expr :=
  match operand, type with
  | .str text, some "Int" | .str text, some "Float" | .str text, some "Number" =>
    orText text (numberExpr? text)
  | .str text, some "Boolean" => orText text (booleanExpr? text)
  | operand, _ => .ofJson operand

def comparisonOp? : String → Option BinaryOp
  | "eq" => some .strictEq
  | "ne" => some .strictNe
  | "lt" => some .lt
  | "gt" => some .gt
  | "le" => some .le
  | "ge" => some .ge
  | _ => none

def Comparison.toExpr (test : Comparison) : Except InputError Expr :=
  let subject := PropRef.access test.subject.property test.subject.field
  let operand := operandExpr test.operand.json test.operandType
  if test.operator = "contains" then .ok (.call (.member subject "includes" true) [operand])
  else
    match comparisonOp? test.operator with
    | some op => .ok (.binary subject op operand)
    | none => .error (.schema test.subject.property (.unknownOperator test.operator))

namespace Property

mutual

def toExpr (types : ElementTypes) : Property → Except InputError Expr
  | .fixed value type => .ok (fixedExpr value.json type)
  | .bound ref fallback => .ok (withFallback (PropRef.access ref.property ref.field) fallback)
  | .collectionBound ref fallback =>
    .ok (withFallback (PropRef.access itemVariable ref.field) fallback)
  | .concat parts => do
    let parts ← toParts types parts
    return .template parts
  | .conditional test yes no => do
    let test ← test.toExpr
    let yes ← yes.toExpr types
    let no ← no.toExpr types
    return .conditional test yes no
  | .auth name => .ok (.index (.ident authVariable) (.str name) false)
  | .state ref => .ok (.ident (types.resolve ref).getter)

/-- Fixed strings become text whatever their type is said to be. -/
def toParts (types : ElementTypes) : List Property → Except InputError (List TemplatePart)
  | [] => .ok []
  | part :: parts => do
    let first ←
      match part with
      | .fixed ⟨.str text, _⟩ _ => .ok (.text text)
      | part => do
        let e ← part.toExpr types
        .ok (.expr e)
    let rest ← toParts types parts
    return first :: rest

end

end Property

end JsxGen
