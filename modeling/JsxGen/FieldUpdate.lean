import JsxGen.InputError
import JsxGen.Js.Tree
import JsxGen.Names

/-! Setting form fields, whose dotted names lead through nested records that are copied. -/

namespace JsxGen

open Js

/-- The parts of a name between its dots. -/
def fieldPath (name : String) : List String :=
  (splitDots name.toList).map String.ofList
where
  splitDots : List Char → List (List Char)
    | [] => [[]]
    | c :: cs =>
      match splitDots cs with
      | [] => []
      | part :: parts => if c = '.' then [] :: part :: parts else (c :: part) :: parts

/-- A copy of the record at `fields` in `root`, changed at the keys that lead to `value`. -/
def nestedCopy (root : String) (fields : List String) (value : Expr) : List String → Expr
  | [] => value
  | key :: keys =>
    .inline [.spread (.path root fields),
      .ofString key (nestedCopy root (fields ++ [key]) value keys)]

/-- The record at the stem, with `value` at the end of the path. -/
def nestedUpdate (path stem : List String) (value : Expr) : Except InputError Expr :=
  if path.length < 2 then .error (.pathTooShort path)
  else
    match stem with
    | [] => .error (.badStem stem path)
    | root :: fields =>
      if stem.length < path.length then
        .ok (nestedCopy root fields value (path.drop stem.length))
      else .error (.badStem stem path)

/-- The call that sets the field `name`; the first part of the name is the state it is kept in. -/
def setField (name : String) (value : Expr) : Except InputError Expr := do
  let path := fieldPath name
  let setter := Expr.ident (fieldSetter (path.headD ""))
  let argument ← if path.length < 2 then .ok value else nestedUpdate path (path.take 1) value
  return .call setter [argument]

end JsxGen
