import JsxGen.Js.Tree

/-!
The variables of a source: those that its statements declare, and those that an expression reads
without binding them itself.
-/

namespace JsxGen.Js

def Pattern.names : Pattern → List String
  | .ident name => [name]
  | .object bindings rest => bindings.map (fun (key, name) => name.getD key) ++ rest.toList
  | .array names => names

def Stmt.declared : Stmt → List String
  | .const pattern _ => pattern.names
  | .function name _ _ _ => [name]
  | .expr _ | .ret _ => []

mutual

/-- The variables that the expression reads. The tags of elements are not among them. -/
def Expr.free : Expr → List String
  | .ident name => [name]
  | .str _ | .num _ | .bool _ | .null => []
  | .object members _ => Member.freeAll members
  | .array items => Expr.freeAll items
  | .call callee args => callee.free ++ Expr.freeAll args
  | .member object _ _ => object.free
  | .index object at_ _ => object.free ++ at_.free
  | .arrow params body => body.free.filter (· ∉ params)
  | .arrowBlock params body =>
    (Stmt.freeAll body).filter (· ∉ params ++ body.flatMap Stmt.declared)
  | .binary left _ right => left.free ++ right.free
  | .conditional test yes no => test.free ++ (yes.free ++ no.free)
  | .template parts => TemplatePart.freeAll parts
  | .jsx element => element.free

def Expr.freeAll : List Expr → List String
  | [] => []
  | e :: es => e.free ++ Expr.freeAll es

def Member.free : Member → List String
  | .spread source => source.free
  | .property _ value => value.free

def Member.freeAll : List Member → List String
  | [] => []
  | m :: ms => m.free ++ Member.freeAll ms

def TemplatePart.free : TemplatePart → List String
  | .text _ => []
  | .expr e => e.free

def TemplatePart.freeAll : List TemplatePart → List String
  | [] => []
  | part :: parts => part.free ++ TemplatePart.freeAll parts

/-- A function binds its own name, its parameters and what its statements declare. -/
def Stmt.free : Stmt → List String
  | .const _ init => init.free
  | .expr e => e.free
  | .ret value => value.free
  | .function name params body _ =>
    (Stmt.freeAll body).filter (· ∉ name :: (params ++ body.flatMap Stmt.declared))

def Stmt.freeAll : List Stmt → List String
  | [] => []
  | s :: ss => s.free ++ Stmt.freeAll ss

def JsxElement.free : JsxElement → List String
  | ⟨_, attributes, children⟩ => JsxAttribute.freeAll attributes ++ JsxChild.freeAll children

def JsxAttribute.free : JsxAttribute → List String
  | .named _ value => value.free
  | .spread source => source.free

def JsxAttribute.freeAll : List JsxAttribute → List String
  | [] => []
  | a :: as => a.free ++ JsxAttribute.freeAll as

def JsxChild.free : JsxChild → List String
  | .element element => element.free
  | .expr e => e.free

def JsxChild.freeAll : List JsxChild → List String
  | [] => []
  | c :: cs => c.free ++ JsxChild.freeAll cs

end

theorem Expr.freeAll_eq (es : List Expr) : freeAll es = es.flatMap free := by
  induction es with
  | nil => rw [freeAll, List.flatMap_nil]
  | cons e es ih => rw [freeAll, List.flatMap_cons, ih]

theorem Member.freeAll_eq (ms : List Member) : freeAll ms = ms.flatMap free := by
  induction ms with
  | nil => rw [freeAll, List.flatMap_nil]
  | cons m ms ih => rw [freeAll, List.flatMap_cons, ih]

theorem JsxAttribute.freeAll_eq (as : List JsxAttribute) : freeAll as = as.flatMap free := by
  induction as with
  | nil => rw [freeAll, List.flatMap_nil]
  | cons a as ih => rw [freeAll, List.flatMap_cons, ih]

end JsxGen.Js
