import JsxGen.Js.Tree

/-!
The names that an expression writes without quotes. `identifiers_path` says which of them an access
path has: names that are no identifiers are read by index, but the root is written as it is.
-/

namespace JsxGen.Js

open JsxGen.Text (isIdentifier)

def Key.identifiers : Key → List String
  | .bare name => [name]
  | .quoted _ => []

def Pattern.identifiers : Pattern → List String
  | .ident name => [name]
  | .object bindings rest =>
    bindings.flatMap (fun (key, name) => key :: name.toList) ++ rest.toList
  | .array names => names

mutual

/-- The variables, parameters, fields and bare keys that are written in the expression, from left to
right. The tags and attributes of elements are not among them. -/
def Expr.identifiers : Expr → List String
  | .ident name => [name]
  | .str _ | .num _ | .bool _ | .null => []
  | .object members _ => Member.identifiersAll members
  | .array items => Expr.identifiersAll items
  | .call callee args => callee.identifiers ++ Expr.identifiersAll args
  | .member object property _ => object.identifiers ++ [property]
  | .index object at_ _ => object.identifiers ++ at_.identifiers
  | .arrow params body => params ++ body.identifiers
  | .arrowBlock params body => params ++ Stmt.identifiersAll body
  | .binary left _ right => left.identifiers ++ right.identifiers
  | .conditional test yes no => test.identifiers ++ (yes.identifiers ++ no.identifiers)
  | .template parts => TemplatePart.identifiersAll parts
  | .jsx element => element.identifiers

def Expr.identifiersAll : List Expr → List String
  | [] => []
  | e :: es => e.identifiers ++ Expr.identifiersAll es

def Member.identifiers : Member → List String
  | .spread source => source.identifiers
  | .property key value => key.identifiers ++ value.identifiers

def Member.identifiersAll : List Member → List String
  | [] => []
  | m :: ms => m.identifiers ++ Member.identifiersAll ms

def TemplatePart.identifiers : TemplatePart → List String
  | .text _ => []
  | .expr e => e.identifiers

def TemplatePart.identifiersAll : List TemplatePart → List String
  | [] => []
  | part :: parts => part.identifiers ++ TemplatePart.identifiersAll parts

def Stmt.identifiers : Stmt → List String
  | .const pattern init => pattern.identifiers ++ init.identifiers
  | .expr e => e.identifiers
  | .ret value => value.identifiers
  | .function name params body _ => name :: (params ++ Stmt.identifiersAll body)

def Stmt.identifiersAll : List Stmt → List String
  | [] => []
  | s :: ss => s.identifiers ++ Stmt.identifiersAll ss

def JsxElement.identifiers : JsxElement → List String
  | ⟨_, attributes, children⟩ =>
    JsxAttribute.identifiersAll attributes ++ JsxChild.identifiersAll children

def JsxAttribute.identifiers : JsxAttribute → List String
  | .named _ value => value.identifiers
  | .spread source => source.identifiers

def JsxAttribute.identifiersAll : List JsxAttribute → List String
  | [] => []
  | a :: as => a.identifiers ++ JsxAttribute.identifiersAll as

def JsxChild.identifiers : JsxChild → List String
  | .element element => element.identifiers
  | .expr e => e.identifiers

def JsxChild.identifiersAll : List JsxChild → List String
  | [] => []
  | c :: cs => c.identifiers ++ JsxChild.identifiersAll cs

end

theorem Key.identifiers_ofString (text : String) :
    (Key.ofString text).identifiers = [text].filter isIdentifier := by
  unfold ofString
  split
  · rename_i identifier
    rw [identifiers, List.filter_cons_of_pos identifier, List.filter_nil]
  · rename_i other
    rw [identifiers, List.filter_cons_of_neg other, List.filter_nil]

theorem Expr.identifiers_field (object : Expr) (name : String) :
    (object.field name).identifiers = object.identifiers ++ [name].filter isIdentifier := by
  unfold field
  split
  · rename_i identifier
    rw [identifiers, List.filter_cons_of_pos identifier, List.filter_nil]
  · rename_i other
    rw [identifiers, identifiers, List.filter_cons_of_neg other, List.filter_nil]

theorem Expr.identifiers_foldl_field (object : Expr) (fields : List String) :
    (fields.foldl field object).identifiers = object.identifiers ++ fields.filter isIdentifier := by
  induction fields generalizing object with
  | nil => rw [List.foldl_nil, List.filter_nil, List.append_nil]
  | cons name fields ih =>
    calc ((name :: fields).foldl field object).identifiers
        = (object.field name).identifiers ++ fields.filter isIdentifier := ih (object.field name)
      _ = object.identifiers ++ ([name].filter isIdentifier ++ fields.filter isIdentifier) := by
          rw [identifiers_field, List.append_assoc]
      _ = object.identifiers ++ (name :: fields).filter isIdentifier := by
          rw [← List.filter_append, List.singleton_append]

/-- Of the fields, those are written bare that are identifiers. The root is written in any case. -/
theorem Expr.identifiers_path (root : String) (fields : List String) :
    (path root fields).identifiers = root :: fields.filter isIdentifier := by
  rw [path, identifiers_foldl_field, identifiers, List.singleton_append]

end JsxGen.Js
