import JsxGen.Js.Tree

/-!
The names of the fields that a source reads with a dot. Such a name has to be an identifier; with
any other, what is read is not the field (`Expr.field` reads it by index instead).
-/

namespace JsxGen.Js

open JsxGen.Text (isIdentifier)

mutual

/-- The names that stand behind a dot in the expression, in functions and markup too. -/
def Expr.memberNames : Expr → List String
  | .ident _ | .str _ | .num _ | .bool _ | .null => []
  | .object members _ => Member.memberNamesAll members
  | .array items => Expr.memberNamesAll items
  | .call callee args => callee.memberNames ++ Expr.memberNamesAll args
  | .member object property _ => object.memberNames ++ [property]
  | .index object at_ _ => object.memberNames ++ at_.memberNames
  | .arrow _ body => body.memberNames
  | .arrowBlock _ body => Stmt.memberNamesAll body
  | .binary left _ right => left.memberNames ++ right.memberNames
  | .conditional test yes no => test.memberNames ++ (yes.memberNames ++ no.memberNames)
  | .template parts => TemplatePart.memberNamesAll parts
  | .jsx element => element.memberNames

def Expr.memberNamesAll : List Expr → List String
  | [] => []
  | e :: es => e.memberNames ++ Expr.memberNamesAll es

def Member.memberNames : Member → List String
  | .spread source => source.memberNames
  | .property _ value => value.memberNames

def Member.memberNamesAll : List Member → List String
  | [] => []
  | m :: ms => m.memberNames ++ Member.memberNamesAll ms

def TemplatePart.memberNames : TemplatePart → List String
  | .text _ => []
  | .expr e => e.memberNames

def TemplatePart.memberNamesAll : List TemplatePart → List String
  | [] => []
  | part :: parts => part.memberNames ++ TemplatePart.memberNamesAll parts

def Stmt.memberNames : Stmt → List String
  | .const _ init => init.memberNames
  | .expr e => e.memberNames
  | .ret value => value.memberNames
  | .function _ _ body _ => Stmt.memberNamesAll body

def Stmt.memberNamesAll : List Stmt → List String
  | [] => []
  | s :: ss => s.memberNames ++ Stmt.memberNamesAll ss

def JsxElement.memberNames : JsxElement → List String
  | ⟨_, attributes, children⟩ =>
    JsxAttribute.memberNamesAll attributes ++ JsxChild.memberNamesAll children

def JsxAttribute.memberNames : JsxAttribute → List String
  | .named _ value => value.memberNames
  | .spread source => source.memberNames

def JsxAttribute.memberNamesAll : List JsxAttribute → List String
  | [] => []
  | a :: as => a.memberNames ++ JsxAttribute.memberNamesAll as

def JsxChild.memberNames : JsxChild → List String
  | .element element => element.memberNames
  | .expr e => e.memberNames

def JsxChild.memberNamesAll : List JsxChild → List String
  | [] => []
  | c :: cs => c.memberNames ++ JsxChild.memberNamesAll cs

end

theorem Member.memberNamesAll_eq (ms : List Member) :
    memberNamesAll ms = ms.flatMap memberNames := by
  induction ms with
  | nil => rw [memberNamesAll, List.flatMap_nil]
  | cons m ms ih => rw [memberNamesAll, List.flatMap_cons, ih]

theorem Expr.memberNamesAll_eq (es : List Expr) : memberNamesAll es = es.flatMap memberNames := by
  induction es with
  | nil => rw [memberNamesAll, List.flatMap_nil]
  | cons e es ih => rw [memberNamesAll, List.flatMap_cons, ih]

theorem JsxAttribute.memberNamesAll_eq (as : List JsxAttribute) :
    memberNamesAll as = as.flatMap memberNames := by
  induction as with
  | nil => rw [memberNamesAll, List.flatMap_nil]
  | cons a as ih => rw [memberNamesAll, List.flatMap_cons, ih]

mutual

theorem Expr.memberNames_ofJson : (json : Json) → (Expr.ofJson json).memberNames = []
  | .null | .bool _ | .num _ | .str _ => by rw [ofJson, memberNames]
  | .arr items => by rw [ofJson, memberNames, memberNamesAll_ofItems items]
  | .obj fields => by rw [ofJson, inline, memberNames, memberNamesAll_ofFields fields]

theorem Expr.memberNamesAll_ofItems : (items : List Json) →
    Expr.memberNamesAll (Expr.ofItems items) = []
  | [] => by rw [ofItems, memberNamesAll]
  | item :: items => by
    rw [ofItems, memberNamesAll, memberNames_ofJson item, memberNamesAll_ofItems items,
      List.append_nil]

theorem Expr.memberNamesAll_ofFields : (fields : List (String × Json)) →
    Member.memberNamesAll (Expr.ofFields fields) = []
  | [] => by rw [ofFields, Member.memberNamesAll]
  | (key, value) :: fields => by
    rw [ofFields, Member.memberNamesAll, Member.ofString, Member.memberNames,
      memberNames_ofJson value, memberNamesAll_ofFields fields, List.append_nil]

end

/-- The names that cannot stand behind a dot. -/
def nonIdentifiers (names : List String) : List String :=
  names.filter fun name => !isIdentifier name

section nonIdentifiers

variable {names more : List String} {name : String}

theorem mem_nonIdentifiers : name ∈ nonIdentifiers names ↔ name ∈ names ∧ ¬isIdentifier name := by
  simp [nonIdentifiers]

@[simp] theorem nonIdentifiers_nil : nonIdentifiers [] = [] := rfl

@[simp] theorem nonIdentifiers_append :
    nonIdentifiers (names ++ more) = nonIdentifiers names ++ nonIdentifiers more :=
  List.filter_append names more

theorem nonIdentifiers_flatMap {α : Type} (items : List α) (f : α → List String) :
    nonIdentifiers (items.flatMap f) = items.flatMap fun item => nonIdentifiers (f item) :=
  List.filter_flatMap

theorem nonIdentifiers_of_identifier (identifier : isIdentifier name) :
    nonIdentifiers [name] = [] := by
  simp [nonIdentifiers, identifier]

end nonIdentifiers

end JsxGen.Js
