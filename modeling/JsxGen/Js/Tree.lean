import JsxGen.Json.Basic
import JsxGen.Text.Identifier

/-! Expressions, statements and markup of the source that is written. -/

namespace JsxGen.Js

open JsxGen.Text (isIdentifier)

inductive BinaryOp where
  | strictEq | strictNe | lt | gt | le | ge | or | nullish
  deriving DecidableEq

namespace BinaryOp

def all : List BinaryOp := [.strictEq, .strictNe, .lt, .gt, .le, .ge, .or, .nullish]

def sign : BinaryOp → String
  | .strictEq => "==="
  | .strictNe => "!=="
  | .lt => "<"
  | .gt => ">"
  | .le => "<="
  | .ge => ">="
  | .or => "||"
  | .nullish => "??"

end BinaryOp

/-- A key of an object literal. -/
inductive Key where
  | bare (name : String)
  | quoted (text : String)
  deriving DecidableEq

/-- Only identifiers are written without quotes. -/
def Key.ofString (text : String) : Key :=
  if isIdentifier text then .bare text else .quoted text

/-- What a `const` binds; in an object pattern, keys with the names they are bound to, if others. -/
inductive Pattern where
  | ident (name : String)
  | object (bindings : List (String × Option String)) (rest : Option String)
  | array (names : List String)
  deriving DecidableEq

mutual

inductive Expr where
  | ident (name : String)
  | str (value : String)
  | num (value : Binary64)
  | bool (value : Bool)
  | null
  | object (members : List Member) (multiline : Bool)
  | array (items : List Expr)
  | call (callee : Expr) (args : List Expr)
  | member (object : Expr) (property : String) (optional : Bool)
  | index (object : Expr) (at_ : Expr) (optional : Bool)
  | arrow (params : List String) (body : Expr)
  | arrowBlock (params : List String) (body : List Stmt)
  | binary (left : Expr) (op : BinaryOp) (right : Expr)
  | conditional (test yes no : Expr)
  | template (parts : List TemplatePart)
  | jsx (element : JsxElement)

inductive Member where
  | spread (source : Expr)
  | property (key : Key) (value : Expr)

inductive TemplatePart where
  | text (text : String)
  | expr (expr : Expr)

inductive Stmt where
  | const (pattern : Pattern) (init : Expr)
  | expr (expr : Expr)
  | ret (value : Expr)
  | function (name : String) (params : List String) (body : List Stmt) (exported : Bool)

structure JsxElement where
  tag : String
  attributes : List JsxAttribute
  children : List JsxChild

inductive JsxAttribute where
  | named (name : String) (value : Expr)
  | spread (source : Expr)

inductive JsxChild where
  | element (element : JsxElement)
  | expr (expr : Expr)

end

instance : Inhabited Expr := ⟨.null⟩

def Member.ofString (key : String) (value : Expr) : Member := .property (.ofString key) value

def Stmt.constName (name : String) (init : Expr) : Stmt := .const (.ident name) init

namespace Expr

/-- An object literal on one line. -/
def inline (members : List Member) : Expr := .object members false

/-- The field `name`, read by index if it is no identifier. -/
def field (object : Expr) (name : String) : Expr :=
  if isIdentifier name then .member object name false else .index object (.str name) false

def path (root : String) (fields : List String) : Expr :=
  fields.foldl field (.ident root)

mutual

/-- The literal that denotes a JSON value. -/
def ofJson : Json → Expr
  | .null => .null
  | .bool value => .bool value
  | .num value => .num value.toBinary64
  | .str value => .str value
  | .arr items => .array (ofItems items)
  | .obj fields => .inline (ofFields fields)

def ofItems : List Json → List Expr
  | [] => []
  | item :: items => ofJson item :: ofItems items

def ofFields : List (String × Json) → List Member
  | [] => []
  | (key, value) :: fields => .ofString key (ofJson value) :: ofFields fields

end

end Expr

end JsxGen.Js
