import JsxGen.Js.Layout
import JsxGen.Js.Numeral
import JsxGen.Js.Quoted
import JsxGen.Js.Tree

/-! The layout of expressions, statements and markup. -/

namespace JsxGen.Js

open Layout (plainChars plain parens commaSeparated lines braced)

namespace Expr

/-- An arrow ends where its surroundings do, so it is set apart everywhere. -/
def isArrow : Expr → Bool
  | .arrow _ _ | .arrowBlock _ _ => true
  | _ => false

def isObject : Expr → Bool
  | .object _ _ => true
  | _ => false

/-- As callee, or as object of a member or index access. -/
def apartAsObject : Expr → Bool
  | .object _ _ | .arrow _ _ | .arrowBlock _ _ | .binary _ _ _ | .conditional _ _ _ | .jsx _ => true
  | _ => false

/-- As operand of a binary operator or of a spread. -/
def apartAsOperand : Expr → Bool
  | .binary _ _ _ | .conditional _ _ _ => true
  | e => e.isArrow

/-- As part of a conditional. -/
def apartAsBranch : Expr → Bool
  | .conditional _ _ _ => true
  | e => e.isArrow

end Expr

def Key.layout : Key → Layout
  | .bare name => plain name
  | .quoted text => plainChars (stringLiteral text.toList)

namespace Pattern

def binding : String × Option String → String
  | (key, some name) => key ++ ": " ++ name
  | (key, none) => key

def layout : Pattern → Layout
  | .ident name => plain name
  | .object bindings rest =>
    plain "\x7b " ++ commaSeparated ((bindings.map binding ++
      (rest.map ("..." ++ ·)).toList).map plain) ++ plain " \x7d"
  | .array names => .char '[' :: commaSeparated (names.map plain) ++ [.char ']']

end Pattern

def paramsLayout (params : List String) : Layout :=
  .char '(' :: commaSeparated (params.map plain) ++ [.char ')']

/-- Text that needs no escape between the quotes of an attribute. -/
def isPlainText (text : String) : Bool :=
  text.toList.all fun c => c ≠ '"' && c ≠ '\\'

mutual

def Expr.layout (depth : Nat) : Expr → Layout
  | .ident name => plain name
  | .str value => plainChars (stringLiteral value.toList)
  | .num value => plainChars (numeral value)
  | .bool value => plain (if value then "true" else "false")
  | .null => plain "null"
  | .object [] _ => plain "\x7b\x7d"
  | .object members true =>
    braced depth ((Member.layouts (depth + 1) members).map (· ++ [.char ',']))
  | .object members false =>
    plain "\x7b " ++ commaSeparated (Member.layouts depth members) ++ plain " \x7d"
  | .array items => .char '[' :: commaSeparated (Expr.layouts depth items) ++ [.char ']']
  | .call callee args =>
    parens callee.apartAsObject (callee.layout depth) ++
      .char '(' :: commaSeparated (Expr.layouts depth args) ++ [.char ')']
  | .member object property optional =>
    parens object.apartAsObject (object.layout depth) ++
      plain (if optional then "?." else ".") ++ plain property
  | .index object at_ optional =>
    parens object.apartAsObject (object.layout depth) ++
      plain (if optional then "?.[" else "[") ++ at_.layout depth ++ [.char ']']
  | .arrow params body =>
    paramsLayout params ++ plain " => " ++ parens body.isObject (body.layout depth)
  | .arrowBlock params body =>
    paramsLayout params ++ plain " => " ++ braced depth (Stmt.layouts (depth + 1) body)
  | .binary left op right =>
    parens left.apartAsOperand (left.layout depth) ++ plain (" " ++ op.sign ++ " ") ++
      parens right.apartAsOperand (right.layout depth)
  | .conditional test yes no =>
    parens test.apartAsBranch (test.layout depth) ++ plain " ? " ++
      parens yes.apartAsBranch (yes.layout depth) ++ plain " : " ++
      parens no.apartAsBranch (no.layout depth)
  | .template parts => .char '\x60' :: TemplatePart.layouts depth parts ++ [.char '\x60']
  | .jsx element => element.layout depth

def Expr.layouts (depth : Nat) : List Expr → List Layout
  | [] => []
  | e :: es => e.layout depth :: Expr.layouts depth es

def Member.layout (depth : Nat) : Member → Layout
  | .spread source => plain "..." ++ parens source.apartAsOperand (source.layout depth)
  | .property key value => key.layout ++ plain ": " ++ value.layout depth

def Member.layouts (depth : Nat) : List Member → List Layout
  | [] => []
  | m :: ms => m.layout depth :: Member.layouts depth ms

def TemplatePart.layouts (depth : Nat) : List TemplatePart → Layout
  | [] => []
  | .text text :: parts =>
    plainChars (templateText text.toList) ++ TemplatePart.layouts depth parts
  | .expr e :: parts =>
    plain "$\x7b" ++ e.layout depth ++ .char '\x7d' :: TemplatePart.layouts depth parts

/-- Markup that is returned stands between brackets on lines of its own. -/
def Stmt.layout (depth : Nat) : Stmt → Layout
  | .const pattern init =>
    plain "const " ++ pattern.layout ++ plain " = " ++ init.layout depth ++ [.char ';']
  | .expr e => e.layout depth ++ [.char ';']
  | .ret (.jsx element) =>
    plain "return (" ++ .line (depth + 1) :: element.layout (depth + 1) ++
      .line depth :: plain ");"
  | .ret value => plain "return " ++ value.layout depth ++ [.char ';']
  | .function name params body exported =>
    plain (if exported then "export default " else "") ++ plain ("function " ++ name) ++
      paramsLayout params ++ .char ' ' :: braced depth (Stmt.layouts (depth + 1) body)

def Stmt.layouts (depth : Nat) : List Stmt → List Layout
  | [] => []
  | s :: ss => s.layout depth :: Stmt.layouts depth ss

def JsxElement.layout (depth : Nat) : JsxElement → Layout
  | ⟨tag, attributes, []⟩ =>
    .char '<' :: plain tag ++ JsxAttribute.layouts depth attributes ++ plain " />"
  | ⟨tag, attributes, child :: children⟩ =>
    .char '<' :: plain tag ++ JsxAttribute.layouts depth attributes ++ .char '>' ::
      lines (depth + 1) (child.layout (depth + 1) :: JsxChild.layouts (depth + 1) children) ++
      .line depth :: plain ("</" ++ tag ++ ">")

def JsxAttribute.layouts (depth : Nat) : List JsxAttribute → Layout
  | [] => []
  | a :: as => .char ' ' :: a.layout depth ++ JsxAttribute.layouts depth as

def JsxAttribute.layout (depth : Nat) : JsxAttribute → Layout
  | .named name (.str text) =>
    plain name ++ .char '=' ::
      (if isPlainText text then .char '"' :: plain text ++ [.char '"']
       else .char '\x7b' :: plainChars (stringLiteral text.toList) ++ [.char '\x7d'])
  | .named name value => plain name ++ plain "=\x7b" ++ value.layout depth ++ [.char '\x7d']
  | .spread source =>
    plain "\x7b..." ++ parens source.apartAsOperand (source.layout depth) ++ [.char '\x7d']

def JsxChild.layout (depth : Nat) : JsxChild → Layout
  | .element element => element.layout depth
  | .expr e => .char '\x7b' :: e.layout depth ++ [.char '\x7d']

def JsxChild.layouts (depth : Nat) : List JsxChild → List Layout
  | [] => []
  | c :: cs => c.layout depth :: JsxChild.layouts depth cs

end

/-- Statements with an empty line between them. -/
def moduleLayout (stmts : List Stmt) : Layout :=
  [Glyph.line 0, .line 0].intercalate (Stmt.layouts 0 stmts) ++ [.line 0]

def Expr.text (width : Nat) (e : Expr) : String := (e.layout 0).text width

def Stmt.text (width : Nat) (s : Stmt) : String := (s.layout 0).text width

def moduleText (width : Nat) (stmts : List Stmt) : String := (moduleLayout stmts).text width

end JsxGen.Js
