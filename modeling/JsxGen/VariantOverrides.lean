import JsxGen.Hook
import JsxGen.Js.Tree
import JsxGen.Names
import JsxGen.Schema.Component

/-! Overrides computed from the variants that fit the props and the size of the screen. -/

namespace JsxGen

open Js

def Variant.toExpr (variant : Variant) : Expr :=
  let values := variant.values.entries.map fun (key, value) => Member.ofString key (.str value)
  let overrides := variant.overrides.entries.map fun (element, value) =>
    Member.ofString element (.ofJson value.json)
  .inline [.ofString "variantValues" (.inline values), .ofString "overrides" (.inline overrides)]

def variantsExpr (variants : List Variant) : Expr := .array (variants.map Variant.toExpr)

/-- The current one of the sizes, the smallest of them by default. -/
def breakpointStmt (smallest : Breakpoint) (sizes : List Breakpoint) : Stmt :=
  let members := sizes.map fun size => Member.ofString size.name (.str size.name)
  .constName "breakpointHook"
    (.call (.ident Hook.breakpointValue.name) [.inline members, .str smallest.name])

def breakpointStmts : List Breakpoint → List Stmt
  | [] => []
  | smallest :: sizes => [breakpointStmt smallest (smallest :: sizes)]

/-- The values that the variants are chosen by. -/
def variantProps (props : String) : List Breakpoint → Expr
  | [] => .ident props
  | _ :: _ => .inline [.ofString "breakpoint" (.ident "breakpointHook"), .spread (.ident props)]

/-- Overrides that the caller gives win over those of variants. -/
def Component.variantStmts (component : Component) (props overrides : String) : List Stmt :=
  if component.variants.isEmpty then []
  else
    let sizes := component.breakpoints
    let chosen := Expr.call (.ident Hook.variantOverrides.name)
      [.ident "variants", variantProps props sizes]
    .constName "variants" (variantsExpr component.variants) :: breakpointStmts sizes ++
      [.constName overrides
        (.inline [.spread chosen, .spread (.ident (propAlias overrides))])]

end JsxGen
