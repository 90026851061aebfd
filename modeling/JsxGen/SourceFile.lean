import JsxGen.Action
import JsxGen.Collection
import JsxGen.Js.Printer
import JsxGen.SourceOptions
import JsxGen.Validation
import JsxGen.VariantOverrides

/-! The source file of a component: one exported function that returns its markup. -/

namespace JsxGen

open Js

structure SourceFile where
  name : String
  text : String
  deriving DecidableEq

def SourceFile.fileName (file : SourceFile) : String := file.name ++ ".jsx"

def propsVariable : String := "props"
def overridesVariable : String := "overrides"
def restVariable : String := "rest"

def overridesSpread (element : String) : JsxAttribute :=
  .spread (.call (.ident Hook.overrideProps.name) [.ident overridesVariable, .str element])

def undefinedExpr : Expr := .ident "undefined"

namespace Component

/-- Collections are bound to other names, and so are overrides if they are computed. -/
def propsStmt (component : Component) : Stmt :=
  let keys := component.queries.map Prod.fst
  let props := (component.bindings.keys.filter (· ∉ keys)).map fun key => (key, none)
  let collections := keys.map fun key => (key, some (propAlias key))
  let overrides :=
    if component.variants.isEmpty then none else some (propAlias overridesVariable)
  .const (.object (props ++ collections ++ [(overridesVariable, overrides)]) (some restVariable))
    (.ident propsVariable)

end Component

def authStmt : Stmt :=
  .constName authVariable (.binary
    (.member (.member (.call (.ident Hook.auth.name) []) "user" false) "attributes" true)
    .nullish (.inline []))

/-- The key of the property that an element shows under an attribute. -/
def attributeSource (element : Element) (attribute_ : String) : String :=
  if attribute_ = "children" then (childProp? element.type).getD "children" else attribute_

/-- What the element gives a state at first; a state given by another state starts undefined. -/
def initialState (types : ElementTypes) (root : Element) (ref : StateRef) :
    Except InputError Expr :=
  match root.find? ref.component with
  | none => .ok undefinedExpr
  | some element =>
    match element.properties.get? (attributeSource element ref.property) with
    | none | some (.state _) => .ok undefinedExpr
    | some property => property.toExpr types

def stateStmt (types : ElementTypes) (root : Element) (ref : StateRef) :
    Except InputError Stmt := do
  let initial ← initialState types root ref
  return .const (.array [ref.getter, ref.setter]) (.call (.ident Hook.stateMutation.name) [initial])

namespace Element

/-- The attribute under which an element of a type shows a property. -/
def attributeName (type key : String) : String :=
  if childProp? type = some key then "children" else key

/-- A property that some part of the tree keeps as state is read from there. -/
def propertyAttribute (usage : Usage) (element : Element) (entry : String × Property) :
    Except InputError JsxAttribute := do
  let name := attributeName element.type entry.1
  let ref : StateRef := ⟨element.name, name⟩
  let value ← if ref ∈ usage.states then .ok (.ident ref.getter) else entry.2.toExpr usage.types
  return .named name value

/-- State of the element that its own properties do not show. -/
def stateAttributes (usage : Usage) (element : Element) : List JsxAttribute :=
  let shown := element.properties.keys.map (attributeName element.type)
  (usage.states.filter fun ref => ref.component = element.name && ref.property ∉ shown).map
    fun ref => .named ref.property (.ident ref.getter)

def eventAttributes (element : Element) : List JsxAttribute :=
  element.events.entries.map fun (name, event) =>
    let handler :=
      match event with
      | .action _ => handlerName element.name name
      | .binding prop => prop
    .named (eventAttribute name) (.ident handler)

def attributes (usage : Usage) (element : Element) : Except InputError (List JsxAttribute) := do
  let properties ← element.properties.entries.mapM (element.propertyAttribute usage)
  return properties ++ element.stateAttributes usage ++ element.eventAttributes

mutual

def toJsx (usage : Usage) : Element → Except InputError JsxElement
  | element@⟨_, _, _, children, _⟩ => do
    let attributes ← element.attributes usage
    let children ← toJsxAll usage children
    return ⟨element.type, attributes ++ [overridesSpread element.name], children.map .element⟩

def toJsxAll (usage : Usage) : List Element → Except InputError (List JsxElement)
  | [] => .ok []
  | child :: children => do
    let first ← child.toJsx usage
    let rest ← toJsxAll usage children
    return first :: rest

end

end Element

namespace Component

/-- The markup of each item of a collection, made from the one child that the component has. -/
def itemChildren (usage : Usage) (component : Component) : Except InputError (List JsxChild) :=
  match component.root.children with
  | [] => .ok []
  | [template] => do
    let item ← template.toJsx usage
    let key : JsxAttribute := .named "key" (.member (.ident itemVariable) "id" false)
    return [.expr (.arrow [itemVariable, "index"]
      (.jsx { item with attributes := key :: item.attributes }))]
  | _ => .error (.schema component.name .severalTemplates)

def itemsAttribute (key : String) : JsxAttribute :=
  .named key (.binary (.ident key) .or (.array []))

/-- The root also takes the rest of the props and, in a collection, the items. -/
def rootJsx (usage : Usage) (component : Component) : Except InputError JsxElement := do
  let root := component.root
  let attributes ← root.attributes usage
  let children ←
    match component.collections with
    | some _ => component.itemChildren usage
    | none => (Element.toJsxAll usage root.children).map (·.map .element)
  let items := component.queries.map fun query => itemsAttribute query.1
  return ⟨root.type,
    attributes ++ items ++ [.spread (.ident restVariable), overridesSpread root.name], children⟩

/-- The statements of the function, each after those that bind what it uses. -/
def body (options : SourceOptions) (component : Component) : Except InputError (List Stmt) := do
  let usage := component.usage
  let states ← usage.states.mapM (stateStmt usage.types component.root)
  let actions ← component.root.actions.mapM fun use => use.event.toStmt usage.types use.handler
  let markup ← component.rootJsx usage
  return component.propsStmt :: component.variantStmts propsVariable overridesVariable ++
    (if usage.auth then [authStmt] else []) ++ states ++ actions ++
    component.collectionStmts options.relatedSchema ++ [.ret (.jsx markup)]

def render (options : SourceOptions) (component : Component) : Except InputError SourceFile := do
  component.validate
  let body ← component.body options
  let name := functionName component.name
  let function := Stmt.function name [propsVariable] body true
  return ⟨name, moduleText options.indentWidth [function]⟩

end Component

end JsxGen
