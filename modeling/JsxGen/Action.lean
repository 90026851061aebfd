import JsxGen.Hook
import JsxGen.PropertyExpr

/-! The actions of a component, each bound to a variable by a statement of its own. -/

namespace JsxGen

open Js

inductive Action where
  | navigation | createItem | updateItem | deleteItem | signOut | mutation
  deriving DecidableEq

namespace Action

def all : List Action := [.navigation, .createItem, .updateItem, .deleteItem, .signOut, .mutation]

def name : Action → String
  | .navigation => "Amplify.Navigation"
  | .createItem => "Amplify.DataStoreCreateItemAction"
  | .updateItem => "Amplify.DataStoreUpdateItemAction"
  | .deleteItem => "Amplify.DataStoreDeleteItemAction"
  | .signOut => "Amplify.AuthSignOut"
  | .mutation => "Amplify.Mutation"

def ofName (name : String) : Except InputError Action :=
  match all.find? (·.name = name) with
  | some action => .ok action
  | none => .error (.unknownAction name)

def hook : Action → Hook
  | .navigation => .navigateAction
  | .createItem => .createAction
  | .updateItem => .updateAction
  | .deleteItem => .deleteAction
  | .signOut => .signOutAction
  | .mutation => .stateMutation

/-- Such actions take the schema of the data as one more argument. -/
def onDataStore : Action → Bool
  | .createItem | .updateItem | .deleteItem => true
  | _ => false

end Action

/-- An action event of an element, and the variable bound to what it does. -/
structure ActionUse where
  handler : String
  event : ActionEvent

def Element.actions (root : Element) : List ActionUse :=
  root.preorder.flatMap fun element =>
    element.events.entries.filterMap fun (name, event) =>
      event.action?.map fun action => ⟨handlerName element.name name, action⟩

/-- The members of an object for the entries of a map, or the first error among them. -/
def members {α : Type} (value : String → α → Except InputError Expr) (entries : List (String × α)) :
    Except InputError (List Member) :=
  entries.mapM fun (key, x) => do
    let e ← value key x
    return .ofString key e

/-- Under the key `model`, a text names a class. -/
def Parameter.toExpr (types : ElementTypes) (key : String) :
    Parameter → Except InputError Expr
  | .literal text => .ok (if key = "model" then .ident (Text.sanitize text) else .str text)
  | .fields ps => do
    let fields ← members (fun _ p => p.toExpr types) ps.entries
    return .inline fields
  | .property p => p.toExpr types
  | .mutation _ => .error (.schema key .stateWithoutMutation)

namespace ActionEvent

def schemaMember : Member := .ofString "schema" (.ident "schema")

/-- The one argument of a hook, if the event has parameters. -/
def arguments (types : ElementTypes) (action : Action) (event : ActionEvent) :
    Except InputError (Option Expr) :=
  match event.parameters with
  | none => .ok none
  | some parameters => do
    let given ← members (Parameter.toExpr types) parameters.entries
    return some (.inline (given ++ if action.onDataStore then [schemaMember] else []))

/-- A function that sets a state to the value of the first mutation among the parameters. -/
def mutationStmt (types : ElementTypes) (handler : String) (event : ActionEvent) :
    Except InputError Stmt :=
  match event.mutation? with
  | none => .error (.schema handler .mutationWithoutState)
  | some mutation => do
    let value ← mutation.value.toExpr types
    let setter := (types.resolve mutation.target).setter
    return .constName handler (.arrowBlock [] [.expr (.call (.ident setter) [value])])

def toStmt (types : ElementTypes) (handler : String) (event : ActionEvent) :
    Except InputError Stmt := do
  let action ← Action.ofName event.action
  if action = .mutation then event.mutationStmt types handler
  else
    let argument ← event.arguments types action
    return .constName handler (.call (.ident action.hook.name) argument.toList)

end ActionEvent

end JsxGen
